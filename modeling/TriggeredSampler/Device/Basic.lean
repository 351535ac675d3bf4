import TriggeredSampler.Configuration.Record
import TriggeredSampler.Failure
import TriggeredSampler.Sample.Basic

/-! # Devices

A `Device` is known by its behaviour: what it answers to a `Request`, which `Report`s it raises while
it serves one, which it raises as time passes, what becomes of it when a report was sent, and whether it
holds on to the sender of the reports of a start it refuses. All of it may depend on a state `σ`. A sampler reports to the run that was last started on its handle with a
handler for reports.

* `Configuration.recall` — how a device reads a record.
* `Request.Answer` — the type of the answer to a request.
* `Device` — the behaviour of a device.
-/

namespace TriggeredSampler

/-- The number of a connected device. -/
structure Handle where
  id : Nat
deriving DecidableEq, Inhabited

/-- The written form of a handle. -/
def Handle.text (h : Handle) : String := "#" ++ toString h.id

/-- The configuration that a device reads out of a record. -/
def Configuration.recall (record : List UInt8) : Except DeviceFault Configuration :=
  (decode record).mapError fun flaw => .ofDefect flaw.defect

/-- What a running sampler tells: its phase, the data since the last report, and the tag that its
run was started with. -/
structure Report where
  phase : Phase
  /-- Set if the sampler failed. -/
  fault : Option DeviceFault
  data : List Batch
  tag : Int
deriving DecidableEq

/-- What a session asks of a device. -/
inductive Request where
  /-- Write a value to an address, with a width in bits. -/
  | write (address : Address) (value : Int) (bits : Nat)
  /-- Store a configuration. -/
  | configure (configuration : Configuration)
  /-- Read the stored configuration back. -/
  | configuration
  /-- Start the configured sampler, to be reported on or to be polled. -/
  | start (reported : Bool) (tag : Int)
  /-- Stop the sampler. -/
  | stop
  /-- The phase of the sampler. -/
  | phase
  /-- The data buffered since it was last asked for. -/
  | data
  /-- The fault that ended the run, if any. -/
  | fault
deriving DecidableEq

/-- What a device answers to a request. -/
@[reducible] def Request.Answer : Request → Type
  | .write .. => Except DeviceFault Unit
  | .configure .. => Except DeviceFault Unit
  | .configuration => Except DeviceFault Configuration
  | .start .. => Except DeviceFault Unit
  | .stop => Except DeviceFault Unit
  | .phase => Except DeviceFault Phase
  | .data => Except DeviceFault (List Batch)
  | .fault => Option DeviceFault

/-- The behaviour of a device with states in `σ`. A request is first announced and then answered;
whatever the announcement raises is handled before the answer is given. -/
structure Device (σ : Type) where
  /-- The reports raised while a request is served, before it is answered. -/
  announce : Handle → Request → σ → List Report × σ
  /-- The answer to a request. -/
  answer : Handle → (r : Request) → σ → r.Answer × σ
  /-- A report was sent: the sender is told whether anybody listens. -/
  sent : Handle → Report → (heard : Bool) → σ → σ
  /-- A millisecond passes: the reports it raises, with the handles they come from. -/
  advance : σ → List (Handle × Report) × σ
  /-- A start was refused: the device holds on to the sender of its reports all the same. -/
  holdsOn : Handle → σ → Bool

end TriggeredSampler
