import TriggeredSampler.Device.Basic
import TriggeredSampler.Device.Registers
import TriggeredSampler.Engine.Tick

/-! # One simulated device

A `Node` has registers and a sampler. The sampler stores a configuration as its record; a start sets
a `Worker` going that ticks an engine once per period, on the grid of the period, and publishes after
every tick what it sampled: to the handler of its run, or into the node's buffer.

The worker runs on a thread of its own, which the system may refuse; the reason it gives comes in as the
`refusal` of a start.

* `Node.configure`, `Node.start`, `Node.stop` — the requests to the sampler.
* `Node.pass` — a millisecond passes.
* `Node.publish` — what is known of a run goes where it belongs.
-/

namespace TriggeredSampler

/-- What a device tells about its sampler. -/
structure Status where
  phase : Phase
  fault : Option DeviceFault
  /-- The batches that wait to be polled. -/
  data : List Batch

/-- Appends a batch; one that goes on with the iteration of the last batch is merged into it. -/
def Batch.join (data : List Batch) (batch : Batch) : List Batch :=
  match data with
  | [] => [batch]
  | [last] =>
    if last.iteration = batch.iteration then [⟨last.iteration, last.readings ++ batch.readings⟩]
    else [last, batch]
  | first :: rest => first :: Batch.join rest batch

/-- Appends batches to those that wait to be polled. -/
def Status.buffer (s : Status) (batches : List Batch) : Status :=
  { s with data := batches.foldl Batch.join s.data }

/-- A run under way, or over. -/
structure Worker where
  engine : Engine
  /-- The run is reported on. -/
  reported : Bool
  tag : Int
  /-- The number of ticks so far. -/
  ticks : Nat
  /-- The milliseconds until the next tick. -/
  pause : Nat

/-- A simulated device. -/
structure Node where
  registers : Registers
  status : Status
  /-- The stored configuration. -/
  record : Option (List UInt8)
  worker : Option Worker
  /-- The next start fails. -/
  failsStart : Bool
  /-- The milliseconds since the device was connected. -/
  age : Nat

namespace Node

/-- A device that was just connected. -/
def fresh : Node where
  registers := .empty
  status := ⟨.unconfigured, none, []⟩
  record := none
  worker := none
  failsStart := false
  age := 0

/-- The value at an address. -/
def read (n : Node) (a : Address) : Except DeviceFault Int :=
  n.registers.read (n.age / 1000) a

/-- Publishes the state and data of a run. A run that is reported on raises a report if it has data
or its phase changed; any other adds its data to the buffer. -/
def publish (n : Node) (w : Worker) (changed : Bool) : List Report × Node :=
  let (data, engine) := w.engine.takeData
  let status := { n.status with phase := engine.phase, fault := engine.fault }
  let kept := { n with worker := some { w with engine := engine } }
  if w.reported then
    (if changed || !data.isEmpty then [⟨engine.phase, engine.fault, data, w.tag⟩] else [],
      { kept with status := status })
  else ([], { kept with status := status.buffer data })

/-- The worker ticks and publishes. -/
def tick (n : Node) (w : Worker) : List Report × Node :=
  let period := w.engine.configuration.period.toNat
  let source : Source Unit := fun a r => (n.read a, r)
  let done := w.engine.tick source (w.ticks * period) ()
  n.publish { w with engine := done.engine, ticks := w.ticks + 1, pause := period }
    (done.engine.phase != w.engine.phase)

/-- The worker's run ends from outside, and it publishes for the last time. -/
def cancel (n : Node) (w : Worker) : List Report × Node :=
  n.publish { w with engine := w.engine.cancel.2 } true

/-- A millisecond passes: a worker whose pause is over ticks. -/
def pass (n : Node) : List Report × Node :=
  let older := { n with age := n.age + 1 }
  match n.worker with
  | none => ([], older)
  | some w =>
    if w.engine.phase.isTerminal then ([], older)
    else
      let (reports, ticked) := if w.pause = 0 then n.tick w else ([], n)
      let waiting := ticked.worker.map fun w => { w with pause := w.pause - 1 }
      (reports, { ticked with age := n.age + 1, worker := waiting })

/-- The sampler stops: its worker ticks at least once, is cancelled if its run is not over then, and
is gone. Without a worker a configured sampler is cancelled. -/
def stop (n : Node) : List Report × Node :=
  match n.worker with
  | none =>
    let idle := n.status.phase = .unconfigured ∨ n.status.phase.isTerminal
    ([], if idle then n else { n with status := { n.status with phase := .cancelled } })
  | some w =>
    let (first, begun) :=
      if w.ticks = 0 && !w.engine.phase.isTerminal then n.tick w else ([], n)
    let (last, ended) :=
      match begun.worker with
      | none => ([], begun)
      | some w => if w.engine.phase.isTerminal then ([], begun) else begun.cancel w
    (first ++ last, { ended with worker := none })

/-- Stores a valid configuration, unless a run is active. -/
def configure (n : Node) (c : Configuration) : Except DeviceFault Unit × Node :=
  match c.validate with
  | .error defect => (.error (.ofDefect defect), n)
  | .ok () =>
    if n.status.phase.isActive then (.error ⟨.busy, 0, "sampler is active"⟩, n)
    else (.ok (), { n with record := some c.encode, status := ⟨.configured, none, []⟩ })

/-- Reads the stored configuration back. -/
def configuration (n : Node) : Except DeviceFault Configuration :=
  match n.record with
  | none => .error ⟨.unavailable, 0, "sampler is not configured"⟩
  | some record => Configuration.recall record

/-- An engine for the stored configuration that waits for its start trigger. -/
def armedEngine (n : Node) : Except DeviceFault Engine :=
  match n.record with
  | none => .error ⟨.invalidArguments, 0, "sampler is not configured"⟩
  | some record => do
    let engine ← (Engine.new? (← Configuration.recall record)).mapError .ofDefect
    engine.arm.mapError fun m => ⟨.invalidArguments, 0, m.message⟩

/-- Starts the stored configuration, unless a fault was injected or a run is active. The last worker is
gone and the sampler is ready before a thread is asked for, and stays so if there is none. -/
def start (n : Node) (reported : Bool) (tag : Int) (refusal : Option String := none) :
    Except DeviceFault Unit × Node :=
  if n.failsStart then
    (.error ⟨.general, 0, "sampler start rejected by the device"⟩, { n with failsStart := false })
  else if n.status.phase.isActive then (.error ⟨.busy, 0, "sampler is active"⟩, n)
  else
    match n.armedEngine with
    | .error fault => (.error fault, n)
    | .ok engine =>
      match refusal with
      | some reason =>
        (.error (.ofRefusal reason), { n with status := ⟨.ready, none, []⟩, worker := none })
      | none =>
        (.ok (), { n with
          status := ⟨.ready, none, []⟩
          worker := some ⟨engine, reported, tag, 0, 0⟩ })

/-- What a request raises before it is answered: only a stop raises anything. -/
def announce (n : Node) : Request → List Report × Node
  | .stop => n.stop
  | _ => ([], n)

/-- The answer to a request. A worker gets its thread unless the system has a reason to refuse it. -/
def answer (n : Node) (r : Request) (refusal : Option String := none) : r.Answer × Node :=
  match r with
  | .write a value bits =>
    let (result, registers) := n.registers.write a value bits
    (result, { n with registers := registers })
  | .configure c => n.configure c
  | .configuration => (n.configuration, n)
  | .start reported tag => n.start reported tag refusal
  | .stop => (.ok (), n)
  | .phase => (.ok n.status.phase, n)
  | .data => (.ok n.status.data, { n with status := { n.status with data := [] } })
  | .fault => (n.status.fault, n)

end Node

end TriggeredSampler
