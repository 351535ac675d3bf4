import TriggeredSampler.Device.Basic
import TriggeredSampler.Lifecycle
import TriggeredSampler.Sample.Numbering

/-! # Sessions

A `Session` is a client's side of one sampler: the configuration it accepted, its own lifecycle, the
numbering of its samples, and, while a handler receives the reports of a run, the `Delivery` of
those reports.

* `Session.follow` — takes over a reported phase.
* `Session.checkData` — whether every batch holds whole samples.
* `Session.accept` — turns a report into the `Notice` that the handler gets to see.
* `Session.closing` — the last notice of a run that the session ended by itself.
-/

namespace TriggeredSampler

/-- The tuning of a session. -/
structure Options where
  /-- The pause between two looks of a wait, in milliseconds; with none the wait looks all the time. -/
  pollInterval : Nat
  /-- How long a wait goes on, in milliseconds. -/
  waitLimit : Nat
  /-- The start trigger's address is written around a start. -/
  armsTrigger : Bool
  /-- The width of those writes. -/
  triggerBits : Nat
deriving DecidableEq

/-- The usual tuning. -/
def Options.standard : Options := ⟨50, 30000, true, 32⟩

/-- The number of looks that a wait takes between two pauses. A wait without a poll interval takes a
thousand in each millisecond, so a look of it lasts a microsecond. -/
def Options.looks (o : Options) : Nat := if o.pollInterval = 0 then 1000 else 1

/-- What a handler gets to see. -/
structure Notice where
  /-- The phase of the session after the report was applied. -/
  phase : Phase
  /-- What failed the run, or the last panic of the handler. -/
  failure : Option Failure
  data : List Batch
  /-- The data split into samples and numbered. -/
  rows : List Row
  tag : Int
deriving DecidableEq

/-- What a handler does with a notice. -/
inductive Reaction where
  | nothing
  | stop
  | configure (configuration : Configuration)
  | start (tag : Int)
  | poll
  /-- Drops the session. -/
  | drop
  /-- Panics, with a text or with something that is none. -/
  | panic (message : Option String)
deriving DecidableEq

/-- What a handler's call returned. -/
inductive Outcome where
  /-- There was no call, or no session to call. -/
  | silent
  | finished (result : Except Failure Unit)
  | polled (result : Except Failure (List Batch))

/-- A notice together with what came of the handler's reaction. -/
structure Note where
  notice : Notice
  outcome : Outcome

/-- The delivery of the reports of a run that has not delivered its last notice. -/
structure Delivery where
  /-- The tag of the start. -/
  tag : Int
  /-- How the handler reacts to its next notices; behind the last one it does nothing. -/
  reactions : List Reaction
  /-- The reports that wait to be delivered. -/
  queue : List Report

/-- A client's side of one sampler. -/
structure Session where
  handle : Handle
  options : Options
  /-- The last accepted configuration. -/
  configuration : Option Configuration
  lifecycle : Lifecycle Failure
  /-- The number of readings in a sample. -/
  tracked : Nat
  numbering : Numbering
  /-- The data goes to a handler and cannot be polled. -/
  notified : Bool
  /-- The delivery under way. -/
  delivery : Option Delivery
  /-- The last panic of the handler. -/
  panic : Option String
  /-- The session was not dropped. -/
  live : Bool
  /-- What the handlers have seen, oldest first. -/
  notes : List Note
  /-- An operation waits for a delivery that nothing will end. -/
  stalled : Bool

namespace Session

/-- A session that was just bound. -/
def bind (handle : Handle) (options : Options) : Session where
  handle := handle
  options := options
  configuration := none
  lifecycle := .unconfigured
  tracked := 0
  numbering := .start 0
  notified := false
  delivery := none
  panic := none
  live := true
  notes := []
  stalled := false

/-- The phase of the session. -/
def phase (s : Session) : Phase := s.lifecycle.phase

/-- What failed the run, or else the last panic of the handler. -/
def failure (s : Session) : Option Failure :=
  s.lifecycle.cause <|> s.panic.map .handlerPanicked

/-- Ends the run by a failure, unless it is over. -/
def fail (s : Session) (f : Failure) : Session :=
  { s with lifecycle := (s.lifecycle.fail f).2 }

/-- Ends the run from outside, unless it is over. -/
def cancel (s : Session) : Session :=
  { s with lifecycle := s.lifecycle.cancel.2 }

/-- Takes over a reported phase. A reported failure ends the run with the device's fault; a phase
that cannot be reached is a breach of the protocol, and so is a failure without a fault. -/
def follow (s : Session) (reported : Phase) (fault : Option DeviceFault) : Session :=
  if reported = .failed then
    s.fail ((fault.map Failure.device).getD (.ofBreach .unexplainedFailure))
  else
    match s.lifecycle.follow reported with
    | .ok (_, l) => { s with lifecycle := l }
    | .error other => s.fail (.ofBreach (.unexpectedPhase other s.phase))

/-- The breach of the first batch that does not hold whole samples. -/
def checkData (s : Session) : List Batch → Except Breach Unit
  | [] => .ok ()
  | batch :: rest =>
    match batch.samples s.tracked with
    | .error breach => .error breach
    | .ok _ => s.checkData rest

/-- Numbers the samples of some batches. -/
def number (s : Session) (data : List Batch) : Except Breach (List Row) × Session :=
  let (rows, numbering) := s.numbering.number data
  (rows, { s with numbering := numbering })

/-- The notice of a state of the session. -/
def notice (s : Session) (data : List Batch) (rows : List Row) (tag : Int) : Notice :=
  ⟨s.phase, s.failure, data, rows, tag⟩

/-- Applies a report. Malformed data fails the run, and none of it is shown. -/
def accept (s : Session) (report : Report) : Notice × Bool × Session :=
  match s.checkData report.data with
  | .error breach =>
    let failed := s.fail (.ofBreach breach)
    (failed.notice [] [] report.tag, true, failed)
  | .ok () =>
    match s.number report.data with
    | (.error _, numbered) => (numbered.notice [] [] report.tag, true, numbered)
    | (.ok rows, numbered) =>
      let followed := numbered.follow report.phase report.fault
      (followed.notice report.data rows report.tag, false, followed)

/-- The last notice of a run that the session ended by itself. -/
def closing (s : Session) (d : Delivery) : Notice :=
  s.notice [] [] d.tag

end Session

end TriggeredSampler
