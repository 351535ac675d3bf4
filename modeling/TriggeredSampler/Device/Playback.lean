import TriggeredSampler.Device.Basic

/-! # A device that plays prepared answers

A `Playback` has no behaviour of its own. Each request takes its answer from a list prepared for
requests of its kind, and every request is recorded. Starting and stopping first raise the reports
prepared for them, all at once.

* `Playback.device` — the behaviour.
* `Playback.takeCalls` — the requests recorded since they were last taken.
-/

namespace TriggeredSampler

/-- The answers prepared for a device, and the requests it got. -/
structure Playback where
  /-- The outcomes of writes: a fault, or success; behind the last one all succeed. -/
  writes : List (Option DeviceFault)
  /-- The outcomes of storing a configuration. -/
  stores : List (Option DeviceFault)
  /-- The outcomes of starts. -/
  starts : List (Option DeviceFault)
  /-- The outcomes of stops. -/
  stops : List (Option DeviceFault)
  /-- The phases reported; the last one repeats. -/
  phases : List (Except DeviceFault Phase)
  /-- The data handed out; behind the last element there is none. -/
  data : List (Except DeviceFault (List Batch))
  /-- The records read back; behind the last one there is a default configuration. -/
  records : List (Except DeviceFault (List UInt8))
  /-- The fault behind a reported failure. -/
  fault : Option DeviceFault
  /-- The reports that the next start raises. -/
  onStart : List Report
  /-- The reports that the next stop raises. -/
  onStop : List Report
  /-- The requests recorded, latest first. -/
  calls : List (Handle × Request)

namespace Playback

/-- Nothing is prepared: every request succeeds on an unconfigured sampler. -/
def blank : Playback where
  writes := []
  stores := []
  starts := []
  stops := []
  phases := [.ok .unconfigured]
  data := []
  records := []
  fault := none
  onStart := []
  onStop := []
  calls := []

/-- The next of some outcomes. -/
def outcome (prepared : List (Option DeviceFault)) : Except DeviceFault Unit :=
  match prepared.headD none with
  | none => .ok ()
  | some fault => .error fault

/-- The next of the records read back. -/
def nextConfiguration (records : List (Except DeviceFault (List UInt8))) :
    Except DeviceFault Configuration :=
  match records.head? with
  | none => .ok default
  | some (.error fault) => .error fault
  | some (.ok record) => Configuration.recall record

/-- The phases left after one was reported: the last one stays. -/
def phasesLeft (phases : List (Except DeviceFault Phase)) : List (Except DeviceFault Phase) :=
  match phases with
  | _ :: next :: rest => next :: rest
  | few => few

/-- Records a request, and raises what is prepared for a start or a stop. -/
def announce (h : Handle) (r : Request) (p : Playback) : List Report × Playback :=
  let called := { p with calls := (h, r) :: p.calls }
  match r with
  | .start .. => (p.onStart, { called with onStart := [] })
  | .stop => (p.onStop, { called with onStop := [] })
  | _ => ([], called)

/-- Takes the answer prepared for a request. -/
def answer (r : Request) (p : Playback) : r.Answer × Playback :=
  match r with
  | .write .. => (outcome p.writes, { p with writes := p.writes.tail })
  | .configure .. => (outcome p.stores, { p with stores := p.stores.tail })
  | .configuration => (nextConfiguration p.records, { p with records := p.records.tail })
  | .start .. => (outcome p.starts, { p with starts := p.starts.tail })
  | .stop => (outcome p.stops, { p with stops := p.stops.tail })
  | .phase => (p.phases.headD (.ok .unconfigured), { p with phases := phasesLeft p.phases })
  | .data => (p.data.headD (.ok []), { p with data := p.data.tail })
  | .fault => (p.fault, p)

/-- The behaviour of a playback. Time raises nothing, and the sender of a refused start is dropped. -/
def device : Device Playback where
  announce := announce
  answer _ := answer
  sent _ _ _ p := p
  advance p := ([], p)
  holdsOn _ _ := false

/-- The requests recorded since they were last taken, oldest first. -/
def takeCalls (p : Playback) : List (Handle × Request) × Playback :=
  (p.calls.reverse, { p with calls := [] })

end Playback

end TriggeredSampler
