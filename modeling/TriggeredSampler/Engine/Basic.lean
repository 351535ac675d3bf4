import TriggeredSampler.Configuration.Validity
import TriggeredSampler.Lifecycle
import TriggeredSampler.Sample.Basic
import TriggeredSampler.Storage.Ring

/-! # The sampling engine

An `Engine` executes one configuration. It keeps no clock and does no input: its owner ticks it once
per sampling period (`TriggeredSampler.Engine.Tick`). The readings of each tracked address go into a
ring of their own; when an iteration ends or the data is taken, the rings are emptied into a batch.

* `Engine.new?` — the engine of a configuration, or the configuration's defect.
* `Engine.store` — keeps a row of readings.
* `Engine.closeIteration` — ends the current iteration.
* `Engine.takeData` — hands out everything sampled so far.
-/

namespace TriggeredSampler

/-- One execution of a configuration. -/
structure Engine where
  configuration : Configuration
  lifecycle : Lifecycle DeviceFault
  /-- The readings not yet in a batch, one ring per tracked address. -/
  columns : List (Ring Reading)
  /-- The batches not yet taken, oldest first. -/
  finished : List Batch
  /-- The number of samples that completes an iteration of a firmware sampler. -/
  quota : Option Nat
  iteration : Nat
  /-- When the current iteration started. -/
  startedAt : Nat
  /-- The number of samples in the current iteration. -/
  taken : Nat
  /-- The latest reading of the start trigger's address while waiting. -/
  startSeen : Option Int
  /-- The latest reading of the stop trigger's address in this iteration. -/
  stopSeen : Option Int

namespace Engine

/-- The number of readings a software sampler keeps per address between two drains. -/
def softwareCapacity : Nat := 4096

/-- An engine with rings of the given capacity. -/
def prepare (c : Configuration) (capacity : Nat) (quota : Option Nat) : Engine where
  configuration := c
  lifecycle := .configured
  columns := c.tracked.map fun _ => Ring.empty capacity
  finished := []
  quota := quota
  iteration := 0
  startedAt := 0
  taken := 0
  startSeen := none
  stopSeen := none

/-- The engine of a valid configuration. A firmware sampler gets the banks of its plan and stops at
the planned number of samples. -/
def new? (c : Configuration) : Except Defect Engine :=
  match c.validate with
  | .error defect => .error defect
  | .ok () =>
    match c.sampleCount with
    | none => .ok (prepare c softwareCapacity none)
    | some samples =>
      (Plan.make? c.tracked.length samples).map fun plan =>
        prepare c plan.capacityPerAddress (some plan.samplesPerAddress)

/-- The phase of the run. -/
def phase (e : Engine) : Phase := e.lifecycle.phase

/-- The fault that ended the run. -/
def fault (e : Engine) : Option DeviceFault := e.lifecycle.cause

/-- From now on each tick checks the start trigger. -/
def arm (e : Engine) : Except Misuse Engine :=
  e.lifecycle.arm.map fun l => { e with lifecycle := l }

/-- Ends the run from outside; `false` if it is over. -/
def cancel (e : Engine) : Bool × Engine :=
  let (changed, l) := e.lifecycle.cancel
  (changed, { e with lifecycle := l })

/-- Ends the run by a fault. -/
def fail (e : Engine) (fault : DeviceFault) : Engine :=
  { e with lifecycle := (e.lifecycle.fail fault).2 }

/-- The first `count` values of each column, row by row. -/
def rowsOf {α : Type} : Nat → List (List α) → List (List α)
  | 0, _ => []
  | count + 1, columns => columns.filterMap List.head? :: rowsOf count (columns.map List.tail)

/-- The number of rows that all columns can give. -/
def height {α : Type} (columns : List (List α)) : Nat :=
  (columns.map List.length).min?.getD 0

/-- Empties the rings into a batch of the current iteration, if they hold whole rows. -/
def flush (e : Engine) : Engine :=
  let columns := e.columns.map Ring.toList
  let drained := { e with columns := e.columns.map fun ring => ring.drain.2 }
  if height columns = 0 then drained
  else
    { drained with
      finished := e.finished ++ [⟨e.iteration, (rowsOf (height columns) columns).flatten⟩] }

/-- Keeps the values read at `now`, one for each column. -/
def store (e : Engine) (now : Nat) (values : List Int) : Engine :=
  { e with
    columns := List.zipWith (fun ring value => (ring.push ⟨value, now⟩).2) e.columns values
    taken := e.taken + 1 }

/-- Ends the current iteration. A repetitive sampler waits for the next one. -/
def closeIteration (e : Engine) : Engine :=
  let again := e.configuration.mode == .repetitive
  let closed := { e.flush with lifecycle := (e.lifecycle.finish again).2 }
  if again then { closed with iteration := e.iteration + 1, startSeen := none } else closed

/-- Hands out everything sampled so far, oldest first. -/
def takeData (e : Engine) : List Batch × Engine :=
  (e.flush.finished, { e.flush with finished := [] })

end Engine

end TriggeredSampler
