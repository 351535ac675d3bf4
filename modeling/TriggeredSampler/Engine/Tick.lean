import TriggeredSampler.Engine.Basic
import TriggeredSampler.Engine.Source

/-! # The ticks of an engine

A tick goes through fixed stages. A waiting engine checks its start trigger. A running one that has
used up its duration (in software) closes the iteration; otherwise it reads a row, and closes the
iteration if the row fills the quota or the stop trigger is met. A failed read ends the run, and
keeps nothing of the row it interrupts.

* `Engine.tick` — one tick.
* `Engine.awaitStart`, `Engine.durationOver`, `Engine.quotaReached`, `Engine.checkStop` — its stages.
-/

namespace TriggeredSampler

/-- What is left after a tick. -/
structure Tick (ρ : Type) where
  engine : Engine
  /-- The tick stored a row. -/
  sampled : Bool
  source : ρ

namespace Engine

variable {ρ : Type}

/-- Starts an iteration at `now`. -/
def openIteration (e : Engine) (now : Nat) : Engine :=
  { e with lifecycle := e.lifecycle.fire.2, startedAt := now, taken := 0, stopSeen := none }

/-- A waiting engine checks its start trigger and, if it is met, opens an iteration. -/
def awaitStart (source : Source ρ) (now : Nat) (e : Engine) (r : ρ) : Engine × ρ :=
  if e.phase = .ready then
    match source.check e.configuration.start e.startSeen r with
    | (.error fault, r) => (e.fail fault, r)
    | (.ok check, r) =>
      let seen := { e with startSeen := check.seen }
      (if check.met then seen.openIteration now else seen, r)
  else (e, r)

/-- A software sampler has sampled for its whole duration. -/
def durationOver (e : Engine) (now : Nat) : Bool :=
  e.configuration.software && 0 < e.configuration.duration &&
    e.configuration.duration.toNat ≤ now - e.startedAt

/-- A firmware sampler has taken all its samples. -/
def quotaReached (e : Engine) : Bool :=
  match e.quota with
  | none => false
  | some quota => quota ≤ e.taken

/-- Checks the stop trigger, if there is one, and closes the iteration if it is met. -/
def checkStop (source : Source ρ) (e : Engine) (r : ρ) : Engine × ρ :=
  if e.configuration.stop.isSet then
    match source.check e.configuration.stop e.stopSeen r with
    | (.error fault, r) => (e.fail fault, r)
    | (.ok check, r) =>
      let seen := { e with stopSeen := check.seen }
      (if check.met then seen.closeIteration else seen, r)
  else (e, r)

/-- Reads a row and checks what ends the iteration behind it. -/
def sample (source : Source ρ) (now : Nat) (e : Engine) (r : ρ) : Tick ρ :=
  match source.readAll e.configuration.tracked r with
  | (.error fault, r) => ⟨e.fail fault, false, r⟩
  | (.ok values, r) =>
    let stored := e.store now values
    if stored.quotaReached then ⟨stored.closeIteration, true, r⟩
    else
      let (checked, r) := stored.checkStop source r
      ⟨checked, true, r⟩

/-- One tick, `now` milliseconds after the beginning. -/
def tick (source : Source ρ) (now : Nat) (e : Engine) (r : ρ) : Tick ρ :=
  let (opened, r) := e.awaitStart source now r
  if opened.phase ≠ .running then ⟨opened, false, r⟩
  else if opened.durationOver now then ⟨opened.closeIteration, false, r⟩
  else opened.sample source now r

end Engine

end TriggeredSampler
