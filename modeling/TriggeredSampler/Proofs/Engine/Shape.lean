import TriggeredSampler.Proofs.Engine.Reads
import TriggeredSampler.Proofs.Lifecycle

/-! # What a tick can do

A tick checks the start trigger and then does one of a few things with the engine that came out of the
check. `Engine.Opening` and `Engine.Advance` list them, with the conditions under which they happen;
whatever is proved of ticks is proved case by case along these lists.

* `Engine.awaitStart_opening` — the check of the start trigger.
* `Engine.tick_advance` — the rest of the tick.
-/

namespace TriggeredSampler.Engine

variable {ρ : Type} (source : Source ρ) (now : Nat)

/-- What the check of the start trigger makes of an engine. -/
inductive Opening (e : Engine) : Engine → Prop
  /-- The engine does not wait. -/
  | idle (busy : e.phase ≠ .ready) : Opening e e
  /-- The trigger's address could not be read. -/
  | failed (ready : e.phase = .ready) (fault : DeviceFault) : Opening e (e.fail fault)
  /-- The trigger is not met. -/
  | waiting (ready : e.phase = .ready) (seen : Option Int) : Opening e { e with startSeen := seen }
  /-- The trigger is met. -/
  | opened (ready : e.phase = .ready) (seen : Option Int) :
      Opening e ({ e with startSeen := seen }.openIteration now)

theorem awaitStart_opening (e : Engine) (r : ρ) :
    e.Opening now (e.awaitStart source now r).1 := by
  unfold awaitStart
  split
  next ready =>
    obtain ⟨result, _⟩ := source.check e.configuration.start e.startSeen r
    cases result with
    | error fault => exact .failed ready fault
    | ok check =>
      simp only
      by_cases met : check.met
      · rw [if_pos met]
        exact .opened ready check.seen
      · rw [if_neg met]
        exact .waiting ready check.seen
  next busy => exact .idle busy

/-- What a tick makes of an engine that has checked its start trigger, and whether it stores a row. -/
inductive Advance (e : Engine) (r : ρ) : Engine → Bool → Prop
  /-- No iteration is under way. -/
  | idle (still : e.phase ≠ .running) : Advance e r e false
  /-- The duration is over. -/
  | elapsed (running : e.phase = .running) (elapsed : e.durationOver now = true) :
      Advance e r e.closeIteration false
  /-- A tracked address could not be read. -/
  | failed (running : e.phase = .running) (fault : DeviceFault) : Advance e r (e.fail fault) false
  /-- The row completes the quota. -/
  | full (running : e.phase = .running) (values : List Int) (next : ρ)
      (read : source.readAll e.configuration.tracked r = (.ok values, next))
      (full : (e.store now values).quotaReached = true) :
      Advance e r (e.store now values).closeIteration true
  /-- The stop trigger is met behind the row. -/
  | stopped (running : e.phase = .running) (values : List Int) (next : ρ)
      (read : source.readAll e.configuration.tracked r = (.ok values, next)) (seen : Option Int) :
      Advance e r ({ e.store now values with stopSeen := seen }.closeIteration) true
  /-- The stop trigger's address could not be read. -/
  | stopFailed (running : e.phase = .running) (values : List Int) (next : ρ)
      (read : source.readAll e.configuration.tracked r = (.ok values, next))
      (room : (e.store now values).quotaReached = false) (fault : DeviceFault) :
      Advance e r ((e.store now values).fail fault) true
  /-- The iteration goes on. -/
  | kept (running : e.phase = .running) (values : List Int) (next : ρ)
      (read : source.readAll e.configuration.tracked r = (.ok values, next))
      (room : (e.store now values).quotaReached = false) (seen : Option Int) :
      Advance e r { e.store now values with stopSeen := seen } true

theorem sample_advance {e : Engine} (running : e.phase = .running) (r : ρ) :
    e.Advance source now r (e.sample source now r).engine (e.sample source now r).sampled := by
  unfold sample
  rcases read : source.readAll e.configuration.tracked r with ⟨result, next⟩
  cases result with
  | error fault => exact .failed running fault
  | ok values =>
    simp only
    split
    next full => exact .full running values next read full
    next room =>
      have room : (e.store now values).quotaReached = false := by simpa using room
      unfold checkStop
      split
      next set =>
        rcases source.check (e.store now values).configuration.stop (e.store now values).stopSeen next
          with ⟨fault | check, _⟩
        · exact .stopFailed running values next read room fault
        · simp only
          by_cases met : check.met
          · rw [if_pos met]
            exact .stopped running values next read check.seen
          · rw [if_neg met]
            exact .kept running values next read room check.seen
      next => exact .kept running values next read room (e.store now values).stopSeen

/-- What a tick does behind the check of the start trigger. -/
theorem tick_advance (e : Engine) (r : ρ) :
    (e.awaitStart source now r).1.Advance source now (e.awaitStart source now r).2
      (e.tick source now r).engine (e.tick source now r).sampled := by
  unfold tick
  simp only
  split
  next still => exact .idle still
  next running =>
    have running : (e.awaitStart source now r).1.phase = .running := by simpa using running
    split
    next elapsed => exact .elapsed running elapsed
    next => exact sample_advance source now running _

/-! ## Phases -/

section Phases

variable {e opened : Engine}

theorem phase_openIteration (ready : e.phase = .ready) : (e.openIteration now).phase = .running := by
  unfold openIteration phase at *
  cases lifecycle : e.lifecycle <;> simp_all [Lifecycle.phase, Lifecycle.fire]

/-- Only an engine that was not started can be armed; it then waits for its start trigger. -/
theorem arm_eq_ok {armed : Engine} (ok : e.arm = .ok armed) :
    e.lifecycle = .configured ∧ armed = { e with lifecycle := .ready } := by
  unfold arm at ok
  cases lifecycle : e.lifecycle <;> rw [lifecycle] at ok <;> cases ok
  exact ⟨rfl, rfl⟩

theorem isTerminal_of_running (running : e.phase = .running) : e.phase.isTerminal = false := by
  rw [running]
  rfl

theorem phase_fail {fault : DeviceFault} (going : e.phase.isTerminal = false) :
    (e.fail fault).phase = .failed := by
  unfold fail phase at *
  rw [Lifecycle.fail_of_not_isTerminal going, Lifecycle.phase_failed]

/-- A closed iteration is followed by the next one, or the run is completed. -/
theorem phase_closeIteration (running : e.phase = .running) :
    e.closeIteration.phase = if e.configuration.mode = .repetitive then .ready else .completed := by
  unfold closeIteration phase at *
  have lifecycle : e.lifecycle = .running := by
    cases lifecycle : e.lifecycle <;> simp_all [Lifecycle.phase]
  by_cases again : e.configuration.mode = .repetitive <;>
    simp [again, lifecycle, Lifecycle.finish, Lifecycle.phase]

theorem iteration_closeIteration :
    e.closeIteration.iteration =
      if e.configuration.mode = .repetitive then e.iteration + 1 else e.iteration := by
  have kept : e.flush.iteration = e.iteration := by
    unfold flush
    simp only
    split <;> rfl
  unfold closeIteration
  by_cases again : e.configuration.mode = .repetitive <;> simp [again, kept]

theorem Opening.configuration (opening : e.Opening now opened) :
    opened.configuration = e.configuration := by
  cases opening <;> rfl

theorem Opening.iteration (opening : e.Opening now opened) : opened.iteration = e.iteration := by
  cases opening <;> rfl

theorem Opening.finished (opening : e.Opening now opened) : opened.finished = e.finished := by
  cases opening <;> rfl

theorem Opening.columns (opening : e.Opening now opened) : opened.columns = e.columns := by
  cases opening <;> rfl

end Phases

end TriggeredSampler.Engine
