import TriggeredSampler.Proofs.Engine.Conservation
import TriggeredSampler.Proofs.Sample.Whole

/-! # What an engine hands out

An engine of a valid configuration only hands out whole samples, and its phase is that of a run that was
started.

* `Tidy.call` — what every call keeps.
* `begun_tick`, `fault_of_failed` — the phases of a run.
-/

namespace TriggeredSampler.Engine

variable {ρ : Type} {c : Configuration} {e : Engine}

/-- The rings hold rows of the tracked addresses, and the batches whole samples. -/
structure Tidy (c : Configuration) (e : Engine) : Prop where
  width : 0 < c.tracked.length
  collects : ∃ capacity quota segment, (∀ q ∈ quota, 0 < q) ∧ Collects c capacity quota segment e
  finished : wholeSamples c.tracked.length e.finished = true

/-- An engine that was just made. -/
theorem Tidy.of_new (accepted : new? c = .ok e) : Tidy c e := by
  obtain ⟨width, capacity, quota, rfl, sized⟩ := new?_eq_ok accepted
  exact ⟨width, ⟨capacity, quota, [], sized.planned, .prepare c capacity quota⟩, rfl⟩

/-- Every call keeps the engine tidy and hands out whole samples. -/
theorem Tidy.call (tidy : Tidy c e) (r : ρ) (call : Call ρ) :
    Tidy c (e.after r call).1 ∧ wholeSamples c.tracked.length (e.handsOut call) = true := by
  obtain ⟨capacity, quota, segment, planned, collects⟩ := tidy.collects
  obtain ⟨closed, current, passes⟩ := collects.call tidy.width planned r call
  -- the batches are those of closed segments, and whatever was finished before
  have whole : wholeSamples c.tracked.length (closed.flatMap (batchesOf capacity)) = true := by
    rw [wholeSamples_iff tidy.width]
    intro batch member
    obtain ⟨rows, listed, within⟩ := List.mem_flatMap.1 member
    obtain ⟨_, proper⟩ := passes.proper rows listed
    exact (proper.whole tidy.width within).2
  have all : wholeSamples c.tracked.length (e.handsOut call ++ (e.after r call).1.finished) = true := by
    rw [passes.finished, wholeSamples_append, tidy.finished, whole]
    rfl
  rw [wholeSamples_append, Bool.and_eq_true] at all
  exact ⟨⟨tidy.width, ⟨capacity, quota, current, planned, passes.collects⟩, all.2⟩, all.1⟩

/-! ## Phases -/

theorem fault_of_failed (failed : e.phase = .failed) : e.fault.isSome = true := by
  unfold phase fault at *
  cases lifecycle : e.lifecycle <;> simp_all [Lifecycle.phase, Lifecycle.cause]

theorem begun_fail (e : Engine) (fault : DeviceFault) : (e.fail fault).phase.begun = true :=
  Phase.begun_of_isTerminal (Lifecycle.isTerminal_fail e.lifecycle fault)

theorem begun_closeIteration (running : e.phase = .running) : e.closeIteration.phase.begun = true := by
  rw [phase_closeIteration running]
  split <;> rfl

theorem begun_tick (source : Source ρ) (now : Nat) (r : ρ) (begun : e.phase.begun = true) :
    (e.tick source now r).engine.phase.begun = true := by
  -- the check of the start trigger first, then the rest of the tick
  have checked : (e.awaitStart source now r).1.phase.begun = true := by
    have opening := awaitStart_opening source now e r
    generalize (e.awaitStart source now r).1 = opened at opening ⊢
    cases opening with
    | idle _ => exact begun
    | failed _ fault => exact begun_fail e fault
    | waiting _ seen => exact begun
    | opened ready seen =>
      rw [phase_openIteration now (e := { e with startSeen := seen }) ready]
      rfl
  have advance := tick_advance source now e r
  generalize (e.awaitStart source now r).1 = opened at checked advance
  generalize (e.tick source now r).engine = done at advance ⊢
  generalize (e.tick source now r).sampled = sampled at advance
  cases advance with
  | idle _ => exact checked
  | elapsed running _ => exact begun_closeIteration running
  | failed _ fault => exact begun_fail _ fault
  | full running values _ _ _ => exact begun_closeIteration (e := opened.store now values) running
  | stopped running values _ _ seen =>
    exact begun_closeIteration (e := { opened.store now values with stopSeen := seen }) running
  | stopFailed _ _ _ _ _ fault => exact begun_fail _ fault
  | kept _ values _ _ _ seen => exact checked

end TriggeredSampler.Engine
