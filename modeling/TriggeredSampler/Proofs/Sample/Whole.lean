import TriggeredSampler.Sample.Numbering

/-! # Data that holds whole samples

* `wholeSamples` — data that can be split into samples.
* `Numbering.number_of_whole` — whole samples can be numbered.
-/

namespace TriggeredSampler

/-- Every batch holds whole samples of `tracked` readings. -/
def wholeSamples (tracked : Nat) (data : List Batch) : Bool :=
  data.all fun batch => tracked != 0 && batch.readings.length % tracked == 0

theorem wholeSamples_append (tracked : Nat) (data more : List Batch) :
    wholeSamples tracked (data ++ more) = (wholeSamples tracked data && wholeSamples tracked more) :=
  List.all_append

/-- Whole batches, one by one. -/
theorem wholeSamples_iff {tracked : Nat} (some : 0 < tracked) {data : List Batch} :
    wholeSamples tracked data = true ↔ ∀ batch ∈ data, tracked ∣ batch.readings.length := by
  rw [wholeSamples, List.all_eq_true]
  have nonzero : (tracked != 0) = true := bne_iff_ne.2 (by omega)
  simp only [nonzero, Bool.true_and, beq_iff_eq, Nat.dvd_iff_mod_eq_zero]

theorem Batch.samples_eq_ok {batch : Batch} {tracked : Nat}
    (whole : (tracked != 0 && batch.readings.length % tracked == 0) = true) :
    batch.samples tracked = .ok (cut tracked (batch.readings.length / tracked) batch.readings) := by
  simp only [Bool.and_eq_true, bne_iff_ne, ne_eq, beq_iff_eq] at whole
  rw [samples, if_neg (by simp [whole])]

/-! ## Numbering -/

namespace Numbering

@[simp] theorem tracked_enter (n : Numbering) (iteration : Nat) :
    (n.enter iteration).tracked = n.tracked := by
  unfold enter
  split <;> rfl

@[simp] theorem tracked_numberSamples (n : Numbering) (samples : List (List Reading)) :
    (n.numberSamples samples).2.tracked = n.tracked := by
  induction samples generalizing n with
  | nil => rfl
  | cons sample rest ih =>
    rw [numberSamples]
    exact ih _

@[simp] theorem iteration_enter (n : Numbering) (iteration : Nat) :
    (n.enter iteration).iteration = iteration := by
  unfold enter
  split <;> simp_all

@[simp] theorem iteration_numberSamples (n : Numbering) (samples : List (List Reading)) :
    (n.numberSamples samples).2.iteration = n.iteration := by
  induction samples generalizing n with
  | nil => rfl
  | cons sample rest ih =>
    rw [numberSamples]
    exact ih _

@[simp] theorem tracked_number (n : Numbering) (data : List Batch) :
    (n.number data).2.tracked = n.tracked := by
  induction data generalizing n with
  | nil => rfl
  | cons batch rest ih =>
    unfold number
    split
    next => rfl
    next samples _ =>
      have reached := ih ((n.enter batch.iteration).numberSamples samples).2
      rw [tracked_numberSamples, tracked_enter] at reached
      simp only
      split <;> rename_i numbered <;> rw [numbered] at reached <;> exact reached

theorem number_of_whole {data : List Batch} (n : Numbering) (whole : wholeSamples n.tracked data = true) :
    ∃ rows, (n.number data).1 = .ok rows := by
  induction data generalizing n with
  | nil => exact ⟨[], rfl⟩
  | cons batch rest ih =>
    rw [wholeSamples, List.all_cons, Bool.and_eq_true] at whole
    obtain ⟨first, others⟩ := whole
    unfold number
    rw [Batch.samples_eq_ok first]
    simp only
    generalize Batch.cut _ _ batch.readings = samples
    have reached : ((n.enter batch.iteration).numberSamples samples).2.tracked = n.tracked := by simp
    obtain ⟨rows, more⟩ := ih ((n.enter batch.iteration).numberSamples samples).2
      (by rw [reached]; exact others)
    rcases numbered : ((n.enter batch.iteration).numberSamples samples).2.number rest with ⟨result, last⟩
    rw [numbered] at more
    obtain rfl := more
    exact ⟨_, rfl⟩

end Numbering

end TriggeredSampler
