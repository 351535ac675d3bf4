import Mathlib.Algebra.BigOperators.Ring.List
import TriggeredSampler.Proofs.Device.Joined
import TriggeredSampler.Proofs.Sample.Counting

/-! # Numbering does not depend on how the data is cut

Samples reach a numbering in batches, and batches in calls. Neither matters for the rows: only the samples
and their iterations do.

* `Numbering.number_between` — data is numbered alike inside other data if it is alone.
* `Numbering.number_pieces` — the pieces of a batch are numbered like the batch.
* `Counted.map_number` — the rows of an iteration have the numbers 0, 1, 2, ...
* `Numbering.number_of_partial` — where a numbering stops that meets an incomplete sample.
* `Numbering.number_of_cuts` — all of it.
-/

namespace TriggeredSampler

/-! ## Samples of a batch -/

namespace Batch

/-- A batch is split into samples of full width, or refused. -/
theorem samples_eq_error {batch : Batch} {tracked : Nat} (partly : wholeSamples tracked [batch] = false) :
    batch.samples tracked = .error (.partialSample batch.readings.length tracked) := by
  rw [samples, if_pos]
  by_contra whole
  simp_all [wholeSamples]

theorem cut_shape {α : Type} {width count : Nat} {values : List α} (length : values.length = width * count) :
    (cut width count values).flatten = values ∧ ∀ piece ∈ cut width count values, piece.length = width := by
  induction count generalizing values with
  | zero =>
    obtain rfl : values = [] := List.length_eq_zero_iff.1 (by omega)
    simp [cut]
  | succ count ih =>
    rw [Nat.mul_succ] at length
    have left : (values.drop width).length = width * count := by
      rw [List.length_drop]
      omega
    obtain ⟨rest, shape⟩ := ih left
    rw [cut, List.flatten_cons, rest, List.take_append_drop, List.forall_mem_cons]
    exact ⟨rfl, by rw [List.length_take]; omega, shape⟩

/-- The samples are the readings of the batch, `tracked` at a time. -/
theorem samples_shape {batch : Batch} {tracked : Nat} {samples : List (List Reading)}
    (split : batch.samples tracked = .ok samples) :
    samples.flatten = batch.readings ∧ ∀ sample ∈ samples, sample.length = tracked := by
  unfold Batch.samples at split
  split at split
  next => cases split
  next whole =>
    cases split
    apply cut_shape
    have divides : tracked ∣ batch.readings.length := Nat.dvd_of_mod_eq_zero (by omega)
    exact (Nat.mul_div_cancel' divides).symm

end Batch

theorem wholeSamples_singleton (tracked : Nat) (batch : Batch) :
    wholeSamples tracked [batch] = (tracked != 0 && batch.readings.length % tracked == 0) := by
  rw [wholeSamples, List.all_cons, List.all_nil, Bool.and_true]

theorem wholeSamples_flatten {tracked iteration : Nat} {pieces : List (List Reading)} (some : pieces ≠ [])
    (whole : wholeSamples tracked (pieces.map (Batch.mk iteration)) = true) :
    wholeSamples tracked [⟨iteration, pieces.flatten⟩] = true := by
  have positive : 0 < tracked := by
    obtain ⟨piece, rest, rfl⟩ := List.exists_cons_of_ne_nil some
    simp only [wholeSamples, List.map_cons, List.all_cons, Bool.and_eq_true, bne_iff_ne] at whole
    exact Nat.pos_of_ne_zero whole.1.1
  rw [wholeSamples_iff positive] at whole ⊢
  simp only [List.forall_mem_map] at whole
  rintro batch (_ | ⟨_, ⟨⟩⟩)
  rw [List.length_flatten]
  exact List.dvd_sum (by simpa using whole)

/-! ## Data inside other data -/

namespace Numbering

variable {n n' : Numbering} {data more before later : List Batch} {rows : List Row}

/-- The rest of the data is numbered from the state that the first part left. -/
theorem number_append_eq (first : n.number data = (.ok rows, n')) (more : List Batch) :
    n.number (data ++ more) = ((n'.number more).1.map (rows ++ ·), (n'.number more).2) := by
  rw [number_append, first]
  simp only
  rcases n'.number more with ⟨_ | _, _⟩ <;> rfl

/-- What is numbered alike from every state is numbered alike inside other data. -/
theorem number_between (same : ∀ m : Numbering, m.tracked = n.tracked → m.number data = m.number more)
    (before later : List Batch) :
    n.number (before ++ data ++ later) = n.number (before ++ more ++ later) := by
  rw [List.append_assoc, List.append_assoc]
  rcases first : n.number before with ⟨breach | rows, m⟩
  · rw [number_append, number_append, first]
  · have tracked := n.tracked_number before
    rw [first] at tracked
    rw [number_append_eq first, number_append_eq first, number_append, same m tracked, ← number_append]

/-- The pieces of a batch, cut between samples, are numbered like the batch. -/
theorem number_pieces (n : Numbering) {iteration : Nat} {pieces : List (List Reading)} (some : pieces ≠ [])
    (whole : wholeSamples n.tracked (pieces.map (Batch.mk iteration)) = true) :
    n.number (pieces.map (Batch.mk iteration)) = n.number [⟨iteration, pieces.flatten⟩] := by
  -- by induction on the pieces: the first one is merged with the batch of the others
  induction pieces generalizing n with
  | nil => exact absurd rfl some
  | cons piece rest ih =>
    cases rest with
    | nil => rw [List.flatten_singleton, List.map_singleton]
    | cons second others =>
      rw [List.map_cons, ← List.singleton_append, wholeSamples_append, Bool.and_eq_true] at whole
      obtain ⟨head, tail⟩ := whole
      have joined := wholeSamples_flatten (by simp) tail
      have alike := number_between (n := n)
        (fun m tracked => ih m (by simp) (by rw [tracked]; exact tail)) [⟨iteration, piece⟩] []
      rw [List.append_nil, List.append_nil, List.singleton_append] at alike
      rw [wholeSamples_singleton] at head joined
      rw [List.map_cons, alike]
      exact (@number_merge ⟨iteration, piece⟩ ⟨iteration, (second :: others).flatten⟩ n rfl head joined).symm

/-! ## What the rows hold -/

theorem map_readings_numberSamples (n : Numbering) (samples : List (List Reading)) :
    (n.numberSamples samples).1.map Row.readings = samples := by
  induction samples generalizing n with
  | nil => rfl
  | cons sample rest ih => rw [numberSamples, List.map_cons, ih]

/-- The rows hold the readings of the batches, in order and a full sample each. -/
theorem readings_number (numbers : n.number data = (.ok rows, n')) :
    rows.flatMap Row.readings = data.flatMap Batch.readings ∧
      ∀ row ∈ rows, row.readings.length = n.tracked := by
  induction data generalizing n rows with
  | nil =>
    cases numbers
    simp
  | cons batch rest ih =>
    obtain ⟨samples, more, split, others, rfl⟩ := number_cons_eq_ok numbers
    obtain ⟨values, shape⟩ := Batch.samples_shape split
    obtain ⟨behind, width⟩ := ih others
    have readings := map_readings_numberSamples (n.enter batch.iteration) samples
    constructor
    · rw [List.flatMap_append, behind, List.flatMap_cons, List.flatMap_def, readings, values]
    · rw [List.forall_mem_append]
      constructor
      · intro row member
        apply shape
        rw [← readings]
        exact List.mem_map_of_mem member
      · intro row member
        have length := width row member
        rwa [tracked_numberSamples, tracked_enter] at length

/-- A batch that is not of whole samples ends the numbering behind the batches before it. -/
theorem number_of_partial {bad : Batch} (whole : wholeSamples n.tracked before = true)
    (partly : wholeSamples n.tracked [bad] = false) (later : List Batch) :
    n.number (before ++ bad :: later) =
      (.error (.partialSample bad.readings.length n.tracked), (n.number before).2) := by
  obtain ⟨rows, ok⟩ := n.number_of_whole whole
  have first : n.number before = (.ok rows, (n.number before).2) := Prod.ext ok rfl
  have tracked : (n.number before).2.tracked = n.tracked := n.tracked_number before
  have stops := Batch.samples_eq_error partly
  rw [number_append_eq first, number, tracked, stops]
  rfl

end Numbering

/-- Data that is not of whole samples has a first batch that is not. -/
theorem exists_partial {tracked : Nat} {data : List Batch} (partly : wholeSamples tracked data = false) :
    ∃ before bad later, data = before ++ bad :: later ∧ wholeSamples tracked before = true ∧
      wholeSamples tracked [bad] = false := by
  induction data with
  | nil => cases partly
  | cons batch rest ih =>
    cases head : wholeSamples tracked [batch] with
    | false => exact ⟨[], batch, rest, rfl, rfl, head⟩
    | true =>
      rw [← List.singleton_append, wholeSamples_append, head, Bool.true_and] at partly
      obtain ⟨before, bad, later, rfl, whole, first⟩ := ih partly
      refine ⟨batch :: before, bad, later, rfl, ?_, first⟩
      rw [← List.singleton_append, wholeSamples_append, head, whole]
      rfl

/-! ## Numbers -/

/-- The number of the sample, if it was handed out as a row of the iteration. -/
def Drawn.numberIn? (i : Nat) : Drawn → Option Nat
  | plain _ => none
  | row r => if r.iteration = i then some r.number else none

/-- The rows of an iteration have the numbers 0, 1, 2, ... in order. -/
theorem Counted.map_number {drawn : List Drawn} (counted : Counted drawn) (i : Nat) :
    drawn.filterMap (Drawn.numberIn? i) = List.range (drawn.countP (Drawn.rowIn i)) := by
  -- by induction on the samples: a row of the iteration is numbered by the count of those before
  induction counted with
  | nil => rfl
  | @concat drawn _ d number ih =>
    rw [List.filterMap_append, List.countP_append, ih]
    cases d with
    | plain j => simp [Drawn.numberIn?, Drawn.rowIn]
    | row r =>
      by_cases same : r.iteration = i
      · subst same
        simp [Drawn.numberIn?, Drawn.rowIn, number r rfl, List.range_succ]
      · simp [Drawn.numberIn?, Drawn.rowIn, same]

namespace Numbering

variable {n n' : Numbering} {data : List Batch} {rows : List Row}

/-- From a fresh numbering, the rows of every iteration have the numbers 0, 1, 2, ... -/
theorem numbers_of_fresh {tracked : Nat} (onward : (data.map Batch.iteration).Pairwise (· ≤ ·))
    (numbers : (start tracked).number data = (.ok rows, n')) (i : Nat) :
    (rows.filter fun row => row.iteration = i).map Row.number =
      List.range ((sampleIterations tracked data).count i) := by
  have ahead : Onward (start tracked) (data ++ []) := by
    rw [Onward, List.append_nil, List.pairwise_cons]
    exact ⟨fun _ _ => Nat.zero_le _, onward⟩
  obtain ⟨_, counted, _⟩ := ahead.number numbers (Tallies.start tracked) .nil
  have numbered := counted.map_number i
  have iterations : sampleIterations tracked data = rows.map Row.iteration :=
    (map_iteration_number numbers).symm
  rw [List.nil_append, List.filterMap_map, List.countP_map] at numbered
  rw [iterations, List.count, List.countP_map, ← List.filterMap_eq_map, List.filterMap_filter]
  simpa [Function.comp_def, Drawn.numberIn?, Drawn.rowIn] using numbered

/-- **Numbering does not depend on how the data is cut.** Data may be numbered in several calls, a batch in
pieces, and whole batches after a device has joined them: the rows and the state that is left are the same.
From a fresh numbering, data whose iterations do not go back is numbered from 0 on in each iteration, and the
rows hold the readings of the batches. Data with an incomplete sample is refused, and what the batches before
the first such batch did stays. -/
theorem number_of_cuts (n : Numbering) :
    (∀ data more rows n', n.number data = (.ok rows, n') →
        n.number (data ++ more) = ((n'.number more).1.map (rows ++ ·), (n'.number more).2)) ∧
      (∀ before later iteration pieces, pieces ≠ [] →
        wholeSamples n.tracked (pieces.map (Batch.mk iteration)) = true →
        n.number (before ++ pieces.map (Batch.mk iteration) ++ later) =
          n.number (before ++ [⟨iteration, pieces.flatten⟩] ++ later)) ∧
      (∀ (status : Status) data, wholeSamples n.tracked status.data = true →
        wholeSamples n.tracked data = true →
        n.number (status.buffer data).data = n.number (status.data ++ data)) ∧
      (∀ data, wholeSamples n.tracked data = true → (data.map Batch.iteration).Pairwise (· ≤ ·) →
        ∃ rows n', n.reset.number data = (.ok rows, n') ∧
          (∀ i, (rows.filter fun row => row.iteration = i).map Row.number =
            List.range ((sampleIterations n.tracked data).count i)) ∧
          rows.map Row.iteration = sampleIterations n.tracked data ∧
          rows.flatMap Row.readings = data.flatMap Batch.readings ∧
          ∀ row ∈ rows, row.readings.length = n.tracked) ∧
      ∀ data, wholeSamples n.tracked data = false →
        ∃ before bad later, data = before ++ bad :: later ∧ wholeSamples n.tracked before = true ∧
          wholeSamples n.tracked [bad] = false ∧
          n.number data = (.error (.partialSample bad.readings.length n.tracked), (n.number before).2) := by
  refine ⟨?_, ?_, ?_, ?_, ?_⟩
  · intro data more rows n' first
    exact number_append_eq first more
  · intro before later iteration pieces some whole
    apply number_between
    intro m tracked
    exact m.number_pieces some (by rwa [tracked])
  · intro status data whole next
    exact n.number_buffer status whole next
  · intro data whole onward
    obtain ⟨rows, ok⟩ := n.reset.number_of_whole whole
    have numbers : n.reset.number data = (.ok rows, (n.reset.number data).2) := Prod.ext ok rfl
    obtain ⟨readings, width⟩ := readings_number numbers
    have iterations := map_iteration_number numbers
    exact ⟨rows, _, numbers, numbers_of_fresh onward numbers, iterations, readings, width⟩
  · intro data partly
    obtain ⟨before, bad, later, rfl, whole, first⟩ := exists_partial partly
    exact ⟨before, bad, later, rfl, whole, first, number_of_partial whole first later⟩

/-- Samples of two readings: in two calls, in two pieces, joined by a device, numbered afresh, and with a
reading too many. -/
theorem number_of_pairs :
    let n := start 2
    let a : List Reading := [⟨1, 0⟩, ⟨2, 0⟩]
    let b : List Reading := [⟨3, 10⟩, ⟨4, 10⟩]
    n.number ([⟨0, a⟩] ++ [⟨1, b⟩]) = (.ok ([⟨0, 0, a⟩] ++ [⟨1, 0, b⟩]), ⟨2, 1, 1⟩) ∧
      n.number ([⟨0, a⟩] ++ [⟨1, a⟩, ⟨1, b⟩] ++ []) = n.number ([⟨0, a⟩] ++ [⟨1, a ++ b⟩] ++ []) ∧
      n.number (Status.buffer ⟨.running, none, [⟨0, a⟩]⟩ [⟨0, b⟩]).data = n.number [⟨0, a⟩, ⟨0, b⟩] ∧
      (∃ rows n', n.reset.number [⟨0, a⟩, ⟨0, b⟩] = (.ok rows, n') ∧
        (rows.filter fun row => row.iteration = 0).map Row.number = [0, 1]) ∧
      ∃ before bad later, [⟨0, a⟩, ⟨0, ⟨5, 10⟩ :: b⟩, ⟨0, b⟩] = before ++ bad :: later ∧
        n.number [⟨0, a⟩, ⟨0, ⟨5, 10⟩ :: b⟩, ⟨0, b⟩] =
          (.error (.partialSample bad.readings.length 2), (n.number before).2) := by
  intro n a b
  obtain ⟨append, pieces, joined, fresh, refused⟩ := number_of_cuts n
  refine ⟨?_, ?_, ?_, ?_, ?_⟩
  · have rest : number ⟨2, 0, 1⟩ [⟨1, b⟩] = (.ok [⟨1, 0, b⟩], ⟨2, 1, 1⟩) := by decide
    have both := append [⟨0, a⟩] [⟨1, b⟩] [⟨0, 0, a⟩] ⟨2, 0, 1⟩ (by decide)
    rwa [rest] at both
  · exact pieces [⟨0, a⟩] [] 1 [a, b] (by decide) (by decide)
  · exact joined ⟨.running, none, [⟨0, a⟩]⟩ [⟨0, b⟩] (by decide) (by decide)
  · obtain ⟨rows, n', numbers, range, _⟩ := fresh [⟨0, a⟩, ⟨0, b⟩] (by decide) (by decide)
    have count : (sampleIterations n.tracked [⟨0, a⟩, ⟨0, b⟩]).count 0 = 2 := by decide
    exact ⟨rows, n', numbers, by rw [range 0, count]; rfl⟩
  · obtain ⟨before, bad, later, parts, _, _, refusal⟩ :=
      refused [⟨0, a⟩, ⟨0, ⟨5, 10⟩ :: b⟩, ⟨0, b⟩] (by decide)
    exact ⟨before, bad, later, parts, refusal⟩

end Numbering

end TriggeredSampler
