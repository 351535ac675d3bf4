import Mathlib.Data.List.Chain
import TriggeredSampler.Proofs.Device.Node

/-! # The numbers of joined data

Data that waits to be polled is joined: a batch that goes on with the iteration of the batch before becomes
part of it. The rows are the same as those of the batches one by one.

* `Numbering.number_append`, `Numbering.number_buffer` — the rows of data in parts, and of joined data.
* `Consecutive` — rows from the first one of iteration 0 on, without a gap.
* `Numbering.Reached.concat` — one more row.
-/

namespace TriggeredSampler

theorem Batch.cut_append {α : Type} {width count : Nat} {values : List α}
    (length : values.length = count * width) (more : Nat) (others : List α) :
    cut width (count + more) (values ++ others) = cut width count values ++ cut width more others := by
  induction count generalizing values with
  | zero =>
    obtain rfl : values = [] := List.length_eq_zero_iff.1 (by omega)
    simp [cut]
  | succ count ih =>
    have first : width ≤ values.length := by
      rw [length, Nat.succ_mul]
      omega
    have rest : (values.drop width).length = count * width := by
      rw [List.length_drop, length, Nat.succ_mul, Nat.add_sub_cancel]
    rw [Nat.succ_add, cut, cut, List.take_append_of_le_length first, List.drop_append_of_le_length first,
      ih rest, List.cons_append]

/-- Joined batches hold the samples of both. -/
theorem Batch.cut_whole {tracked : Nat} {values : List Reading} (others : List Reading)
    (head : (tracked != 0 && values.length % tracked == 0) = true) :
    cut tracked ((values ++ others).length / tracked) (values ++ others) =
      cut tracked (values.length / tracked) values ++ cut tracked (others.length / tracked) others := by
  simp only [Bool.and_eq_true, bne_iff_ne, ne_eq, beq_iff_eq] at head
  have some : 0 < tracked := Nat.pos_of_ne_zero head.1
  obtain ⟨count, length⟩ := Nat.dvd_of_mod_eq_zero head.2
  rw [List.length_append, length, Nat.mul_add_div some, Nat.mul_div_cancel_left _ some,
    cut_append (by rw [length, Nat.mul_comm])]

namespace Numbering

variable {n n' n'' : Numbering} {data more : List Batch} {rows others : List Row}

theorem numberSamples_append (n : Numbering) (samples others : List (List Reading)) :
    n.numberSamples (samples ++ others) =
      ((n.numberSamples samples).1 ++ ((n.numberSamples samples).2.numberSamples others).1,
        ((n.numberSamples samples).2.numberSamples others).2) := by
  induction samples generalizing n with
  | nil => rfl
  | cons sample rest ih => simp [numberSamples, ih]

theorem enter_of_eq {iteration : Nat} (same : n.iteration = iteration) : n.enter iteration = n :=
  if_pos same

theorem number_append (n : Numbering) (data more : List Batch) :
    n.number (data ++ more) =
      match n.number data with
      | (.error breach, last) => (.error breach, last)
      | (.ok rows, last) =>
        match last.number more with
        | (.error breach, last) => (.error breach, last)
        | (.ok others, last) => (.ok (rows ++ others), last) := by
  induction data generalizing n with
  | nil =>
    simp only [List.nil_append, number]
    rcases n.number more with ⟨_ | _, _⟩ <;> rfl
  | cons batch rest ih =>
    rw [List.cons_append, number, number]
    cases batch.samples n.tracked with
    | error breach => rfl
    | ok samples =>
      simp only
      rw [ih]
      rcases ((n.enter batch.iteration).numberSamples samples).2.number rest with ⟨_ | _, last⟩
      · rfl
      · simp only
        rcases last.number more with ⟨_ | _, _⟩ <;> simp

theorem number_append_of_ok (first : n.number data = (.ok rows, n'))
    (second : n'.number more = (.ok others, n'')) :
    n.number (data ++ more) = (.ok (rows ++ others), n'') := by
  simp only [number_append, first, second]

theorem number_singleton {batch : Batch} (n : Numbering)
    (whole : (n.tracked != 0 && batch.readings.length % n.tracked == 0) = true) :
    n.number [batch] =
      (.ok ((n.enter batch.iteration).numberSamples
          (Batch.cut n.tracked (batch.readings.length / n.tracked) batch.readings)).1,
        ((n.enter batch.iteration).numberSamples
          (Batch.cut n.tracked (batch.readings.length / n.tracked) batch.readings)).2) := by
  simp [number, Batch.samples_eq_ok whole]

theorem number_merge {first second : Batch} (n : Numbering) (same : first.iteration = second.iteration)
    (head : (n.tracked != 0 && first.readings.length % n.tracked == 0) = true)
    (last : (n.tracked != 0 && second.readings.length % n.tracked == 0) = true) :
    n.number [⟨first.iteration, first.readings ++ second.readings⟩] = n.number [first, second] := by
  have both := number_append_of_ok (number_singleton n head) (number_singleton _ (by simpa using last))
  have once : ∀ samples, ((n.enter first.iteration).numberSamples samples).2.enter second.iteration =
      ((n.enter first.iteration).numberSamples samples).2 := by
    intro samples
    rw [enter_of_eq]
    simp [same]
  have samples := Batch.cut_whole second.readings head
  simp only [Bool.and_eq_true, bne_iff_ne, ne_eq, beq_iff_eq] at head last
  rw [List.singleton_append, once, tracked_numberSamples, tracked_enter] at both
  rw [both, number_singleton, samples, numberSamples_append]
  simp [Nat.add_mod, head, last]

/-- A batch that is joined is numbered like one that is appended. -/
theorem number_join {batch : Batch} (n : Numbering) (whole : wholeSamples n.tracked data = true)
    (next : wholeSamples n.tracked [batch] = true) :
    n.number (Batch.join data batch) = n.number (data ++ [batch]) := by
  have last : (n.tracked != 0 && batch.readings.length % n.tracked == 0) = true := by
    simpa [wholeSamples] using next
  induction data generalizing n with
  | nil => rfl
  | cons first rest ih =>
    rw [wholeSamples, List.all_cons, Bool.and_eq_true] at whole
    obtain ⟨head, tail⟩ := whole
    cases rest with
    | nil =>
      unfold Batch.join
      split
      next same => exact number_merge n same head last
      next => rfl
    | cons second rest =>
      have joined : Batch.join (first :: second :: rest) batch =
          first :: Batch.join (second :: rest) batch := rfl
      rw [joined, List.cons_append]
      unfold number
      rw [Batch.samples_eq_ok head]
      simp only
      rw [ih]
      · rw [tracked_numberSamples, tracked_enter]
        exact tail
      · rw [tracked_numberSamples, tracked_enter]
        exact next
      · rw [tracked_numberSamples, tracked_enter]
        exact last

/-- Joined data is numbered like the batches one by one. -/
theorem number_buffer (n : Numbering) (s : Status) (whole : wholeSamples n.tracked s.data = true)
    (next : wholeSamples n.tracked more = true) :
    n.number (s.buffer more).data = n.number (s.data ++ more) := by
  unfold Status.buffer
  simp only
  generalize s.data = data at whole ⊢
  -- by induction on the batches that are joined
  induction more generalizing data with
  | nil => rw [List.foldl_nil, List.append_nil]
  | cons batch rest ih =>
    rw [← List.singleton_append, wholeSamples_append, Bool.and_eq_true] at next
    rw [List.foldl_cons, ih next.2 _ (Node.wholeSamples_join whole next.1), number_append,
      number_join n whole next.1, ← number_append, List.append_assoc, List.singleton_append]

/-- The numbering behind one more row of `iteration`. -/
def behind (n : Numbering) (iteration : Nat) : Numbering :=
  { n.enter iteration with next := (n.enter iteration).next + 1 }

@[simp] theorem iteration_behind (n : Numbering) (iteration : Nat) :
    (n.behind iteration).iteration = iteration := iteration_enter n iteration

@[simp] theorem tracked_behind (n : Numbering) (iteration : Nat) :
    (n.behind iteration).tracked = n.tracked := tracked_enter n iteration

theorem next_behind (n : Numbering) (iteration : Nat) : 0 < (n.behind iteration).next :=
  Nat.succ_pos _

/-- A batch of one sample of `iteration` makes one row. -/
theorem number_sample (n : Numbering) (some : 0 < n.tracked) (iteration : Nat) {readings : List Reading}
    (width : readings.length = n.tracked) :
    n.number [⟨iteration, readings⟩] =
      (.ok [⟨iteration, (n.enter iteration).next, readings⟩], n.behind iteration) := by
  have whole : (n.tracked != 0 && readings.length % n.tracked == 0) = true := by
    simp [width, Nat.ne_of_gt some]
  have one : Batch.cut n.tracked (readings.length / n.tracked) readings = [readings] := by
    rw [width, Nat.div_self some]
    simp [Batch.cut, ← width]
  rw [number_singleton n whole, one]
  simp [numberSamples, behind]

end Numbering

/-! ## Rows without a gap -/

/-- `b` is the row behind `a`: the next row of its iteration, or the first row of the next iteration. -/
def Row.Precedes (a b : Row) : Prop :=
  (b.iteration = a.iteration ∧ b.number = a.number + 1) ∨ (b.iteration = a.iteration + 1 ∧ b.number = 0)

/-- Rows from the first one of iteration 0 on, each followed by the row behind it. -/
structure Consecutive (rows : List Row) : Prop where
  first : ∀ row ∈ rows.head?, row.iteration = 0 ∧ row.number = 0
  chain : rows.IsChain Row.Precedes

namespace Numbering

/-- The numbering came to `n` by numbering the rows, which are consecutive. -/
structure Reached (rows : List Row) (n : Numbering) : Prop extends Consecutive rows where
  fresh : rows = [] → n.iteration = 0 ∧ n.next = 0
  latest : ∀ row ∈ rows.getLast?, row.iteration = n.iteration ∧ row.number + 1 = n.next

theorem reached_start (tracked : Nat) : Reached [] (start tracked) :=
  ⟨⟨by simp, by simp⟩, fun _ => ⟨rfl, rfl⟩, by simp⟩

/-- One more row, of the iteration that is numbered or of the next one. -/
theorem Reached.concat {n : Numbering} {rows : List Row} (reached : Reached rows n) {iteration : Nat}
    (next : iteration = n.iteration ∨ 0 < n.next ∧ iteration = n.iteration + 1) (readings : List Reading) :
    Reached (rows ++ [⟨iteration, (n.enter iteration).next, readings⟩]) (n.behind iteration) := by
  have number : (n.enter iteration).next = if n.iteration = iteration then n.next else 0 := by
    unfold enter
    split <;> rfl
  refine ⟨⟨?_, ?_⟩, by simp, by simp [behind]⟩
  · intro row first
    cases rows with
    | nil =>
      obtain ⟨zero, none⟩ := reached.fresh rfl
      obtain rfl : iteration = 0 := by omega
      obtain rfl : _ = row := by simpa using first
      exact ⟨rfl, by rw [number, if_pos zero, none]⟩
    | cons head rest => exact reached.first row first
  · rw [List.isChain_append]
    refine ⟨reached.chain, by simp, ?_⟩
    intro last latest row one
    obtain rfl : _ = row := by simpa using one
    obtain ⟨place, count⟩ := reached.latest last latest
    cases next with
    | inl same => exact .inl ⟨by rw [same, place], by rw [number, if_pos same.symm, count]⟩
    | inr later => exact .inr ⟨by rw [later.2, place], by rw [number, if_neg (by omega)]⟩

end Numbering

end TriggeredSampler
