import Mathlib.Data.List.DropRight
import TriggeredSampler.Storage.Ring

/-! # A ring holds the latest values

A ring is described by the values pushed since it was last drained: `Ring.Keeps pushed` says that it
holds the last of them, as many as fit.

* `Ring.Keeps.push`, `Ring.Keeps.drain` — the two operations in this view.
* `Ring.push_of_isFull`, `Ring.push_of_room` — what a push answers and counts.
* `rtake_rtake_concat` — cutting to the last values commutes with adding one.
-/

namespace TriggeredSampler

/-- The last values are not changed by cutting the list to them before another one is added. -/
theorem rtake_rtake_concat {α : Type} (values : List α) (a : α) (n : Nat) :
    (values.rtake n ++ [a]).rtake n = (values ++ [a]).rtake n := by
  cases n with
  | zero => simp
  | succ n =>
    rw [List.rtake_concat_succ, List.rtake_concat_succ]
    simp only [List.rtake, List.drop_drop, List.length_drop]
    congr 2
    omega

/-- Nothing is cut off a list that fits. -/
theorem rtake_of_length_le {α : Type} {values : List α} {n : Nat} (fits : values.length ≤ n) :
    values.rtake n = values := by
  simp [List.rtake, Nat.sub_eq_zero_of_le fits]

/-- One value more pushes the oldest one out, if the list was long enough. -/
theorem rtake_concat_of_le {α : Type} {values : List α} {n : Nat} (some : 0 < n) (full : n ≤ values.length)
    (a : α) :
    ∃ first ∈ values, ∃ rest, values.rtake n = first :: rest ∧ (values ++ [a]).rtake n = rest ++ [a] := by
  have start : values.length - n < values.length := by omega
  refine ⟨values[values.length - n], List.getElem_mem start, values.drop (values.length - n + 1),
    List.drop_eq_getElem_cons start, ?_⟩
  rw [List.rtake, List.length_append, List.length_singleton, Nat.sub_add_comm full,
    List.drop_append_of_le_length start]

namespace Ring

variable {α : Type}

/-- The ring holds the last of the values pushed since it was drained, as many as fit. -/
def Keeps (pushed : List α) (r : Ring α) : Prop :=
  r.toList = pushed.rtake r.capacity

@[simp] theorem capacity_push (r : Ring α) (a : α) : (r.push a).2.capacity = r.capacity := by
  unfold push
  split
  · rfl
  · split <;> rfl

@[simp] theorem capacity_drain (r : Ring α) : r.drain.2.capacity = r.capacity := rfl

@[simp] theorem toList_drain (r : Ring α) : r.drain.2.toList = [] := rfl

theorem keeps_empty (capacity : Nat) : (empty capacity : Ring α).Keeps [] := by
  simp [Keeps, empty, toList]

theorem Keeps.size_le {pushed : List α} {r : Ring α} (keeps : r.Keeps pushed) :
    r.size ≤ r.capacity := by
  have length := congrArg List.length keeps
  simp only [List.rtake, List.length_drop, toList, Array.length_toList] at length
  simp only [size]
  omega

/-- A ring is full when as many values were pushed as it can hold. -/
theorem Keeps.isFull_iff {pushed : List α} {r : Ring α} (keeps : r.Keeps pushed) :
    r.isFull = true ↔ r.capacity ≤ pushed.length := by
  have length := congrArg List.length keeps
  simp only [List.rtake, List.length_drop, toList, Array.length_toList] at length
  simp only [isFull, decide_eq_true_eq]
  omega

/-- A push puts the value behind the others, and cuts the oldest one off if there are too many. -/
theorem toList_push {r : Ring α} (bounded : r.size ≤ r.capacity) (a : α) :
    (r.push a).2.toList = (r.toList ++ [a]).rtake r.capacity := by
  simp only [size] at bounded
  unfold push
  split
  next none =>
    have empty : r.items = #[] := by
      rw [← Array.size_eq_zero_iff]
      omega
    simp [toList, empty, none]
  next some =>
    split
    next full =>
      simp only [isFull, decide_eq_true_eq] at full
      -- a full ring loses exactly one value
      have excess : r.items.size + 1 - r.capacity = 1 := by omega
      simp only [toList, Array.toList_push, Array.toList_extract, List.rtake, List.length_append,
        Array.length_toList, List.length_singleton, excess]
      rw [List.drop_append_of_le_length (by rw [Array.length_toList]; omega)]
      rw [List.extract_eq_take_drop, List.drop_one, List.take_of_length_le (by simp)]
    next room =>
      simp only [isFull, decide_eq_true_eq] at room
      simp only [toList, Array.toList_push]
      rw [rtake_of_length_le]
      simp only [List.length_append, Array.length_toList, List.length_singleton]
      omega

/-- A full ring drops a value for the one pushed, and says so. -/
theorem push_of_isFull {r : Ring α} (full : r.isFull = true) (a : α) :
    (r.push a).1 = false ∧ (r.push a).2.size = r.size ∧ (r.push a).2.dropped = r.dropped + 1 := by
  have stored : r.capacity ≤ r.items.size := by simpa [isFull] using full
  by_cases none : r.capacity = 0
  · rw [push, if_pos none]
    exact ⟨rfl, rfl, rfl⟩
  · rw [push, if_neg none, if_pos full]
    refine ⟨rfl, ?_, rfl⟩
    -- the oldest value makes room for the new one
    simp only [size, Array.size_push, Array.size_extract]
    omega

/-- A ring with room keeps all it holds. -/
theorem push_of_room {r : Ring α} (room : r.isFull = false) (a : α) :
    (r.push a).1 = true ∧ (r.push a).2.size = r.size + 1 ∧ (r.push a).2.dropped = r.dropped := by
  have fits : r.items.size < r.capacity := by simpa [isFull] using room
  rw [push, if_neg (Nat.ne_zero_of_lt fits), if_neg (by simp [room])]
  exact ⟨rfl, Array.size_push .., rfl⟩

theorem size_push {r : Ring α} (room : r.size < r.capacity) (a : α) : (r.push a).2.size = r.size + 1 :=
  (push_of_room (by simpa [isFull, size] using room) a).2.1

theorem Keeps.push {pushed : List α} {r : Ring α} (keeps : r.Keeps pushed) (a : α) :
    (r.push a).2.Keeps (pushed ++ [a]) := by
  unfold Keeps
  rw [toList_push keeps.size_le, keeps, capacity_push, rtake_rtake_concat]

theorem Keeps.drain (r : Ring α) : r.drain.2.Keeps [] := by
  simp [Keeps]

end Ring

end TriggeredSampler
