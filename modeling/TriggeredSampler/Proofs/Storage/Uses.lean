import TriggeredSampler.Proofs.Storage.Ring

/-! # Where the values of a ring go

A ring is pushed to and drained, in any order. Every value pushed was handed out by a drain, is stored, or was
dropped; and the ring says of each push whether it dropped one.

* `Ring.Use` — a push or a drain.
* `Ring.pending` — the values pushed since the last drain.
* `Ring.answers`, `Ring.handedOut` — what the pushes answer and what the drains hand out.
* `Ring.values_of_uses` — what a ring holds, and how many values it has dropped.
-/

namespace TriggeredSampler.Ring

variable {α : Type}

/-- A use of a ring. -/
inductive Use (α : Type) where
  | push (a : α)
  | drain

/-- The values that a use pushes. -/
def Use.pushed : Use α → List α
  | push a => [a]
  | drain => []

/-- The values pushed since the last drain, behind a use; before it these were `since`. -/
def Use.pending (since : List α) : Use α → List α
  | push a => since ++ [a]
  | drain => []

/-- The ring behind a use. -/
def after (r : Ring α) : Use α → Ring α
  | .push a => (r.push a).2
  | .drain => r.drain.2

/-- What a push answers. -/
def answersOf (r : Ring α) : Use α → List Bool
  | .push a => [(r.push a).1]
  | .drain => []

/-- The values that a use hands out. -/
def handsOut (r : Ring α) : Use α → List α
  | .push _ => []
  | .drain => r.drain.1

/-- The values pushed since the last of some uses that is a drain. -/
def pending (uses : List (Use α)) : List α := uses.foldl Use.pending []

/-- The ring behind some uses. -/
def afterAll (r : Ring α) (uses : List (Use α)) : Ring α := uses.foldl after r

/-- What the pushes of some uses answer. -/
def answers (r : Ring α) : List (Use α) → List Bool
  | [] => []
  | use :: rest => r.answersOf use ++ (r.after use).answers rest

/-- The values that the drains of some uses hand out. -/
def handedOut (r : Ring α) : List (Use α) → List α
  | [] => []
  | use :: rest => r.handsOut use ++ (r.after use).handedOut rest

/-! ## One use -/

/-- A push drops a value exactly if the ring was full. -/
theorem push_eq_false_iff (r : Ring α) (a : α) : (r.push a).1 = false ↔ r.isFull = true := by
  cases full : r.isFull with
  | true => simp [(push_of_isFull full a).1]
  | false => simp [(push_of_room full a).1]

theorem capacity_after (r : Ring α) (use : Use α) : (r.after use).capacity = r.capacity := by
  cases use with
  | push a => exact capacity_push r a
  | drain => rfl

theorem Keeps.after {since : List α} {r : Ring α} (keeps : r.Keeps since) (use : Use α) :
    (r.after use).Keeps (use.pending since) := by
  cases use with
  | push a => exact keeps.push a
  | drain => exact .drain r

/-- What a use hands out and leaves behind was stored before it or pushed by it, in this order. -/
theorem Keeps.sublist_after {since : List α} {r : Ring α} (keeps : r.Keeps since) (use : Use α) :
    (r.handsOut use ++ (r.after use).toList).Sublist (r.toList ++ use.pushed) := by
  cases use with
  | push a =>
    rw [handsOut, List.nil_append, Ring.after, toList_push keeps.size_le]
    exact List.drop_sublist _ _
  | drain => exact .refl _

/-- Only a push that answers so drops a value. -/
theorem dropped_after (r : Ring α) (use : Use α) :
    (r.after use).dropped = r.dropped + (r.answersOf use).count false := by
  cases use with
  | drain => rfl
  | push a =>
    rw [after, answersOf]
    cases full : r.isFull with
    | true =>
      obtain ⟨answer, _, dropped⟩ := push_of_isFull full a
      rw [answer, dropped, List.count_singleton_self]
    | false =>
      obtain ⟨answer, _, dropped⟩ := push_of_room full a
      rw [answer, dropped]
      rfl

/-- What a use pushes adds to what it hands out, to what is stored or to what was dropped. -/
theorem balance_after (r : Ring α) (use : Use α) :
    r.size + r.dropped + use.pushed.length =
      (r.handsOut use).length + (r.after use).size + (r.after use).dropped := by
  cases use with
  | drain =>
    show r.items.size + r.dropped + 0 = r.items.toList.length + 0 + r.dropped
    rw [Array.length_toList]
    omega
  | push a =>
    show r.size + r.dropped + 1 = 0 + (r.push a).2.size + (r.push a).2.dropped
    cases full : r.isFull with
    | true =>
      obtain ⟨_, size, dropped⟩ := push_of_isFull full a
      omega
    | false =>
      obtain ⟨_, size, dropped⟩ := push_of_room full a
      omega

/-! ## Any number of uses -/

theorem capacity_afterAll (r : Ring α) (uses : List (Use α)) : (r.afterAll uses).capacity = r.capacity := by
  induction uses generalizing r with
  | nil => rfl
  | cons use rest ih => exact (ih (r.after use)).trans (capacity_after r use)

theorem Keeps.afterAll {since : List α} {r : Ring α} (keeps : r.Keeps since) (uses : List (Use α)) :
    (r.afterAll uses).Keeps (uses.foldl Use.pending since) := by
  induction uses generalizing r since with
  | nil => exact keeps
  | cons use rest ih => exact ih (keeps.after use)

theorem Keeps.sublist_afterAll {since : List α} {r : Ring α} (keeps : r.Keeps since) (uses : List (Use α)) :
    (r.handedOut uses ++ (r.afterAll uses).toList).Sublist (r.toList ++ uses.flatMap Use.pushed) := by
  induction uses generalizing r since with
  | nil => simp [handedOut, Ring.afterAll]
  | cons use rest ih =>
    have others : ((r.after use).handedOut rest ++ (r.afterAll (use :: rest)).toList).Sublist
        ((r.after use).toList ++ rest.flatMap Use.pushed) := ih (keeps.after use)
    have first := (keeps.sublist_after use).append_right (rest.flatMap Use.pushed)
    rw [handedOut, List.flatMap_cons, List.append_assoc]
    simp only [List.append_assoc] at first
    exact (others.append_left _).trans first

theorem dropped_afterAll (r : Ring α) (uses : List (Use α)) :
    (r.afterAll uses).dropped = r.dropped + (r.answers uses).count false := by
  induction uses generalizing r with
  | nil => rfl
  | cons use rest ih =>
    rw [answers, List.count_append, ← Nat.add_assoc, ← dropped_after]
    exact ih (r.after use)

/-- The values pushed are handed out, stored or dropped; this holds use by use. -/
theorem balance_afterAll (r : Ring α) (uses : List (Use α)) :
    r.size + r.dropped + (uses.flatMap Use.pushed).length =
      (r.handedOut uses).length + (r.afterAll uses).size + (r.afterAll uses).dropped := by
  induction uses generalizing r with
  | nil => simp [handedOut, afterAll]
  | cons use rest ih =>
    have first := balance_after r use
    have others : (r.after use).size + (r.after use).dropped + (rest.flatMap Use.pushed).length =
        ((r.after use).handedOut rest).length + (r.afterAll (use :: rest)).size +
          (r.afterAll (use :: rest)).dropped := ih (r.after use)
    rw [handedOut, List.flatMap_cons, List.length_append, List.length_append]
    omega

/-- **A ring is a bounded queue that drops the oldest value.** Of the values pushed since the last drain it
stores the latest, oldest first and as many as fit; a drain hands out just these. A push answers `false`
exactly if the ring was full, and these pushes are counted, whatever is drained. What was handed out and what is
stored are values pushed, in their order, and there are as many others as were dropped. -/
theorem values_of_uses (capacity : Nat) (uses : List (Use α)) :
    let made : Ring α := empty capacity
    let r := made.afterAll uses
    r.toList = (pending uses).rtake (min (pending uses).length capacity) ∧
      r.drain.1 = r.toList ∧
      (r.isFull = true ↔ capacity ≤ (pending uses).length) ∧
      (∀ a, (r.push a).1 = false ↔ r.isFull = true) ∧
      r.dropped = (made.answers uses).count false ∧
      r.drain.2.dropped = r.dropped ∧
      (made.handedOut uses ++ r.toList).Sublist (uses.flatMap Use.pushed) ∧
      (uses.flatMap Use.pushed).length = (made.handedOut uses).length + r.size + r.dropped := by
  intro made r
  have same : r.capacity = capacity := capacity_afterAll made uses
  have keeps : r.Keeps (pending uses) := (keeps_empty capacity).afterAll uses
  have dropped : r.dropped = made.dropped + (made.answers uses).count false := dropped_afterAll made uses
  have balance := balance_afterAll made uses
  refine ⟨?_, rfl, ?_, push_eq_false_iff r, ?_, rfl, (keeps_empty capacity).sublist_afterAll uses, ?_⟩
  · rw [keeps, same, List.rtake, List.rtake]
    congr 1
    omega
  · rw [keeps.isFull_iff, same]
  · rw [dropped]
    exact Nat.zero_add _
  · rw [← balance]
    exact (Nat.zero_add _).symm

/-- A ring of two values that is drained when it has dropped one of three. -/
example :
    let r := (empty 2).afterAll [.push 1, .push 2, .push 3, .drain, .push (4 : Nat)]
    r.toList = [4] ∧ r.dropped = 1 := by decide

end TriggeredSampler.Ring
