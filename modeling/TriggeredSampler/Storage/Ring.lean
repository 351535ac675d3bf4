/-! # Bounded queues that drop the oldest value

A `Ring` keeps the latest values pushed since it was last drained, at most `capacity` of them, and
counts the values it could not keep.

* `Ring.push` — stores a value and tells whether nothing was dropped for it.
* `Ring.drain` — hands out all values, oldest first.
* `Ring.toList` — the view: the stored values, oldest first.
-/

namespace TriggeredSampler

/-- A bounded queue of the latest values. -/
structure Ring (α : Type) where
  capacity : Nat
  items : Array α
  dropped : Nat

namespace Ring

variable {α : Type}

/-- A ring that holds nothing yet. -/
def empty (capacity : Nat) : Ring α := ⟨capacity, #[], 0⟩

/-- The stored values, oldest first. -/
def toList (r : Ring α) : List α := r.items.toList

/-- The number of stored values. -/
def size (r : Ring α) : Nat := r.items.size

/-- Nothing is stored. -/
def isEmpty (r : Ring α) : Bool := r.items.isEmpty

/-- The next push drops a value. -/
def isFull (r : Ring α) : Bool := r.capacity ≤ r.items.size

/-- Stores `a`, in place of the oldest value if the ring is full; `false` if a value was dropped. -/
def push (r : Ring α) (a : α) : Bool × Ring α :=
  if r.capacity = 0 then (false, { r with dropped := r.dropped + 1 })
  else if r.isFull then
    (false, { r with items := (r.items.extract 1 r.items.size).push a, dropped := r.dropped + 1 })
  else (true, { r with items := r.items.push a })

/-- Hands out the stored values, oldest first. -/
def drain (r : Ring α) : List α × Ring α :=
  (r.toList, { r with items := #[] })

end Ring

end TriggeredSampler
