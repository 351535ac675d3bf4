import TriggeredSampler.Failure
import TriggeredSampler.Trigger.Basic

/-! # Where an engine reads its values

A `Source` answers the reads of addresses one after the other; what it answers may depend on, and
change, a state `ρ`.

* `Source.readAll` — the values of several addresses, in order, up to the first fault.
* `Source.check` — whether a trigger is met now.
-/

namespace TriggeredSampler

/-- Answers reads of addresses. -/
abbrev Source (ρ : Type) := Address → ρ → Except DeviceFault Int × ρ

namespace Source

variable {ρ : Type}

/-- Reads the addresses in order; the first fault ends the reading. -/
def readAll (source : Source ρ) : List Address → ρ → Except DeviceFault (List Int) × ρ
  | [], r => (.ok [], r)
  | a :: rest, r =>
    match source a r with
    | (.error fault, r) => (.error fault, r)
    | (.ok value, r) =>
      match readAll source rest r with
      | (.error fault, r) => (.error fault, r)
      | (.ok values, r) => (.ok (value :: values), r)

/-- What checking a trigger found out. -/
structure Check where
  /-- The trigger is met. -/
  met : Bool
  /-- The latest reading of its address, if there is one. -/
  seen : Option Int

/-- Checks a trigger against the reading seen before and a fresh one. Without an earlier reading
the fresh one is its own predecessor, so that an edge needs two readings. -/
def check (source : Source ρ) (t : Trigger) (seen : Option Int) (r : ρ) :
    Except DeviceFault Check × ρ :=
  if t.condition.readsAddress then
    match source t.address r with
    | (.error fault, r) => (.error fault, r)
    | (.ok current, r) => (.ok ⟨t.isMet (seen.getD current) current, some current⟩, r)
  else (.ok ⟨t.isMet 0 0, seen⟩, r)

end Source

end TriggeredSampler
