import TriggeredSampler.Address
import TriggeredSampler.Trigger.Condition

/-! # Triggers

A `Trigger` is a condition on the value at an address. A sampler starts when its start trigger is
met and, if the stop trigger is set, stops when that one is met.

* `Trigger.unset` — the absent trigger.
* `Trigger.immediate` — the trigger that is met on its first check.
* `Trigger.isMet` — the check against two readings of the address.
-/

namespace TriggeredSampler

/-- A condition on the value at an address, with a threshold or bit number. -/
structure Trigger where
  condition : Condition
  address : Address
  value : UInt32
deriving DecidableEq

namespace Trigger

/-- The absent trigger, which is never met. -/
def unset : Trigger := ⟨.never, ⟨0, 0⟩, 0⟩

instance : Inhabited Trigger := ⟨unset⟩

/-- The trigger that is met on its first check. -/
def immediate : Trigger := ⟨.always, ⟨0, 0⟩, 0⟩

/-- Whether there is anything to wait for. -/
def isSet (t : Trigger) : Bool :=
  t.condition != .never

/-- Whether two consecutive readings of the address meet the trigger. -/
def isMet (t : Trigger) (previous current : Int) : Bool :=
  t.condition.holds previous current t.value

end Trigger

end TriggeredSampler
