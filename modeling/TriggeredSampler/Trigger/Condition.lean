/-! # Trigger conditions

A condition is checked once per sampling tick against the two freshest readings of the trigger
address and the trigger's value. The bit conditions take the value as the number of a bit, counted
from zero; all others take it as a signed 32-bit number.

* `Condition.holds` — whether a condition holds of two readings.
* `Condition.readsAddress` — whether it looks at the trigger address at all.
* `Condition.code`, `Condition.ofCode?` — the code a device stores for it.
-/

namespace TriggeredSampler

/-- What a trigger waits for. -/
inductive Condition where
  /-- Never holds; marks a trigger that is not set. -/
  | never
  /-- Holds at once. -/
  | always
  /-- The bit is set. -/
  | bitSet
  /-- The bit is clear. -/
  | bitClear
  /-- The bit was clear and is set. -/
  | bitRises
  /-- The bit was set and is clear. -/
  | bitFalls
  /-- The bit changed. -/
  | bitToggles
  /-- The reading is above the threshold. -/
  | greater
  /-- The reading is not below the threshold. -/
  | greaterOrEqual
  /-- The reading is below the threshold. -/
  | less
  /-- The reading is not above the threshold. -/
  | lessOrEqual
  /-- The reading is the threshold. -/
  | equal
  /-- The reading is not the threshold. -/
  | notEqual
  /-- The reading moved further than the threshold, in the threshold's direction. -/
  | oneEdge
  /-- The reading moved further than the size of the threshold, in either direction. -/
  | multiEdge
deriving DecidableEq, Inhabited

namespace Condition

/-- The code a device stores for the condition. -/
def code : Condition → UInt8
  | never => 0x00
  | always => 0x01
  | bitSet => 0x10
  | bitClear => 0x11
  | bitRises => 0x12
  | bitFalls => 0x13
  | bitToggles => 0x14
  | greater => 0x15
  | greaterOrEqual => 0x16
  | less => 0x17
  | lessOrEqual => 0x18
  | equal => 0x19
  | notEqual => 0x1A
  | oneEdge => 0x1B
  | multiEdge => 0x1C

/-- The condition a code stands for. -/
def ofCode? (code : Nat) : Option Condition :=
  match code with
  | 0x00 => some never
  | 0x01 => some always
  | 0x10 => some bitSet
  | 0x11 => some bitClear
  | 0x12 => some bitRises
  | 0x13 => some bitFalls
  | 0x14 => some bitToggles
  | 0x15 => some greater
  | 0x16 => some greaterOrEqual
  | 0x17 => some less
  | 0x18 => some lessOrEqual
  | 0x19 => some equal
  | 0x1A => some notEqual
  | 0x1B => some oneEdge
  | 0x1C => some multiEdge
  | _ => none

theorem ofCode?_code (c : Condition) : ofCode? c.code.toNat = some c := by
  cases c <;> rfl

/-- Only the two constant conditions never look at the trigger address. -/
def readsAddress : Condition → Bool
  | never => false
  | always => false
  | _ => true

/-- A trigger value as a signed 32-bit number. -/
def threshold (value : UInt32) : Int :=
  (value.toNat : Int).bmod UInt32.size

/-- Whether bit `n` of a 64-bit reading is set; bits beyond the width are clear. -/
def bit (reading : Int) (n : UInt32) : Bool :=
  n.toNat < 64 && (reading >>> n.toNat) % 2 == 1

/-- Whether the condition holds of the reading before (`previous`) and the latest one. -/
def holds (c : Condition) (previous current : Int) (value : UInt32) : Bool :=
  match c with
  | never => false
  | always => true
  | bitSet => bit current value
  | bitClear => !bit current value
  | bitRises => !bit previous value && bit current value
  | bitFalls => bit previous value && !bit current value
  | bitToggles => bit previous value != bit current value
  | greater => threshold value < current
  | greaterOrEqual => threshold value ≤ current
  | less => current < threshold value
  | lessOrEqual => current ≤ threshold value
  | equal => current == threshold value
  | notEqual => current != threshold value
  | oneEdge =>
    if 0 < threshold value then threshold value < current - previous
    else current - previous < threshold value
  | multiEdge => (threshold value).natAbs < (previous - current).natAbs

end Condition

end TriggeredSampler
