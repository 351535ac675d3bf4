import Mathlib.Algebra.Ring.Int.Defs
import TriggeredSampler.Trigger.Condition

/-! # Laws of the trigger conditions

The comparisons with the threshold divide the readings among themselves, the conditions on a bit come in
opposite pairs, and an edge needs two readings that differ. None of this depends on the size of a machine
word: the words in which two readings are compared never overflow.

* `Condition.Family` — how the conditions of one value depend on each other.
* `Condition.holdsInWords?` — a condition of two 64-bit words; differences are taken in 128 bits.
* `Condition.isEdge` — the conditions that compare two readings.
-/

namespace TriggeredSampler.Condition

/-! ## Thresholds -/

section Thresholds

variable (value : UInt32)

theorem threshold_eq_toInt : threshold value = value.toBitVec.toInt := by
  rw [BitVec.toInt_eq_toNat_bmod, UInt32.toNat_toBitVec]
  rfl

theorem le_threshold : -2 ^ 31 ≤ threshold value := by
  rw [threshold_eq_toInt]
  exact BitVec.le_toInt _

theorem threshold_lt : threshold value < 2 ^ 31 := by
  rw [threshold_eq_toInt]
  exact BitVec.toInt_lt

/-- Every signed 32-bit number is the threshold of a value. -/
theorem exists_threshold {t : Int} (low : -2 ^ 31 ≤ t) (high : t < 2 ^ 31) :
    ∃ value, threshold value = t := by
  refine ⟨⟨BitVec.ofInt 32 t⟩, ?_⟩
  rw [threshold_eq_toInt, BitVec.toInt_ofInt]
  exact Int.bmod_eq_of_le (by omega) (by omega)

end Thresholds

/-! ## How the conditions depend on each other -/

/-- The conditions of one value on two readings, compared with each other. -/
structure Family (previous current : Int) (value : UInt32) : Prop where
  /-- A reading is below the threshold, at it or above it. -/
  trichotomy : [less, equal, greater].countP (fun c => c.holds previous current value) = 1
  greaterOrEqual : greaterOrEqual.holds previous current value = !less.holds previous current value
  lessOrEqual : lessOrEqual.holds previous current value = !greater.holds previous current value
  notEqual : notEqual.holds previous current value = !equal.holds previous current value
  /-- The number of the bit does not matter. -/
  bitClear : bitClear.holds previous current value = !bitSet.holds previous current value
  beyond : 64 ≤ value.toNat → bitSet.holds previous current value = false
  /-- A bit that changes rises or falls, and does not do both. -/
  bitToggles : bitToggles.holds previous current value =
    (bitRises.holds previous current value ^^ bitFalls.holds previous current value)
  /-- A rise is a fall in the other direction of time. -/
  rises : bitRises.holds previous current value = bitFalls.holds current previous value
  falls : bitFalls.holds previous current value = bitRises.holds current previous value
  multiEdge : multiEdge.holds previous current value = multiEdge.holds current previous value
  /-- An edge in either direction is an edge upwards or an edge downwards. -/
  directions : threshold value ≠ 0 → threshold value ≠ -2 ^ 31 →
    ∃ up down, threshold up = (threshold value).natAbs ∧ threshold down = -(threshold value).natAbs ∧
      Condition.multiEdge.holds previous current value =
        (oneEdge.holds previous current up || oneEdge.holds previous current down)

theorem family (previous current : Int) (value : UInt32) : Family previous current value where
  trichotomy := by
    simp only [List.countP_cons, List.countP_nil, holds, decide_eq_true_eq, beq_iff_eq]
    rcases Int.lt_trichotomy current (threshold value) with below | reached | above
    · rw [if_neg (by omega), if_neg (by omega), if_pos below]
    · rw [if_neg (by omega), if_pos reached, if_neg (by omega)]
    · rw [if_pos above, if_neg (by omega), if_neg (by omega)]
  greaterOrEqual := by simp only [holds, ← decide_not, Int.not_lt]
  lessOrEqual := by simp only [holds, ← decide_not, Int.not_lt]
  notEqual := rfl
  bitClear := rfl
  beyond := by
    intro beyond
    have narrow : ¬value.toNat < 64 := Nat.not_lt.2 beyond
    simp [holds, bit, narrow]
  bitToggles := by
    simp only [holds]
    cases bit previous value <;> cases bit current value <;> rfl
  rises := Bool.and_comm ..
  falls := Bool.and_comm ..
  multiEdge := by
    have size : (previous - current).natAbs = (current - previous).natAbs := by omega
    simp only [holds, size]
  directions := by
    intro moves negatable
    have low := le_threshold value
    have high := threshold_lt value
    obtain ⟨up, upwards⟩ :=
      exists_threshold (t := ((threshold value).natAbs : Int)) (by omega) (by omega)
    obtain ⟨down, downwards⟩ :=
      exists_threshold (t := -((threshold value).natAbs : Int)) (by omega) (by omega)
    refine ⟨up, down, upwards, downwards, ?_⟩
    simp only [holds]
    rw [upwards, downwards, if_pos (by omega), if_neg (by omega), ← Bool.decide_or]
    exact decide_eq_decide.2 (by omega)

/-! ## Words -/

section Words

/-- The difference of two signed words, if it fits. -/
def difference? {width : Nat} (x y : BitVec width) : Option (BitVec width) :=
  if x.ssubOverflow y then none else some (x - y)

/-- The size of a signed word, if it fits. -/
def size? {width : Nat} (x : BitVec width) : Option (BitVec width) :=
  if x.negOverflow then none else some x.abs

/-- Whether bit `n` of a word is set, by a mask; there is no mask beyond the width. -/
def maskedBit (reading : BitVec 64) (n : UInt32) : Bool :=
  n.toNat < 64 && reading &&& 1#64 <<< n.toNat != 0#64

/-- Whether the condition holds of two 64-bit readings. The threshold is widened to their size, and what is
subtracted is widened to twice that size first; `none` if a result does not fit all the same. -/
def holdsInWords? (c : Condition) (previous current : Int64) (value : UInt32) : Option Bool :=
  let before := previous.toBitVec
  let now := current.toBitVec
  let threshold := value.toBitVec.signExtend 64
  match c with
  | never => some false
  | always => some true
  | bitSet => some (maskedBit now value)
  | bitClear => some !maskedBit now value
  | bitRises => some (!maskedBit before value && maskedBit now value)
  | bitFalls => some (maskedBit before value && !maskedBit now value)
  | bitToggles => some (maskedBit before value != maskedBit now value)
  | greater => some (threshold.slt now)
  | greaterOrEqual => some (threshold.sle now)
  | less => some (now.slt threshold)
  | lessOrEqual => some (now.sle threshold)
  | equal => some (now == threshold)
  | notEqual => some (now != threshold)
  | oneEdge => do
    let moved ← difference? (now.signExtend 128) (before.signExtend 128)
    if (0#64).slt threshold then return (threshold.signExtend 128).slt moved
    else return moved.slt (threshold.signExtend 128)
  | multiEdge => do
    let moved ← size? (← difference? (before.signExtend 128) (now.signExtend 128))
    let least ← size? (threshold.signExtend 128)
    return least.slt moved

/-- The lowest bit of a word tells whether the number is odd. -/
theorem getLsbD_zero_eq {width : Nat} (x : BitVec (width + 1)) : x.getLsbD 0 = (x.toInt % 2 == 1) := by
  have even : 2 ^ (width + 1) % 2 = 0 := by omega
  rw [BitVec.toInt_eq_toNat_cond, BitVec.getLsbD, Nat.testBit_zero]
  rw [Bool.eq_iff_iff, decide_eq_true_eq, beq_iff_eq]
  split <;> omega

/-- A mask picks the bit that a shift brings to the end. -/
theorem maskedBit_eq (reading : BitVec 64) (n : UInt32) : maskedBit reading n = bit reading.toInt n := by
  unfold maskedBit bit
  by_cases within : n.toNat < 64
  · have shifted : reading.getLsbD n.toNat = (reading.sshiftRight n.toNat).getLsbD 0 := by
      rw [BitVec.getLsbD_sshiftRight, Nat.add_zero, if_pos within]
      simp
    have mask : BitVec.twoPow 64 n.toNat ≠ 0#64 := by
      intro none
      have size := BitVec.toNat_twoPow_of_lt within
      rw [none] at size
      exact Nat.ne_of_lt (Nat.two_pow_pos _) size
    rw [← BitVec.twoPow_eq, BitVec.and_twoPow, shifted, getLsbD_zero_eq, BitVec.toInt_sshiftRight]
    cases (reading.toInt >>> n.toNat % 2 == 1) <;> simp [mask]
  · simp [within]

theorem difference?_eq_some {width : Nat} {x y : BitVec width} (low : -2 ^ (width - 1) ≤ x.toInt - y.toInt)
    (high : x.toInt - y.toInt < 2 ^ (width - 1)) :
    ∃ moved, difference? x y = some moved ∧ moved.toInt = x.toInt - y.toInt := by
  have fits : ¬x.ssubOverflow y := by
    simp only [BitVec.ssubOverflow, Bool.or_eq_true, decide_eq_true_eq]
    omega
  exact ⟨x - y, if_neg fits, BitVec.toInt_sub_of_not_ssubOverflow fits⟩

theorem size?_eq_some {width : Nat} {x : BitVec width} (positive : 0 < width)
    (negatable : -2 ^ (width - 1) < x.toInt) : ∃ size, size? x = some size ∧ size.toInt = x.toInt.natAbs := by
  have fits : ¬x.negOverflow := by
    simp only [BitVec.negOverflow, beq_iff_eq]
    omega
  refine ⟨x.abs, if_neg fits, BitVec.toInt_abs_eq_natAbs_of_ne_intMin ?_⟩
  rintro rfl
  rw [BitVec.toInt_intMin_of_pos positive] at negatable
  exact Int.lt_irrefl _ negatable

/-- No result is too large for its word, and the words say what the numbers say. -/
theorem holdsInWords?_eq (c : Condition) (previous current : Int64) (value : UInt32) :
    c.holdsInWords? previous current value = some (c.holds previous.toInt current.toInt value) := by
  have before : (previous.toBitVec.signExtend 128).toInt = previous.toInt :=
    BitVec.toInt_signExtend_of_le (by decide)
  have now : (current.toBitVec.signExtend 128).toInt = current.toInt :=
    BitVec.toInt_signExtend_of_le (by decide)
  have narrow : (value.toBitVec.signExtend 64).toInt = threshold value := by
    rw [BitVec.toInt_signExtend_of_le (by decide), threshold_eq_toInt]
  have wide : ((value.toBitVec.signExtend 64).signExtend 128).toInt = threshold value := by
    rw [BitVec.toInt_signExtend_of_le (by decide), narrow]
  have := le_threshold value
  have := threshold_lt value
  have := previous.le_toInt
  have := previous.toInt_lt
  have := current.le_toInt
  have := current.toInt_lt
  cases c <;> simp only [holdsInWords?, holds]
  case bitSet | bitClear | bitRises | bitFalls | bitToggles =>
    simp only [maskedBit_eq, Int64.toInt_toBitVec]
  case greater | greaterOrEqual | less | lessOrEqual =>
    simp only [BitVec.slt_eq_decide, BitVec.sle_eq_decide, narrow, Int64.toInt_toBitVec]
  case equal | notEqual =>
    have same : (current.toBitVec == value.toBitVec.signExtend 64) = (current.toInt == threshold value) := by
      rw [Bool.eq_iff_iff, beq_iff_eq, beq_iff_eq, ← BitVec.toInt_inj, narrow, Int64.toInt_toBitVec]
    simp only [bne, same]
  case oneEdge =>
    obtain ⟨moved, fits, difference⟩ := difference?_eq_some (x := current.toBitVec.signExtend 128)
      (y := previous.toBitVec.signExtend 128) (by omega) (by omega)
    have upwards : (0#64).slt (value.toBitVec.signExtend 64) = decide (0 < threshold value) := by
      rw [BitVec.slt_eq_decide, narrow, BitVec.toInt_zero]
    rw [now, before] at difference
    rw [fits, Option.bind_eq_bind, Option.bind_some, upwards, BitVec.slt_eq_decide, BitVec.slt_eq_decide, wide,
      difference]
    by_cases positive : 0 < threshold value <;> simp [positive]
  case multiEdge =>
    obtain ⟨moved, fits, difference⟩ := difference?_eq_some (x := previous.toBitVec.signExtend 128)
      (y := current.toBitVec.signExtend 128) (by omega) (by omega)
    obtain ⟨far, far_fits, far_eq⟩ := size?_eq_some (x := moved) (by decide) (by omega)
    obtain ⟨least, least_fits, least_eq⟩ :=
      size?_eq_some (x := (value.toBitVec.signExtend 64).signExtend 128) (by decide) (by omega)
    simp only [fits, far_fits, least_fits, Option.bind_eq_bind, Option.bind_some, BitVec.slt_eq_decide,
      far_eq, least_eq, difference, wide, before, now, Int.ofNat_lt]
    rfl

end Words

/-! ## Edges -/

/-- The conditions that compare the two readings with each other. -/
def isEdge : Condition → Bool
  | bitRises | bitFalls | bitToggles | oneEdge | multiEdge => true
  | _ => false

/-- A reading that did not change is no edge. -/
theorem holds_of_isEdge {c : Condition} (edge : c.isEdge = true) (reading : Int) (value : UInt32) :
    c.holds reading reading value = false := by
  cases c <;> simp only [isEdge, Bool.false_eq_true] at edge
  case bitRises | bitFalls => simp [holds]
  case bitToggles => simp [holds]
  case oneEdge =>
    simp only [holds, Int.sub_self]
    split <;> simp <;> omega
  case multiEdge => simp [holds]

theorem readsAddress_of_isEdge {c : Condition} (edge : c.isEdge = true) : c.readsAddress = true := by
  cases c <;> first | rfl | cases edge

end TriggeredSampler.Condition
