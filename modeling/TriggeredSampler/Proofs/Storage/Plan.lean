import Mathlib.Algebra.Order.Floor.Div
import Mathlib.Data.List.Nodup
import Mathlib.Order.Bounds.Basic
import TriggeredSampler.Storage.Plan

/-! # How the banks are given out

A plan gives every address the same number of whole banks. The samples of an address need their ceiling
division by the capacity of a bank; what fits into the banks per address is a floor division. Both tests
accept the same plans.

* `Plan.le_maxSamples_iff` — the samples fit exactly if the banks they need do.
* `Plan.banksOf` — the banks of an address; `Plan.flatMap_banksOf` puts those of all addresses together.
* `Plan.make?_optimal` — what a plan guarantees, and what its refusal does.
-/

namespace TriggeredSampler.Plan

variable {tracked samples : Nat} {plan : Plan}

/-- A plan exists exactly if there is something to store and it fits. -/
theorem make?_eq_ok_iff :
    make? tracked samples = .ok plan ↔
      0 < tracked ∧ 0 < samples ∧ samples ≤ maxSamples tracked ∧
        plan = ⟨tracked, (samples + bankCapacity - 1) / bankCapacity, samples⟩ := by
  unfold make?
  split
  next rejected =>
    simp only [reduceCtorEq, false_iff]
    omega
  next accepted =>
    simp only [Except.ok.injEq]
    constructor
    · rintro rfl
      exact ⟨by omega, by omega, by omega, rfl⟩
    · rintro ⟨_, _, _, rfl⟩
      rfl

/-- The banks of an address hold the samples that were planned for it. -/
theorem samples_le_capacity (planned : make? tracked samples = .ok plan) :
    0 < plan.samplesPerAddress ∧ plan.samplesPerAddress ≤ plan.capacityPerAddress := by
  obtain ⟨_, some, _, rfl⟩ := make?_eq_ok_iff.1 planned
  refine ⟨some, ?_⟩
  simp only [capacityPerAddress, bankCapacity]
  omega

/-! ## What fits -/

/-- Of the two bounds on the samples of an address, the one that counts whole banks decides. -/
theorem maxSamples_eq (tracked : Nat) : maxSamples tracked = bankCount / tracked * bankCapacity := by
  unfold maxSamples
  split
  next none => rw [none, Nat.div_zero, Nat.zero_mul]
  next =>
    apply Nat.min_eq_right
    rw [totalCapacity, Nat.mul_comm, Nat.mul_comm bankCount]
    exact Nat.mul_div_le_mul_div_assoc bankCapacity bankCount tracked

theorem le_maxSamples_iff (some : 0 < tracked) :
    samples ≤ maxSamples tracked ↔ tracked * (samples ⌈/⌉ bankCapacity) ≤ bankCount := by
  have capacity : 0 < bankCapacity := by decide
  rw [maxSamples_eq, Nat.mul_comm, ← ceilDiv_le_iff_le_mul capacity, Nat.le_div_iff_mul_le some,
    Nat.mul_comm]

theorem exists_make?_iff :
    (∃ plan, make? tracked samples = .ok plan) ↔
      1 ≤ tracked ∧ 1 ≤ samples ∧ tracked * (samples ⌈/⌉ bankCapacity) ≤ bankCount := by
  constructor
  · rintro ⟨plan, planned⟩
    obtain ⟨some, stored, fits, _⟩ := make?_eq_ok_iff.1 planned
    exact ⟨some, stored, (le_maxSamples_iff some).1 fits⟩
  · rintro ⟨some, stored, fits⟩
    exact ⟨_, make?_eq_ok_iff.2 ⟨some, stored, (le_maxSamples_iff some).2 fits, rfl⟩⟩

/-- The bound named in a refusal is the best one. -/
theorem isGreatest_maxSamples (tracked : Nat) :
    IsGreatest {s | s = 0 ∨ ∃ plan, make? tracked s = .ok plan} (maxSamples tracked) := by
  constructor
  · by_cases none : maxSamples tracked = 0
    · exact .inl none
    · have some : tracked ≠ 0 := by
        rintro rfl
        exact none rfl
      exact .inr ⟨_, make?_eq_ok_iff.2 ⟨by omega, by omega, Nat.le_refl _, rfl⟩⟩
  · rintro s (rfl | ⟨plan, planned⟩)
    · exact Nat.zero_le _
    · exact (make?_eq_ok_iff.1 planned).2.2.1

theorem make?_eq_error (refused : ¬∃ plan, make? tracked samples = .ok plan) :
    make? tracked samples = .error (.overCapacity samples (maxSamples tracked) tracked) := by
  by_cases rejected : tracked = 0 ∨ samples = 0 ∨ maxSamples tracked < samples
  · rw [make?, if_pos rejected]
  · exact absurd ⟨_, if_neg rejected⟩ refused

/-! ## Where the addresses are stored -/

/-- The banks of the address in `column`, in order. -/
def banksOf (plan : Plan) (column : Nat) : List Nat :=
  List.range' (plan.banks column).1 ((plan.banks column).2 - (plan.banks column).1)

theorem banksOf_eq (plan : Plan) (column : Nat) :
    plan.banksOf column = List.range' (column * plan.banksPerAddress) plan.banksPerAddress := by
  rw [banksOf, banks, Nat.add_sub_cancel_left]

/-- The banks of the addresses, one address after the other, are the first banks. -/
theorem flatMap_banksOf (plan : Plan) (count : Nat) :
    (List.range count).flatMap plan.banksOf = List.range (count * plan.banksPerAddress) := by
  -- by induction on the addresses: the next one begins where the others end
  induction count with
  | zero => rw [Nat.zero_mul, List.range_zero, List.flatMap_nil]
  | succ count ih =>
    rw [List.range_succ, List.flatMap_append, ih, List.flatMap_singleton, banksOf_eq, Nat.succ_mul]
    simp only [List.range_eq_range']
    have next := List.range'_append_1 (s := 0) (m := count * plan.banksPerAddress) (n := plan.banksPerAddress)
    rwa [Nat.zero_add] at next

/-- No bank is given out twice. -/
theorem disjoint_banksOf (plan : Plan) (count : Nat) :
    ((List.range count).map plan.banksOf).Pairwise List.Disjoint := by
  have all : ((List.range count).map plan.banksOf).flatten.Nodup := by
    rw [← List.flatMap_def, flatMap_banksOf]
    exact List.nodup_range
  exact (List.nodup_flatten.1 all).2

/-- **The plan is sound and optimal.** Samples are planned exactly if the whole banks that they need are no
more than the twelve there are. The addresses then share no bank, follow one another without a gap, and each
has room for its samples with less than a bank to spare. Otherwise the refusal names the greatest number of
samples that can be planned for so many addresses, or 0. -/
theorem make?_optimal (tracked samples : Nat) :
    if 1 ≤ tracked ∧ 1 ≤ samples ∧ tracked * (samples ⌈/⌉ 254) ≤ 12 then
      ∃ plan, make? tracked samples = .ok plan ∧
        plan.tracked = tracked ∧ plan.samplesPerAddress = samples ∧
        (List.range tracked).flatMap plan.banksOf = List.range plan.banksUsed ∧
        ((List.range tracked).map plan.banksOf).Pairwise List.Disjoint ∧
        plan.banksUsed ≤ 12 ∧
        (∀ column, (plan.banksOf column).length * 254 = plan.capacityPerAddress) ∧
        samples ≤ plan.capacityPerAddress ∧ plan.capacityPerAddress < samples + 254
    else
      ∃ max, make? tracked samples = .error (.overCapacity samples max tracked) ∧
        IsGreatest {s | s = 0 ∨ ∃ plan, make? tracked s = .ok plan} max := by
  split
  next fits =>
    obtain ⟨plan, planned⟩ := exists_make?_iff.2 fits
    obtain ⟨_, _, _, rfl⟩ := make?_eq_ok_iff.1 planned
    refine ⟨_, planned, rfl, rfl, flatMap_banksOf _ tracked, disjoint_banksOf _ tracked, fits.2.2, ?_,
      (samples_le_capacity planned).2, ?_⟩
    · intro column
      rw [banksOf_eq, List.length_range']
      rfl
    · simp only [capacityPerAddress, bankCapacity]
      omega
  next exceeds =>
    exact ⟨_, make?_eq_error fun planned => exceeds (exists_make?_iff.1 planned),
      isGreatest_maxSamples tracked⟩

end TriggeredSampler.Plan
