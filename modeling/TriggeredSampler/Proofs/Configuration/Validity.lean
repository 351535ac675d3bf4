import TriggeredSampler.Configuration.Validity
import TriggeredSampler.Proofs.Storage.Plan

/-! # What a valid configuration guarantees

* `Configuration.validate_eq_ok_iff` — validation is the conjunction of its checks.
* `Configuration.sampleCount_of_firmware` — a valid firmware sampler has a number of samples.
* `Configuration.exists_plan` — and the samples fit into the buffers.
-/

namespace TriggeredSampler.Configuration

variable {c : Configuration}

/-- A configuration is valid exactly if it passes every check. -/
theorem validate_eq_ok_iff :
    c.validate = .ok () ↔
      c.version = supportedVersion ∧ 0 < c.tracked.length ∧ c.tracked.length ≤ maxTracked ∧
        c.period ≠ 0 ∧ c.start.isSet = true ∧
        c.mode.checkEnding c.software c.duration c.stop.isSet = .ok () ∧ c.checkStorage = .ok () := by
  unfold validate
  split
  next version => simp [version]
  next version =>
    split
    next count =>
      simp only [reduceCtorEq, false_iff]
      omega
    next count =>
      split
      next period => simp [period]
      next period =>
        split
        next start => simp_all
        next start =>
          cases c.mode.checkEnding c.software c.duration c.stop.isSet with
          | error defect => simp
          | ok _ =>
            simp_all only [ne_eq, not_or, Decidable.not_not, Bool.not_eq_eq_eq_not, Bool.not_true,
              Bool.not_eq_false, true_and, not_false_eq_true]
            constructor
            · intro storage
              exact ⟨by omega, by omega, storage⟩
            · rintro ⟨_, _, storage⟩
              exact storage

theorem period_pos (valid : c.validate = .ok ()) : 0 < c.period.toNat := by
  obtain ⟨_, _, _, period, _⟩ := validate_eq_ok_iff.1 valid
  rw [Nat.pos_iff_ne_zero, ← UInt16.toNat_zero]
  exact fun none => period (UInt16.toNat_inj.1 none)

/-- A valid firmware sampler has a duration, so the number of its samples is known. -/
theorem sampleCount_of_firmware (valid : c.validate = .ok ()) (firmware : c.software = false) :
    c.sampleCount = some (1 + c.duration.toNat / c.period.toNat) := by
  obtain ⟨_, _, _, period, _, ending, _⟩ := validate_eq_ok_iff.1 valid
  have duration : c.duration ≠ 0 := by
    intro none
    rw [firmware, none] at ending
    cases mode : c.mode <;> simp [mode, Mode.checkEnding] at ending
  simp [sampleCount, firmware, duration, period]

theorem sampleCount_of_software (software : c.software = true) : c.sampleCount = none := by
  simp [sampleCount, software]

/-- The samples of a valid firmware sampler fit into the buffers. -/
theorem exists_plan (valid : c.validate = .ok ()) (firmware : c.software = false) :
    ∃ plan, Plan.make? c.tracked.length (1 + c.duration.toNat / c.period.toNat) = .ok plan := by
  obtain ⟨_, _, _, _, _, _, storage⟩ := validate_eq_ok_iff.1 valid
  rw [checkStorage, sampleCount_of_firmware valid firmware] at storage
  cases planned : Plan.make? c.tracked.length (1 + c.duration.toNat / c.period.toNat) with
  | error _ => simp [planned, Except.map] at storage
  | ok plan => exact ⟨plan, rfl⟩

end TriggeredSampler.Configuration
