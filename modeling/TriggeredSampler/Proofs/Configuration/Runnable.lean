import TriggeredSampler.Proofs.Engine.Conservation

/-! # Runnable configurations

`Configuration.Runnable` says which configurations can run, without going through the checks one by one.
Validation accepts these, and so does an engine, which plans its rings a second time.

* `Mode.checkEnding_eq_ok_iff`, `Configuration.checkStorage_eq_ok_iff` — the checks of end and storage.
* `Configuration.validate_eq_ok_iff_runnable` — validation accepts what is runnable.
* `Engine.map_new?` — an engine is made if validation accepts, and refused for the same defect.
* `Configuration.verdict_of_runnable` — both verdicts, and the room in the rings.
-/

namespace TriggeredSampler

theorem Trigger.isSet_iff {t : Trigger} : t.isSet = true ↔ t.condition ≠ .never :=
  bne_iff_ne

theorem Trigger.isSet_eq_false_iff {t : Trigger} : t.isSet = false ↔ t.condition = .never :=
  bne_eq_false_iff_eq

/-- The modes whose iterations end by themselves. -/
theorem Mode.ne_continuous_iff {mode : Mode} : mode ≠ .continuous ↔ mode = .normal ∨ mode = .repetitive := by
  cases mode <;> decide

theorem Mode.checkEnding_eq_ok_iff {mode : Mode} {software stops : Bool} {duration : UInt32} :
    mode.checkEnding software duration stops = .ok () ↔
      (mode = .continuous ∧ software = true ∧ duration = 0 ∧ stops = false) ∨
        (mode ≠ .continuous ∧ software = true ∧ (duration ≠ 0 ∨ stops = true)) ∨
        (mode ≠ .continuous ∧ software = false ∧ duration ≠ 0) := by
  cases mode <;> cases software <;> cases stops <;> by_cases none : duration = 0 <;>
    simp [checkEnding, none]

namespace Configuration

variable {c : Configuration}

/-- How a sampler may end. A continuous one does not end by itself; any other ends by its duration or, in
software, by its stop trigger. In firmware the samples of the duration fit into twelve banks of 254 values,
none of which two addresses share. -/
inductive Ends (c : Configuration) : Prop
  | never (mode : c.mode = .continuous) (software : c.software = true) (untimed : c.duration = 0)
      (unstopped : c.stop.condition = .never)
  | inSoftware (mode : c.mode = .normal ∨ c.mode = .repetitive) (software : c.software = true)
      (limited : 0 < c.duration ∨ c.stop.condition ≠ .never)
  | inFirmware (mode : c.mode = .normal ∨ c.mode = .repetitive) (firmware : c.software = false)
      (timed : 0 < c.duration)
      (fits : c.tracked.length * ((1 + c.duration.toNat / c.period.toNat) ⌈/⌉ 254) ≤ 12)

/-- The sampler can run: it has something to record, a period, a start, and an end that suits its mode. -/
structure Runnable (c : Configuration) : Prop where
  version : c.version = 0x01000000
  tracked : 1 ≤ c.tracked.length ∧ c.tracked.length ≤ 12
  period : 1 ≤ c.period
  start : c.start.condition ≠ .never
  ends : c.Ends

theorem checkStorage_eq_ok_iff :
    c.checkStorage = .ok () ↔
      ∀ samples ∈ c.sampleCount, ∃ plan, Plan.make? c.tracked.length samples = .ok plan := by
  unfold checkStorage
  cases c.sampleCount with
  | none => simp
  | some samples => cases planned : Plan.make? c.tracked.length samples <;> simp [planned, Except.map]

theorem Ends.of_checks (period : c.period ≠ 0)
    (ending : c.mode.checkEnding c.software c.duration c.stop.isSet = .ok ())
    (storage : c.checkStorage = .ok ()) : c.Ends := by
  rcases Mode.checkEnding_eq_ok_iff.1 ending with
    ⟨mode, software, untimed, unstopped⟩ | ⟨mode, software, limited⟩ | ⟨mode, firmware, timed⟩
  · exact .never mode software untimed (Trigger.isSet_eq_false_iff.1 unstopped)
  · exact .inSoftware (Mode.ne_continuous_iff.1 mode) software
      (limited.imp UInt32.pos_iff_ne_zero.2 Trigger.isSet_iff.1)
  · have count : c.sampleCount = some (1 + c.duration.toNat / c.period.toNat) := by
      simp [sampleCount, firmware, timed, period]
    have planned := checkStorage_eq_ok_iff.1 storage _ count
    exact .inFirmware (Mode.ne_continuous_iff.1 mode) firmware (UInt32.pos_iff_ne_zero.2 timed)
      (Plan.exists_make?_iff.1 planned).2.2

theorem Ends.checkEnding (ends : c.Ends) :
    c.mode.checkEnding c.software c.duration c.stop.isSet = .ok () := by
  apply Mode.checkEnding_eq_ok_iff.2
  cases ends with
  | never mode software untimed unstopped =>
    exact .inl ⟨mode, software, untimed, Trigger.isSet_eq_false_iff.2 unstopped⟩
  | inSoftware mode software limited =>
    exact .inr (.inl ⟨Mode.ne_continuous_iff.2 mode, software,
      limited.imp UInt32.pos_iff_ne_zero.1 Trigger.isSet_iff.2⟩)
  | inFirmware mode firmware timed _ =>
    exact .inr (.inr ⟨Mode.ne_continuous_iff.2 mode, firmware, UInt32.pos_iff_ne_zero.1 timed⟩)

theorem Ends.checkStorage (tracked : 0 < c.tracked.length) (ends : c.Ends) : c.checkStorage = .ok () := by
  apply checkStorage_eq_ok_iff.2
  intro samples count
  cases ends with
  | never _ software | inSoftware _ software _ =>
    rw [sampleCount_of_software software] at count
    cases count
  | inFirmware _ firmware _ fits =>
    -- a number of samples is counted only as one more than the whole periods
    unfold sampleCount at count
    split at count
    · cases count
    · cases count
      exact Plan.exists_make?_iff.2 ⟨tracked, Nat.le_add_right 1 _, fits⟩

/-- Validation accepts what is runnable. -/
theorem validate_eq_ok_iff_runnable : c.validate = .ok () ↔ c.Runnable := by
  rw [validate_eq_ok_iff]
  constructor
  · rintro ⟨version, some, few, period, start, ending, storage⟩
    exact ⟨version, ⟨some, few⟩, UInt16.pos_iff_ne_zero.2 period, Trigger.isSet_iff.1 start,
      .of_checks period ending storage⟩
  · rintro ⟨version, ⟨some, few⟩, period, start, ends⟩
    exact ⟨version, some, few, UInt16.pos_iff_ne_zero.1 period, Trigger.isSet_iff.2 start,
      ends.checkEnding, ends.checkStorage some⟩

end Configuration

/-- An engine is made if validation accepts the configuration, and refused for the same defect. -/
theorem Engine.map_new? (c : Configuration) : (Engine.new? c).map (fun _ => ()) = c.validate := by
  cases valid : c.validate with
  | error defect => rw [Engine.new?, valid, Except.map]
  | ok _ =>
    obtain ⟨made, _, accepted, _⟩ := Engine.exists_armed valid
    rw [accepted, Except.map]

/-- **Validation accepts the runnable configurations.** An engine gives the same verdict, with the same
defect. The rings of a firmware sampler, one for each tracked address, are empty and have room for all samples
of an iteration. -/
theorem Configuration.verdict_of_runnable (c : Configuration) :
    (c.validate = .ok () ↔ c.Runnable) ∧
      (Engine.new? c).map (fun _ => ()) = c.validate ∧
      ∀ e, Engine.new? c = .ok e → c.software = false →
        ∃ capacity, e.columns = List.replicate c.tracked.length (Ring.empty capacity) ∧
          e.quota = some (1 + c.duration.toNat / c.period.toNat) ∧
          1 + c.duration.toNat / c.period.toNat ≤ capacity := by
  refine ⟨validate_eq_ok_iff_runnable, Engine.map_new? c, ?_⟩
  intro e accepted firmware
  obtain ⟨_, capacity, quota, rfl, sized⟩ := Engine.new?_eq_ok accepted
  obtain ⟨limited, room⟩ := sized.firmware firmware
  refine ⟨capacity, ?_, limited, room⟩
  rw [Engine.prepare, List.map_const']

/-- The three samples of one address are runnable, and the ring of the address has room for them. -/
theorem Configuration.verdict_of_threeSamples :
    Engine.threeSamples.Runnable ∧ ∃ e, Engine.new? Engine.threeSamples = .ok e ∧ e.quota = some 3 ∧
      ∃ capacity, 3 ≤ capacity ∧ e.columns = [Ring.empty capacity] := by
  obtain ⟨runnable, verdict, room⟩ := verdict_of_runnable Engine.threeSamples
  have accepted : Engine.new? Engine.threeSamples = .ok (Engine.prepare Engine.threeSamples 254 (some 3)) := rfl
  obtain ⟨capacity, columns, quota, fits⟩ := room _ accepted rfl
  refine ⟨runnable.1 ?_, _, accepted, quota, capacity, fits, columns⟩
  rw [← verdict, accepted]
  rfl

end TriggeredSampler
