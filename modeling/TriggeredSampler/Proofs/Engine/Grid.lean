import Mathlib.Algebra.Order.Floor.Div
import TriggeredSampler.Proofs.Engine.Iterations

/-! # Counting rows and ticks

A sampler with a duration, which starts at once and has no stop trigger, is ticked once per period from 0
on. All its iterations then have the same number of rows and the same number of ticks. In firmware the
last row ends the iteration; in software it ends with a tick that finds the duration over.

* `Configuration.rowCount`, `Configuration.tickCount` — the rows and the ticks of an iteration.
* `Course.OnGrid.begins` — where the iterations of a repetitive sampler begin.
* `Course.counts_on_grid` — which ticks sample, and which sample they take.
-/

namespace TriggeredSampler

namespace Configuration

variable (c : Configuration)

/-- The rows of an iteration that its duration ends. -/
def rowCount : Nat :=
  if c.software then c.duration.toNat ⌈/⌉ c.period.toNat else 1 + c.duration.toNat / c.period.toNat

/-- The ticks of an iteration that its duration ends. -/
def tickCount : Nat :=
  if c.software then c.rowCount + 1 else c.rowCount

theorem tickCount_pos : 0 < c.tickCount := by
  unfold tickCount rowCount
  split
  · exact Nat.succ_pos _
  · exact Nat.add_pos_left Nat.one_pos _

end Configuration

/-- Among the numbers below `i`, those of the same cycle as `i` are counted by the remainder. -/
theorem countP_range_cycle {i cycle rows : Nat} {p : Nat → Bool}
    (counts : ∀ j, p j = true ↔ j % cycle < rows ∧ j / cycle = i / cycle) (within : i % cycle < rows)
    (fits : 0 < cycle) : (List.range i).countP p = i % cycle := by
  have apart : List.range i = List.range (i / cycle * cycle) ++
      (List.range (i % cycle)).map (i / cycle * cycle + ·) := by
    rw [← List.range_add, Nat.div_add_mod']
  have before : (List.range (i / cycle * cycle)).countP p = 0 := by
    rw [List.countP_eq_zero]
    intro j listed counted
    have earlier := Nat.div_lt_of_lt_mul ((List.mem_range.1 listed).trans_eq (Nat.mul_comm ..))
    exact earlier.ne ((counts j).1 counted).2
  have same : ((List.range (i % cycle)).map (i / cycle * cycle + ·)).countP p = i % cycle := by
    rw [List.countP_map, List.countP_eq_length.2, List.length_range]
    intro t listed
    have early := List.mem_range.1 listed
    have short := early.trans (Nat.mod_lt i fits)
    have quotient : (i / cycle * cycle + t) / cycle = i / cycle := by
      rw [Nat.add_comm, Nat.add_mul_div_right _ _ fits, Nat.div_eq_of_lt short, Nat.zero_add]
    rw [Function.comp_apply, counts, Nat.mul_add_mod_of_lt short]
    exact ⟨early.trans within, quotient⟩
  rw [apart, List.countP_append, before, same, Nat.zero_add]

namespace Course

variable {ρ : Type}

/-- What tick `i` samples, if it does: the iteration, and how many samples of it were taken before. -/
def place (x : Course ρ) (i : Nat) : Nat × Nat :=
  ((x.state i).1.iteration, (List.range i).countP fun j =>
    (x.tick j).sampled && (x.state j).1.iteration == (x.state i).1.iteration)

/-- Nothing but the duration ends an iteration, and there is a tick at each period. -/
structure OnGrid (x : Course ρ) : Prop where
  period : 0 < x.configuration.period.toNat
  duration : 0 < x.configuration.duration.toNat
  start : x.configuration.start.condition = .always
  stop : x.configuration.stop.isSet = false
  time : ∀ i, x.time i = i * x.configuration.period.toNat

namespace OnGrid

variable {x : Course ρ} {c : Configuration} {made : Engine} {f i : Nat}

theorem firstStart_eq (grid : x.OnGrid) (a : Nat) : x.firstStart a = a := by
  have starts : x.StartsAt a a := by
    rw [StartsAt, Trigger.isMet, grid.start]
    rfl
  exact firstFrom_eq_coe_iff.2 ⟨Nat.le_refl a, starts, fun i later before => by omega⟩

theorem elapsedAt_iff (grid : x.OnGrid) : x.ElapsedAt f i ↔ x.configuration.software = true ∧
    f + x.configuration.duration.toNat ⌈/⌉ x.configuration.period.toNat ≤ i := by
  rw [ElapsedAt, grid.time, grid.time, and_congr_right_iff]
  intro _
  rw [and_iff_right grid.duration]
  by_cases later : f ≤ i
  · obtain ⟨t, rfl⟩ := Nat.exists_eq_add_of_le later
    rw [Nat.add_mul, Nat.add_le_add_iff_left, Nat.add_le_add_iff_left,
      ceilDiv_le_iff_le_mul grid.period, Nat.mul_comm]
  · have less := Nat.mul_le_mul_right x.configuration.period.toNat (Nat.le_of_not_le later)
    have some := grid.duration
    omega

theorem endsAt_iff (grid : x.OnGrid) : x.ElapsedAt f i ∨ x.StopsAt f i ∨ x.FullAt f i ↔
    f + (x.configuration.tickCount - 1) ≤ i := by
  rw [grid.elapsedAt_iff, StopsAt, FullAt, grid.stop, Configuration.tickCount, Configuration.rowCount]
  cases x.configuration.software <;> simp
  omega

theorem ending_eq (grid : x.OnGrid) (f : Nat) :
    x.ending f = (f + (x.configuration.tickCount - 1) : Nat) := by
  have ends : (fun i => x.ElapsedAt f i ∨ x.StopsAt f i ∨ x.FullAt f i) =
      (f + (x.configuration.tickCount - 1) ≤ ·) :=
    funext fun i => propext grid.endsAt_iff
  rw [Course.ending_eq, ends, firstFrom_ge (Nat.le_add_right ..)]

theorem sampled_iff_of_single (grid : x.OnGrid) (waits : x.Waits 0 0 0 (x.state 0).1)
    (single : x.configuration.mode ≠ .repetitive) (i : Nat) :
    (x.tick i).sampled = true ↔ i < x.configuration.rowCount := by
  rw [waits.sampled_iff single (Nat.zero_le i), grid.firstStart_eq]
  simp only [Nat.cast_inj, exists_eq_left', grid.ending_eq, Nat.cast_le, grid.elapsedAt_iff]
  rw [Configuration.tickCount, Configuration.rowCount]
  cases x.configuration.software <;> simp <;> omega

theorem completed_iff_of_single (grid : x.OnGrid) (waits : x.Waits 0 0 0 (x.state 0).1)
    (single : x.configuration.mode ≠ .repetitive) (i : Nat) :
    (x.tick i).engine.phase = .completed ↔ x.configuration.tickCount - 1 ≤ i := by
  have completed := waits.completed_iff_le single (grid.firstStart_eq 0) (grid.ending_eq 0) (Nat.zero_le i)
  rwa [Nat.zero_add] at completed

theorem begins (grid : x.OnGrid) (repetitive : x.configuration.mode = .repetitive) (k : Nat) :
    x.Begins k (k * x.configuration.tickCount) := by
  induction k with
  | zero =>
    rw [Nat.zero_mul]
    exact .armed
  | succ k ih =>
    have again := ih.again (grid.firstStart_eq _) (grid.ending_eq _) repetitive
    have next : (k + 1) * x.configuration.tickCount =
        k * x.configuration.tickCount + (x.configuration.tickCount - 1) + 1 := by
      have pos := x.configuration.tickCount_pos
      rw [Nat.succ_mul]
      omega
    rwa [next]

/-- A repetitive sampler never waits: each tick finds it in the iteration of its cycle. -/
theorem samples (grid : x.OnGrid) (accepted : Engine.new? c = .ok made)
    (armed : made.arm = .ok x.engine) (repetitive : x.configuration.mode = .repetitive) (i : Nat) :
    x.Samples (i / x.configuration.tickCount)
      (i / x.configuration.tickCount * x.configuration.tickCount) i (x.opened i).1 := by
  have waits := (grid.begins repetitive (i / x.configuration.tickCount)).waits accepted armed
  apply (waits.starts (grid.firstStart_eq _)).until
  · exact Nat.div_mul_le_self ..
  · have cycle := Nat.lt_div_mul_add (a := i) x.configuration.tickCount_pos
    rw [grid.ending_eq, Nat.cast_le]
    omega

theorem iteration_eq (grid : x.OnGrid) (accepted : Engine.new? c = .ok made)
    (armed : made.arm = .ok x.engine) (repetitive : x.configuration.mode = .repetitive) (i : Nat) :
    (x.state i).1.iteration = i / x.configuration.tickCount := by
  have opening := (x.state i).1.awaitStart_opening (x.reader i).source (x.time i) (x.state i).2
  rw [← opening.iteration]
  exact (grid.samples accepted armed repetitive i).iteration

theorem sampled_iff (grid : x.OnGrid) (accepted : Engine.new? c = .ok made)
    (armed : made.arm = .ok x.engine) (repetitive : x.configuration.mode = .repetitive) (i : Nat) :
    (x.tick i).sampled = true ↔ i % x.configuration.tickCount < x.configuration.rowCount := by
  rw [(grid.samples accepted armed repetitive i).sampled_iff (Nat.div_mul_le_self ..),
    grid.elapsedAt_iff]
  have cycle := Nat.mod_lt i x.configuration.tickCount_pos
  have apart := Nat.div_add_mod' i x.configuration.tickCount
  revert cycle apart
  generalize i / x.configuration.tickCount * x.configuration.tickCount = f
  rw [Configuration.tickCount, Configuration.rowCount]
  cases x.configuration.software with
  | true =>
    simp
    omega
  | false => exact fun cycle _ => by simpa using cycle

theorem place_eq (grid : x.OnGrid) (accepted : Engine.new? c = .ok made)
    (armed : made.arm = .ok x.engine) (repetitive : x.configuration.mode = .repetitive)
    (sampled : (x.tick i).sampled = true) :
    x.place i = (i / x.configuration.tickCount, i % x.configuration.tickCount) := by
  have iteration := grid.iteration_eq accepted armed repetitive
  rw [grid.sampled_iff accepted armed repetitive] at sampled
  rw [place, iteration i, countP_range_cycle _ sampled x.configuration.tickCount_pos]
  intro j
  rw [Bool.and_eq_true, beq_iff_eq, iteration j, grid.sampled_iff accepted armed repetitive]

end OnGrid

/-- **Counts on the grid.** A sampler with a duration, which starts at once and has no stop trigger, is
ticked at each period from 0 on. In firmware an iteration has a row at its start and one for each whole
period of the duration, and the last of its rows ends it. In software it has as many rows as periods begin
within the duration, and ends one tick behind the last of them. A repetitive sampler runs such iterations
one after the other. -/
theorem counts_on_grid {c : Configuration} (valid : c.validate = .ok ())
    (limited : 0 < c.duration.toNat) (start : c.start.condition = .always)
    (stop : c.stop.isSet = false) :
    ∃ made e, Engine.new? c = .ok made ∧ made.arm = .ok e ∧ ∀ x : Course ρ, x.engine = e →
      (∀ i, x.time i = i * c.period.toNat) →
        let n := if c.software then c.duration.toNat ⌈/⌉ c.period.toNat
          else 1 + c.duration.toNat / c.period.toNat
        (c.mode = .normal → (∀ i, (x.tick i).sampled = true ↔ i < n) ∧
          ∀ i, (x.tick i).engine.phase = .completed ↔ (if c.software then n else n - 1) ≤ i) ∧
        (c.mode = .repetitive → c.software = false →
          (∀ i, (x.tick i).sampled = true ∧ x.place i = (i / n, i % n)) ∧
            ∀ m, (x.state m).1.iteration = m / n) ∧
        (c.mode = .repetitive → c.software = true →
          (∀ i, ((x.tick i).sampled = true ↔ i % (n + 1) < n) ∧
            ((x.tick i).sampled = true → x.place i = (i / (n + 1), i % (n + 1)))) ∧
            ∀ m, (x.state m).1.iteration = m / (n + 1)) := by
  obtain ⟨made, e, accepted, armed⟩ := Engine.exists_armed valid
  refine ⟨made, e, accepted, armed, ?_⟩
  rintro x rfl time n
  obtain rfl := configuration_of_armed accepted armed
  have grid : x.OnGrid := ⟨Configuration.period_pos valid, limited, start, stop, time⟩
  refine ⟨?_, ?_, ?_⟩
  · intro normal
    have single : x.configuration.mode ≠ .repetitive := by simp [normal]
    have last : x.configuration.tickCount - 1 = if x.configuration.software then n else n - 1 := by
      rw [Configuration.tickCount]
      cases x.configuration.software <;> rfl
    rw [← last]
    have waits := Begins.armed.waits accepted armed
    exact ⟨grid.sampled_iff_of_single waits single, grid.completed_iff_of_single waits single⟩
  · intro repetitive firmware
    have cycle : x.configuration.tickCount = n := by
      rw [Configuration.tickCount, firmware]
      rfl
    have sampled : ∀ i, (x.tick i).sampled = true := by
      intro i
      rw [grid.sampled_iff accepted armed repetitive, cycle]
      exact Nat.mod_lt i (cycle ▸ x.configuration.tickCount_pos)
    rw [← cycle]
    exact ⟨fun i => ⟨sampled i, grid.place_eq accepted armed repetitive (sampled i)⟩,
      grid.iteration_eq accepted armed repetitive⟩
  · intro repetitive software
    have cycle : x.configuration.tickCount = n + 1 := by
      rw [Configuration.tickCount, software]
      rfl
    rw [← cycle]
    exact ⟨fun i => ⟨grid.sampled_iff accepted armed repetitive i,
      grid.place_eq accepted armed repetitive⟩, grid.iteration_eq accepted armed repetitive⟩

/-- A software sampler that repeats iterations of 25 milliseconds, in periods of ten. -/
def threePeriods : Configuration := { Configuration.ofMode .repetitive with
  software := true, period := 10, duration := 25, start := .immediate, tracked := [⟨0x2000, 0⟩] }

/-- Its ticks, on a register that counts its reads. -/
def everyPeriod : Course Int where
  engine := { Engine.prepare threePeriods 4096 none with lifecycle := .ready }
  source := 0
  time i := i * 10
  reader _ := ⟨fun _ r => (r, r + 1)⟩

/-- One tick in four samples nothing; tick 6 takes the last sample of the second iteration. -/
theorem counts_of_everyPeriod :
    threePeriods.validate = .ok () ∧ 0 < threePeriods.duration.toNat ∧
      threePeriods.start.condition = .always ∧ threePeriods.stop.isSet = false ∧
      (∀ i, (everyPeriod.tick i).sampled = true ↔ i % 4 < 3) ∧ everyPeriod.place 6 = (1, 2) := by
  have valid : threePeriods.validate = .ok () := rfl
  have limited : 0 < threePeriods.duration.toNat := by decide
  obtain ⟨made, e, accepted, armed, counts⟩ := counts_on_grid (ρ := Int) valid limited rfl rfl
  obtain rfl : Engine.prepare threePeriods 4096 none = made := Except.ok.inj accepted
  have engine : everyPeriod.engine = e := Except.ok.inj armed
  have rows : threePeriods.duration.toNat ⌈/⌉ threePeriods.period.toNat = 3 := rfl
  have counts := (counts everyPeriod engine fun _ => rfl).2.2 rfl rfl
  rw [if_pos (show threePeriods.software = true from rfl), rows] at counts
  refine ⟨valid, limited, rfl, rfl, fun i => (counts.1 i).1, (counts.1 6).2 ?_⟩
  exact ((counts.1 6).1).2 (by decide)

end Course

end TriggeredSampler
