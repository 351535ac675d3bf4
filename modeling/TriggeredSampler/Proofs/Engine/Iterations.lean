import Mathlib.Data.ENat.Lattice
import TriggeredSampler.Proofs.Engine.Conservation

/-! # The ticks of an iteration

A `Course` is an armed engine with all its ticks, none of which a read fails. When its iterations begin
and end is read off the times of the ticks and the readings of the triggers alone.

* `firstFrom` — the first tick of some kind.
* `Course.firstStart`, `Course.ending` — where an iteration begins and ends.
* `Course.Waits.opened`, `Course.Samples.tick` — what one tick does.
* `Course.iteration_of_ticks` — which ticks sample.
-/

namespace TriggeredSampler

/-! ## The first tick of some kind -/

open Classical in
/-- The first number from `a` on that satisfies `P`, `⊤` if there is none. -/
noncomputable def firstFrom (a : Nat) (P : Nat → Prop) : ℕ∞ :=
  if found : ∃ i, a ≤ i ∧ P i then (Nat.find found : ℕ∞) else ⊤

section FirstFrom

variable {a n : Nat} {P Q : Nat → Prop}

theorem le_firstFrom : (n : ℕ∞) ≤ firstFrom a P ↔ ∀ i, a ≤ i → i < n → ¬P i := by
  classical
  unfold firstFrom
  split
  next found =>
    rw [Nat.cast_le, Nat.le_find_iff]
    constructor
    · intro none i later before holds
      exact none i before ⟨later, holds⟩
    · intro none i before within
      exact none i within.1 before within.2
  next missing =>
    simp only [le_top, true_iff]
    intro i later _ holds
    exact missing ⟨i, later, holds⟩

theorem firstFrom_eq_coe_iff :
    firstFrom a P = n ↔ a ≤ n ∧ P n ∧ ∀ i, a ≤ i → i < n → ¬P i := by
  classical
  unfold firstFrom
  split
  next found =>
    rw [Nat.cast_inj, Nat.find_eq_iff, and_assoc]
    constructor
    · rintro ⟨later, holds, none⟩
      exact ⟨later, holds, fun i after before within => none i before ⟨after, within⟩⟩
    · rintro ⟨later, holds, none⟩
      exact ⟨later, holds, fun i before within => none i within.1 before within.2⟩
  next missing =>
    constructor
    · intro first
      cases first
    · rintro ⟨later, holds, _⟩
      exact absurd ⟨n, later, holds⟩ missing

theorem lt_firstFrom (later : a ≤ n) (reached : (n : ℕ∞) ≤ firstFrom a P) :
    (n : ℕ∞) < firstFrom a P ↔ ¬P n := by
  have none := le_firstFrom.1 reached
  constructor
  · intro before holds
    have first : firstFrom a P = n := firstFrom_eq_coe_iff.2 ⟨later, holds, none⟩
    exact before.ne first.symm
  · intro fails
    apply reached.lt_of_ne
    intro first
    exact fails (firstFrom_eq_coe_iff.1 first.symm).2.1

theorem firstFrom_or : firstFrom a (fun i => P i ∨ Q i) = min (firstFrom a P) (firstFrom a Q) := by
  apply ENat.eq_of_forall_natCast_le_iff
  intro n
  simp only [le_min_iff, le_firstFrom, not_or]
  exact ⟨fun none => ⟨fun i later before => (none i later before).1,
    fun i later before => (none i later before).2⟩,
    fun none i later before => ⟨none.1 i later before, none.2 i later before⟩⟩

theorem firstFrom_succ (fails : ¬P a) : firstFrom (a + 1) P = firstFrom a P := by
  apply ENat.eq_of_forall_natCast_le_iff
  intro n
  simp only [le_firstFrom]
  constructor
  · intro none i later before
    by_cases first : i = a
    · exact first ▸ fails
    · exact none i (by omega) before
  · intro none i later before
    exact none i (by omega) before

theorem firstFrom_ge {m : Nat} (later : a ≤ m) : firstFrom a (m ≤ ·) = m := by
  apply ENat.eq_of_forall_natCast_le_iff
  intro n
  rw [le_firstFrom, Nat.cast_le]
  exact ⟨fun none => by_contra fun less => none m later (by omega) (Nat.le_refl m),
    fun bound i _ before reached => by omega⟩

theorem firstFrom_never (none : ∀ i, ¬P i) : firstFrom a P = ⊤ := by
  unfold firstFrom
  rw [dif_neg]
  rintro ⟨i, _, holds⟩
  exact none i holds

end FirstFrom

/-! ## Reading without faults -/

/-- Answers every read with a value. What it answers may depend on, and change, a state. -/
structure Reader (ρ : Type) where
  read : Address → ρ → Int × ρ

variable {ρ : Type}

def Reader.source (reader : Reader ρ) : Source ρ := fun a r =>
  (.ok (reader.read a r).1, (reader.read a r).2)

namespace Reader

variable (reader : Reader ρ)

theorem readAll_ok (addresses : List Address) (r : ρ) :
    ∃ values next, reader.source.readAll addresses r = (.ok values, next) := by
  induction addresses generalizing r with
  | nil => exact ⟨[], r, rfl⟩
  | cons a rest ih =>
    obtain ⟨values, next, ok⟩ := ih (reader.read a r).2
    refine ⟨(reader.read a r).1 :: values, next, ?_⟩
    rw [Source.readAll]
    simp only [source] at ok ⊢
    rw [ok]

/-- A condition that reads no address does not depend on readings. -/
theorem isMet_of_constant {t : Trigger} (constant : t.condition.readsAddress = false)
    (previous current previous' current' : Int) :
    t.isMet previous current = t.isMet previous' current' := by
  unfold Trigger.isMet
  cases condition : t.condition <;> simp_all [Condition.readsAddress, Condition.holds]

theorem check_ok (t : Trigger) (seen : Option Int) (r : ρ) :
    (reader.source.check t seen r).1 =
      .ok ⟨t.isMet (seen.getD (reader.read t.address r).1) (reader.read t.address r).1,
        if t.condition.readsAddress then some (reader.read t.address r).1 else seen⟩ := by
  unfold Source.check
  cases reads : t.condition.readsAddress with
  | true => simp [source]
  | false =>
    simp only [Bool.false_eq_true, if_false, Except.ok.injEq, Source.Check.mk.injEq, and_true]
    exact isMet_of_constant reads ..

end Reader

/-- The readings of a trigger's address since tick `a`: the latest one before tick `i` is remembered, if the
trigger reads its address at all. -/
def Remembers (t : Trigger) (reading : Nat → Int) (a i : Nat) (seen : Option Int) : Prop :=
  t.condition.readsAddress = true → seen = if i = a then none else some (reading (i - 1))

namespace Remembers

variable {t : Trigger} {reading : Nat → Int} {a i : Nat} {seen : Option Int}

theorem start : Remembers t reading a a none := by
  simp [Remembers]

theorem isMet (remembers : Remembers t reading a i seen) (later : a ≤ i) :
    t.isMet (seen.getD (reading i)) (reading i) = t.isMet (reading (max a (i - 1))) (reading i) := by
  cases reads : t.condition.readsAddress with
  | false => exact Reader.isMet_of_constant reads ..
  | true =>
    rw [remembers reads]
    by_cases first : i = a
    · rw [if_pos first, Option.getD_none, Nat.max_eq_left (by omega), first]
    · rw [if_neg first, Option.getD_some, Nat.max_eq_right (by omega)]

theorem succ (later : a ≤ i) :
    Remembers t reading a (i + 1) (if t.condition.readsAddress then some (reading i) else seen) := by
  intro reads
  rw [if_pos reads, if_neg (by omega), Nat.add_sub_cancel]

end Remembers

/-! ## A course of ticks -/

/-- An armed engine with the state of its readers, and its ticks: their times, and what answers their
reads. -/
structure Course (ρ : Type) where
  engine : Engine
  source : ρ
  time : Nat → Nat
  reader : Nat → Reader ρ

namespace Course

/-- The engine and the readers before tick `i`. -/
def state (x : Course ρ) : Nat → Engine × ρ
  | 0 => (x.engine, x.source)
  | i + 1 =>
    let ticked := (x.state i).1.tick (x.reader i).source (x.time i) (x.state i).2
    (ticked.engine, ticked.source)

variable (x : Course ρ)

def tick (i : Nat) : Tick ρ := (x.state i).1.tick (x.reader i).source (x.time i) (x.state i).2

/-- Tick `i` up to the check of the start trigger. -/
def opened (i : Nat) : Engine × ρ :=
  (x.state i).1.awaitStart (x.reader i).source (x.time i) (x.state i).2

def configuration : Configuration := x.engine.configuration

/-- The reading of the start trigger's address at tick `i`. -/
def startReading (i : Nat) : Int :=
  ((x.reader i).read x.configuration.start.address (x.state i).2).1

/-- The reading of the stop trigger's address at tick `i`, behind the row. -/
def stopReading (i : Nat) : Int :=
  ((x.reader i).read x.configuration.stop.address
    ((x.reader i).source.readAll x.configuration.tracked (x.opened i).2).2).1

/-- The start condition holds at tick `i` of a wait that begins at tick `a`. The reading before `a` counts
as equal to the one at `a`. -/
def StartsAt (a i : Nat) : Prop :=
  x.configuration.start.isMet (x.startReading (max a (i - 1))) (x.startReading i) = true

/-- The software duration of an iteration that began at tick `f` is over at tick `i`. -/
def ElapsedAt (f i : Nat) : Prop :=
  x.configuration.software = true ∧ 0 < x.configuration.duration.toNat ∧
    x.time f + x.configuration.duration.toNat ≤ x.time i

/-- The stop condition holds at tick `i` of an iteration that began at tick `f`, whose first reading is its
own predecessor. -/
def StopsAt (f i : Nat) : Prop :=
  x.configuration.stop.isSet = true ∧
    x.configuration.stop.isMet (x.stopReading (max f (i - 1))) (x.stopReading i) = true

/-- The number of samples is complete at tick `i` of an iteration that began at tick `f`. -/
def FullAt (f i : Nat) : Prop :=
  x.configuration.software = false ∧
    f + (1 + x.configuration.duration.toNat / x.configuration.period.toNat) - 1 ≤ i

/-- The first tick that starts an iteration in a wait that begins at tick `a`. -/
noncomputable def firstStart (a : Nat) : ℕ∞ := firstFrom a (x.StartsAt a)

/-- The first tick behind `f` at which the duration is over. -/
noncomputable def firstElapsed (f : Nat) : ℕ∞ := firstFrom (f + 1) (x.ElapsedAt f)

/-- The first tick from `f` on at which the stop condition holds. -/
noncomputable def firstStop (f : Nat) : ℕ∞ := firstFrom f (x.StopsAt f)

/-- The tick that takes the last sample of a firmware sampler. -/
def firstFull (f : Nat) : ℕ∞ :=
  if x.configuration.software then ⊤
  else ((f + (1 + x.configuration.duration.toNat / x.configuration.period.toNat) - 1 : Nat) : ℕ∞)

/-- The tick that ends an iteration which began at tick `f`. -/
noncomputable def ending (f : Nat) : ℕ∞ := min (x.firstElapsed f) (min (x.firstStop f) (x.firstFull f))

/-- The wait for iteration `k` begins at tick `a`: the engine was just armed, or the tick before ended the
previous iteration of a repetitive sampler. -/
inductive Begins : Nat → Nat → Prop where
  | armed : Begins 0 0
  | again {k a f n : Nat} (begins : Begins k a) (start : x.firstStart a = f) (ended : x.ending f = n)
      (repetitive : x.configuration.mode = .repetitive) : Begins (k + 1) (n + 1)

/-! ## What the engine remembers -/

/-- The engine is in iteration `k`, with the configuration and the quota it was made with. -/
structure Executes (k : Nat) (e : Engine) : Prop where
  configuration : e.configuration = x.configuration
  quota : e.quota = if x.configuration.software then none
    else some (1 + x.configuration.duration.toNat / x.configuration.period.toNat)
  iteration : e.iteration = k

/-- The engine waits since tick `a`, and is about to read for tick `i`. -/
structure Waits (k a i : Nat) (e : Engine) : Prop extends x.Executes k e where
  phase : e.phase = .ready
  seen : Remembers x.configuration.start x.startReading a i e.startSeen

/-- The engine samples since tick `f`, and is about to read the row of tick `i`. -/
structure Samples (k f i : Nat) (e : Engine) : Prop extends x.Executes k e where
  phase : e.phase = .running
  startedAt : e.startedAt = x.time f
  taken : e.taken = i - f
  seen : Remembers x.configuration.stop x.stopReading f i e.stopSeen

/-- The engine ended iteration `k` at tick `n`. -/
def Ended (k n : Nat) (e : Engine) : Prop :=
  if x.configuration.mode = .repetitive then x.Waits (k + 1) (n + 1) (n + 1) e else e.phase = .completed

variable {x} {k a f i n : Nat} {e : Engine}

/-- Closing an iteration forgets what was read for it. -/
theorem Executes.closeIteration (executes : x.Executes k e) (running : e.phase = .running) (n : Nat) :
    x.Ended k n e.closeIteration := by
  have phase := Engine.phase_closeIteration running
  have iteration := Engine.iteration_closeIteration (e := e)
  rw [executes.configuration] at phase iteration
  unfold Ended
  split
  next repetitive =>
    rw [if_pos repetitive] at phase iteration
    have again : e.closeIteration = { e.flush with
        lifecycle := e.closeIteration.lifecycle, iteration := e.iteration + 1, startSeen := none } := by
      simp [Engine.closeIteration, executes.configuration, repetitive]
    rw [executes.iteration] at iteration
    refine ⟨⟨?_, ?_, iteration⟩, phase, ?_⟩
    · rw [again, Engine.flush_eq]
      exact executes.configuration
    · rw [again, Engine.flush_eq]
      exact executes.quota
    · rw [again]
      exact .start
  next single =>
    rw [phase, if_neg single]

/-! ## One tick -/

/-- A waiting engine looks at the reading of the start trigger's address, and remembers it. -/
theorem awaitStart_of_ready {t : Trigger} (reader : Reader ρ) (now : Nat) (ready : e.phase = .ready)
    (start : e.configuration.start = t) (r : ρ) :
    let reading := (reader.read t.address r).1
    let seen := { e with startSeen := if t.condition.readsAddress then some reading else e.startSeen }
    (e.awaitStart reader.source now r).1 =
      if t.isMet (e.startSeen.getD reading) reading then seen.openIteration now else seen := by
  intro reading seen
  have ok := reader.check_ok t e.startSeen r
  rw [Engine.awaitStart, if_pos ready, start]
  rcases check : reader.source.check t e.startSeen r with ⟨result, next⟩
  rw [check] at ok
  obtain rfl : result = _ := ok
  rfl

theorem Waits.opened (waits : x.Waits k a i (x.state i).1) (later : a ≤ i) :
    (x.StartsAt a i → x.Samples k i i (x.opened i).1) ∧
      (¬x.StartsAt a i → x.Waits k a (i + 1) (x.opened i).1) := by
  obtain ⟨⟨configuration, quota, iteration⟩, ready, remembers⟩ := waits
  have opened := awaitStart_of_ready (x.reader i) (x.time i) ready
    (congrArg Configuration.start configuration) (x.state i).2
  have met := remembers.isMet later
  constructor
  · intro starts
    rw [show (x.opened i).1 = _ from opened.trans (if_pos (met.trans starts))]
    exact ⟨⟨configuration, quota, iteration⟩, Engine.phase_openIteration _ ready, rfl,
      (Nat.sub_self i).symm, .start⟩
  · intro still
    rw [show (x.opened i).1 = _ from opened.trans (if_neg fun holds => still (met.symm.trans holds))]
    exact ⟨⟨configuration, quota, iteration⟩, ready, .succ later⟩

/-- An iteration that is under way does not check the start trigger. -/
theorem Samples.opened (samples : x.Samples k f i (x.state i).1) : x.opened i = x.state i := by
  rw [Course.opened, Engine.awaitStart, if_neg (by simp [samples.phase])]

theorem tick_eq (x : Course ρ) (i : Nat) :
    x.tick i =
      if (x.opened i).1.phase ≠ .running then ⟨(x.opened i).1, false, (x.opened i).2⟩
      else if (x.opened i).1.durationOver (x.time i) then
        ⟨(x.opened i).1.closeIteration, false, (x.opened i).2⟩
      else (x.opened i).1.sample (x.reader i).source (x.time i) (x.opened i).2 := rfl

theorem tick_of_still (still : (x.opened i).1.phase ≠ .running) :
    (x.tick i).sampled = false ∧ (x.state (i + 1)).1 = (x.opened i).1 := by
  have tick := (tick_eq x i).trans (if_pos still)
  exact ⟨congrArg Tick.sampled tick, congrArg Tick.engine tick⟩

theorem Samples.durationOver (samples : x.Samples k f i e) :
    e.durationOver (x.time i) = true ↔ x.ElapsedAt f i := by
  rw [Engine.durationOver, samples.configuration, samples.startedAt, ElapsedAt]
  simp only [Bool.and_eq_true, decide_eq_true_eq, UInt32.lt_iff_toNat_lt, UInt32.toNat_zero, and_assoc,
    and_congr_right_iff]
  omega

theorem Samples.quotaReached (samples : x.Samples k f i e) (later : f ≤ i) (values : List Int) :
    (e.store (x.time i) values).quotaReached = true ↔ x.FullAt f i := by
  have quota : (e.store (x.time i) values).quota = _ := samples.quota
  have taken : (e.store (x.time i) values).taken = i - f + 1 := congrArg (· + 1) samples.taken
  rw [Engine.quotaReached, quota, FullAt, taken]
  cases x.configuration.software with
  | true => simp
  | false =>
    simp
    omega

/-- The stop trigger is checked behind the row. -/
theorem checkStop_of_isSet {t : Trigger} (reader : Reader ρ) (set : t.isSet = true)
    (stop : e.configuration.stop = t) (r : ρ) :
    let reading := (reader.read t.address r).1
    let seen := { e with stopSeen := if t.condition.readsAddress then some reading else e.stopSeen }
    (e.checkStop reader.source r).1 =
      if t.isMet (e.stopSeen.getD reading) reading then seen.closeIteration else seen := by
  intro reading seen
  have ok := reader.check_ok t e.stopSeen r
  rw [Engine.checkStop, stop, if_pos set]
  rcases check : reader.source.check t e.stopSeen r with ⟨result, next⟩
  rw [check] at ok
  obtain rfl : result = _ := ok
  rfl

theorem Samples.checkStop (samples : x.Samples k f i (x.opened i).1) (later : f ≤ i) (values : List Int)
    {r : ρ} (read : (x.reader i).source.readAll x.configuration.tracked (x.opened i).2 = (.ok values, r)) :
    let checked := ((x.opened i).1.store (x.time i) values).checkStop (x.reader i).source r
    (x.StopsAt f i → x.Ended k i checked.1) ∧ (¬x.StopsAt f i → x.Samples k f (i + 1) checked.1) := by
  obtain ⟨⟨configuration, quota, iteration⟩, running, startedAt, taken, remembers⟩ := samples
  have row : x.stopReading i = ((x.reader i).read x.configuration.stop.address r).1 := by
    rw [stopReading, read]
  have taken : (x.opened i).1.taken + 1 = i + 1 - f := by omega
  have stop := congrArg Configuration.stop configuration
  cases set : x.configuration.stop.isSet with
  | false =>
    -- an absent trigger has no reading to remember
    have unread : x.configuration.stop.condition.readsAddress = false := by
      cases condition : x.configuration.stop.condition <;>
        simp_all [Trigger.isSet, Condition.readsAddress]
    have kept : ((x.opened i).1.store (x.time i) values).checkStop (x.reader i).source r = _ :=
      if_neg (by simp [Engine.store, stop, set])
    simp only [kept]
    refine ⟨fun stops => ?_, fun _ => ⟨⟨configuration, quota, iteration⟩, running, startedAt, taken, ?_⟩⟩
    · simp [StopsAt, set] at stops
    · simp [Remembers, unread]
  | true =>
    have checked := checkStop_of_isSet (e := (x.opened i).1.store (x.time i) values) (x.reader i) set stop r
    have met := remembers.isMet later
    simp only [← row] at checked
    constructor
    · intro stops
      rw [show (Engine.checkStop _ _ _).1 = _ from checked.trans (if_pos (met.trans stops.2))]
      apply Executes.closeIteration
      · exact ⟨configuration, quota, iteration⟩
      · exact running
    · intro still
      rw [show (Engine.checkStop _ _ _).1 = _ from
        checked.trans (if_neg fun holds => still ⟨set, met.symm.trans holds⟩)]
      exact ⟨⟨configuration, quota, iteration⟩, running, startedAt, taken, .succ later⟩

/-- One tick of an iteration that began at tick `f`. -/
theorem Samples.tick (samples : x.Samples k f i (x.opened i).1) (later : f ≤ i) :
    (x.ElapsedAt f i → (x.tick i).sampled = false ∧ x.Ended k i (x.state (i + 1)).1) ∧
      (¬x.ElapsedAt f i → (x.tick i).sampled = true ∧
        (x.StopsAt f i ∨ x.FullAt f i → x.Ended k i (x.state (i + 1)).1) ∧
        (¬(x.StopsAt f i ∨ x.FullAt f i) → x.Samples k f (i + 1) (x.state (i + 1)).1)) := by
  have done : (x.state (i + 1)).1 = (x.tick i).engine := rfl
  have executes := samples.toExecutes
  rw [done, tick_eq, if_neg (by simp [samples.phase])]
  constructor
  · intro elapsed
    rw [if_pos (samples.durationOver.2 elapsed)]
    exact ⟨rfl, executes.closeIteration samples.phase i⟩
  · intro going
    rw [if_neg fun elapsed => going (samples.durationOver.1 elapsed), Engine.sample,
      executes.configuration]
    obtain ⟨values, r, read⟩ := (x.reader i).readAll_ok x.configuration.tracked (x.opened i).2
    obtain ⟨stopped, kept⟩ := samples.checkStop later values read
    have stored : x.Executes k ((x.opened i).1.store (x.time i) values) :=
      ⟨executes.configuration, executes.quota, executes.iteration⟩
    rw [read]
    simp only
    by_cases full : x.FullAt f i
    · rw [if_pos ((samples.quotaReached later values).2 full)]
      exact ⟨rfl, fun _ => stored.closeIteration samples.phase i, fun more => absurd (.inr full) more⟩
    · rw [if_neg fun reached => full ((samples.quotaReached later values).1 reached)]
      exact ⟨rfl, fun ends => stopped (ends.resolve_right full), fun more => kept (more ∘ .inl)⟩

/-- A tick of an iteration samples unless the duration is over. -/
theorem Samples.sampled_iff (samples : x.Samples k f i (x.opened i).1) (later : f ≤ i) :
    (x.tick i).sampled = true ↔ ¬x.ElapsedAt f i := by
  obtain ⟨past, going⟩ := samples.tick later
  by_cases elapsed : x.ElapsedAt f i
  · simp [elapsed, (past elapsed).1]
  · simp [elapsed, (going elapsed).1]

/-! ## One iteration -/

theorem Waits.until (waits : x.Waits k a a (x.state a).1) (later : a ≤ i)
    (before : (i : ℕ∞) ≤ x.firstStart a) : x.Waits k a i (x.state i).1 := by
  have none := le_firstFrom.1 before
  -- by induction on the ticks since the wait began
  induction i, later using Nat.le_induction with
  | base => exact waits
  | succ i later ih =>
    have waits := ih (le_trans (by simp) before) fun j after within => none j after (by omega)
    have opened := (waits.opened later).2 (none i later (by omega))
    rw [(tick_of_still (by simp [opened.phase])).2]
    exact opened

/-- Nothing is sampled while the engine waits. -/
theorem Waits.still (waits : x.Waits k a a (x.state a).1) (later : a ≤ i)
    (before : (i : ℕ∞) < x.firstStart a) :
    (x.tick i).sampled = false ∧ (x.tick i).engine.phase = .ready := by
  have opened := ((waits.until later before.le).opened later).2 ((lt_firstFrom later before.le).1 before)
  have still : (x.opened i).1.phase ≠ .running := by simp [opened.phase]
  obtain ⟨nothing, same⟩ := tick_of_still still
  exact ⟨nothing, (congrArg Engine.phase same).trans opened.phase⟩

theorem Waits.starts (waits : x.Waits k a a (x.state a).1) (start : x.firstStart a = f) :
    x.Samples k f f (x.opened f).1 := by
  obtain ⟨later, starts, _⟩ := firstFrom_eq_coe_iff.1 start
  exact ((waits.until later start.ge).opened later).1 starts

/-- The duration is not over at the tick that begins the iteration. -/
theorem firstElapsed_eq (x : Course ρ) (f : Nat) : x.firstElapsed f = firstFrom f (x.ElapsedAt f) := by
  apply firstFrom_succ
  rintro ⟨_, some, past⟩
  omega

theorem ending_eq (x : Course ρ) (f : Nat) :
    x.ending f = firstFrom f fun i => x.ElapsedAt f i ∨ x.StopsAt f i ∨ x.FullAt f i := by
  have full : x.firstFull f = firstFrom f (x.FullAt f) := by
    unfold firstFull FullAt
    cases x.configuration.software with
    | true => exact (firstFrom_never (by simp)).symm
    | false =>
      simp only [Bool.false_eq_true, if_false, true_and]
      exact (firstFrom_ge (Nat.le_sub_of_add_le (Nat.add_le_add_left (Nat.le_add_right ..) f))).symm
  rw [ending, firstElapsed_eq, full, firstStop, firstFrom_or, firstFrom_or]

theorem Samples.next (samples : x.Samples k f i (x.opened i).1) (later : f ≤ i)
    (none : ¬(x.ElapsedAt f i ∨ x.StopsAt f i ∨ x.FullAt f i)) :
    x.Samples k f (i + 1) (x.state (i + 1)).1 := by
  obtain ⟨going, more⟩ := not_or.1 none
  exact ((samples.tick later).2 going).2.2 more

theorem Samples.until (samples : x.Samples k f f (x.opened f).1) (later : f ≤ i)
    (before : (i : ℕ∞) ≤ x.ending f) : x.Samples k f i (x.opened i).1 := by
  rw [ending_eq] at before
  have none := le_firstFrom.1 before
  -- by induction on the ticks since the iteration began
  induction i, later using Nat.le_induction with
  | base => exact samples
  | succ i later ih =>
    have samples := ih (le_trans (by simp) before) fun j after within => none j after (by omega)
    have next := samples.next later (none i later (by omega))
    rw [next.opened]
    exact next

theorem Samples.going (samples : x.Samples k f f (x.opened f).1) (later : f ≤ i)
    (before : (i : ℕ∞) < x.ending f) : x.Samples k f (i + 1) (x.state (i + 1)).1 := by
  have none := before
  rw [ending_eq] at none
  exact (samples.until later before.le).next later ((lt_firstFrom later none.le).1 none)

theorem Samples.ended (samples : x.Samples k f f (x.opened f).1) (ended : x.ending f = n) :
    x.Ended k n (x.state (n + 1)).1 := by
  obtain ⟨later, ends, _⟩ := firstFrom_eq_coe_iff.1 ((ending_eq x f).symm.trans ended)
  obtain ⟨past, going⟩ := (samples.until later ended.ge).tick later
  by_cases elapsed : x.ElapsedAt f n
  · exact (past elapsed).2
  · exact (going elapsed).2.1 (ends.resolve_left elapsed)

theorem configuration_of_armed {c : Configuration} {made : Engine}
    (accepted : Engine.new? c = .ok made) (armed : made.arm = .ok x.engine) : x.configuration = c := by
  obtain ⟨_, _, _, rfl, _⟩ := Engine.new?_eq_ok accepted
  rw [Course.configuration, ← Except.ok.inj armed, Engine.prepare]

/-- The engine waits where a wait begins. -/
theorem Begins.waits {c : Configuration} {made : Engine} (accepted : Engine.new? c = .ok made)
    (armed : made.arm = .ok x.engine) (begins : x.Begins k a) : x.Waits k a a (x.state a).1 := by
  induction begins with
  | armed =>
    have configuration := configuration_of_armed accepted armed
    obtain ⟨_, capacity, quota, rfl, sized⟩ := Engine.new?_eq_ok accepted
    have engine : { Engine.prepare c capacity quota with lifecycle := .ready } = x.engine :=
      Except.ok.inj armed
    rw [show (x.state 0).1 = x.engine from rfl, ← engine]
    refine ⟨⟨configuration.symm, ?_, rfl⟩, rfl, .start⟩
    rw [configuration, Engine.prepare]
    cases software : c.software with
    | true => exact (sized.software software).2
    | false => exact (sized.firmware software).1
  | again _ start ended repetitive ih =>
    have ended := (ih.starts start).ended ended
    rwa [Ended, if_pos repetitive] at ended

/-- A completed run stays as it is. -/
theorem still_of_completed (completed : (x.state n).1.phase = .completed) (later : n ≤ i) :
    (x.tick i).sampled = false ∧ (x.state i).1 = (x.state n).1 := by
  have still : ∀ j, (x.state j).1.phase = .completed → x.opened j = x.state j := by
    intro j completed
    rw [Course.opened, Engine.awaitStart, if_neg (by simp [completed])]
  -- by induction on the ticks since the run was completed
  have same : (x.state i).1 = (x.state n).1 := by
    induction i, later using Nat.le_induction with
    | base => rfl
    | succ i _ ih =>
      have completed := (congrArg Engine.phase ih).trans completed
      rw [(tick_of_still (by simp [still i completed, completed])).2, still i completed, ih]
  have completed := (congrArg Engine.phase same).trans completed
  exact ⟨(tick_of_still (by simp [still i completed, completed])).1, same⟩

/-! ## A single iteration -/

theorem Samples.completed (samples : x.Samples k f f (x.opened f).1) (ended : x.ending f = n)
    (single : x.configuration.mode ≠ .repetitive) : (x.state (n + 1)).1.phase = .completed := by
  have ended := samples.ended ended
  rwa [Ended, if_neg single] at ended

/-- A sampler that does not repeat samples within its one iteration, unless the duration is over. -/
theorem Waits.sampled_iff (waits : x.Waits k a a (x.state a).1)
    (single : x.configuration.mode ≠ .repetitive) (later : a ≤ i) :
    (x.tick i).sampled = true ↔
      ∃ f : Nat, x.firstStart a = f ∧ f ≤ i ∧ (i : ℕ∞) ≤ x.ending f ∧ ¬x.ElapsedAt f i := by
  by_cases before : (i : ℕ∞) < x.firstStart a
  · rw [(waits.still later before).1]
    refine iff_of_false Bool.false_ne_true ?_
    rintro ⟨f, start, begun, _⟩
    rw [start, Nat.cast_lt] at before
    omega
  obtain ⟨f, start, begun⟩ := ENat.le_natCast_iff.1 (not_lt.1 before)
  have samples := waits.starts start
  have unique : ∀ g : Nat, x.firstStart a = g → g = f := fun g other =>
    Nat.cast_inj.1 (other.symm.trans start)
  by_cases within : (i : ℕ∞) ≤ x.ending f
  · rw [(samples.until begun within).sampled_iff begun]
    constructor
    · exact fun going => ⟨f, start, begun, within, going⟩
    · rintro ⟨g, other, _, _, going⟩
      rwa [unique g other] at going
  · obtain ⟨n, ended, _⟩ := ENat.le_natCast_iff.1 (not_le.1 within).le
    have past : n < i := by simpa [ended] using within
    rw [(still_of_completed (samples.completed ended single) past).1]
    refine iff_of_false Bool.false_ne_true ?_
    rintro ⟨g, other, _, before, _⟩
    rw [unique g other] at before
    exact within before

/-- A sampler that does not repeat is completed from the tick on that ends its one iteration. -/
theorem Waits.completed_iff (waits : x.Waits k a a (x.state a).1)
    (single : x.configuration.mode ≠ .repetitive) (later : a ≤ i) :
    (x.tick i).engine.phase = .completed ↔
      ∃ f n : Nat, x.firstStart a = f ∧ x.ending f = n ∧ n ≤ i := by
  constructor
  · intro completed
    by_cases before : (i : ℕ∞) < x.firstStart a
    · rw [(waits.still later before).2] at completed
      cases completed
    obtain ⟨f, start, begun⟩ := ENat.le_natCast_iff.1 (not_lt.1 before)
    by_cases within : (i : ℕ∞) < x.ending f
    · rw [show (x.tick i).engine.phase = _ from ((waits.starts start).going begun within).phase]
        at completed
      cases completed
    obtain ⟨n, ended, past⟩ := ENat.le_natCast_iff.1 (not_lt.1 within)
    exact ⟨f, n, start, ended, past⟩
  · rintro ⟨f, n, start, ended, past⟩
    have completed := (waits.starts start).completed ended single
    have same := (still_of_completed completed (Nat.succ_le_succ past)).2
    exact (congrArg Engine.phase same).trans completed

theorem Waits.completed_iff_le (waits : x.Waits k a a (x.state a).1)
    (single : x.configuration.mode ≠ .repetitive) (start : x.firstStart a = f) (ended : x.ending f = n)
    (later : a ≤ i) : (x.tick i).engine.phase = .completed ↔ n ≤ i := by
  rw [waits.completed_iff single later]
  constructor
  · rintro ⟨g, m, other, last, past⟩
    obtain rfl : g = f := Nat.cast_inj.1 (other.symm.trans start)
    rwa [Nat.cast_inj.1 (last.symm.trans ended)] at past
  · exact fun past => ⟨f, n, start, ended, past⟩

/-- **The ticks of an iteration.** A wait begins when the engine is armed, or behind the tick that ended the
iteration before. It samples nothing, up to the first tick `f` at which the start condition holds. From
there on a row is sampled at each tick: up to the tick before the one at which the duration is over, or, if
they come first, up to the tick at which the stop condition holds and the one that completes the number of
samples. A repetitive sampler then waits for its next iteration; any other one is completed, and samples
nothing more. -/
theorem iteration_of_ticks {c : Configuration} {made : Engine} (accepted : Engine.new? c = .ok made)
    (armed : made.arm = .ok x.engine) (begins : x.Begins k a) :
    (∀ i, a ≤ i → (i : ℕ∞) < x.firstStart a →
        (x.tick i).sampled = false ∧ (x.tick i).engine.phase = .ready) ∧
      ∀ f : Nat, x.firstStart a = f →
        (∀ i, f ≤ i → (i : ℕ∞) ≤ x.ending f → (x.opened i).1.iteration = k ∧
          ((x.tick i).sampled = true ↔
            if x.firstElapsed f ≤ min (x.firstStop f) (x.firstFull f) then (i : ℕ∞) < x.firstElapsed f
            else (i : ℕ∞) ≤ min (x.firstStop f) (x.firstFull f))) ∧
        (∀ i, f ≤ i → (i : ℕ∞) < x.ending f → (x.tick i).engine.phase = .running) ∧
        ∀ n : Nat, x.ending f = n →
          if x.configuration.mode = .repetitive then
            (x.tick n).engine.phase = .ready ∧ (x.tick n).engine.iteration = k + 1
          else (x.tick n).engine.phase = .completed ∧ ∀ i, n < i → (x.tick i).sampled = false := by
  have waits := begins.waits accepted armed
  constructor
  · exact fun i later before => waits.still later before
  intro f start
  have samples := waits.starts start
  refine ⟨?_, ?_, ?_⟩
  · intro i later before
    have samples := samples.until later before
    refine ⟨samples.iteration, ?_⟩
    have reached : (i : ℕ∞) ≤ x.firstElapsed f := before.trans (min_le_left ..)
    rw [firstElapsed_eq] at reached
    rw [samples.sampled_iff later, ← lt_firstFrom later reached, ← firstElapsed_eq]
    split
    next => rfl
    next first =>
      have first := not_le.1 first
      have before : (i : ℕ∞) ≤ min (x.firstStop f) (x.firstFull f) := before.trans (min_le_right ..)
      exact iff_of_true (before.trans_lt first) before
  · exact fun i later before => (samples.going later before).phase
  · intro n ended
    have ended := samples.ended ended
    unfold Ended at ended
    split at ended
    next repetitive =>
      rw [if_pos repetitive]
      exact ⟨ended.phase, ended.iteration⟩
    next single =>
      rw [if_neg single]
      exact ⟨ended, fun i later => (still_of_completed ended later).1⟩

/-- A run of the sampler of three samples, ticked every ten milliseconds. -/
def threeTicks : Course Int where
  engine := { Engine.prepare Engine.threeSamples 254 (some 3) with lifecycle := .ready }
  source := 7
  time i := 10 * i
  reader _ := ⟨fun _ r => (r, r + 1)⟩

/-- The ticks 0, 1 and 2 sample, and no other. -/
theorem iteration_of_threeTicks :
    Engine.new? Engine.threeSamples = .ok (Engine.prepare Engine.threeSamples 254 (some 3)) ∧
      (Engine.prepare Engine.threeSamples 254 (some 3)).arm = .ok threeTicks.engine ∧
      threeTicks.Begins 0 0 ∧ ∀ i, (threeTicks.tick i).sampled = true ↔ i < 3 := by
  have accepted : Engine.new? Engine.threeSamples =
    .ok (Engine.prepare Engine.threeSamples 254 (some 3)) := rfl
  have armed : (Engine.prepare Engine.threeSamples 254 (some 3)).arm = .ok threeTicks.engine := rfl
  refine ⟨accepted, armed, .armed, ?_⟩
  have start : threeTicks.firstStart 0 = (0 : Nat) :=
    firstFrom_eq_coe_iff.2 ⟨Nat.le_refl 0, rfl, fun i _ before => by omega⟩
  have elapsed : threeTicks.firstElapsed 0 = ⊤ :=
    firstFrom_never fun i past => Bool.noConfusion past.1
  have stop : threeTicks.firstStop 0 = ⊤ := firstFrom_never fun i stops => Bool.noConfusion stops.1
  have full : threeTicks.firstFull 0 = (2 : Nat) := rfl
  have ending : threeTicks.ending 0 = (2 : Nat) := by
    rw [Course.ending, elapsed, stop, full]
    simp
  obtain ⟨_, iteration⟩ := iteration_of_ticks accepted armed .armed
  obtain ⟨rows, _, behind⟩ := iteration 0 start
  intro i
  by_cases later : i ≤ 2
  · rw [(rows i (Nat.zero_le i) (by rw [ending]; exact_mod_cast later)).2, elapsed, stop, full]
    simp
    omega
  · have completed := behind 2 ending
    rw [if_neg (by decide)] at completed
    rw [completed.2 i (by omega)]
    simp
    omega

end Course

end TriggeredSampler
