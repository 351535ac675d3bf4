import TriggeredSampler.Proofs.Engine.Iterations

/-! # Firmware and software sample alike

A firmware sampler ends with its last sample, a software sampler when its duration is over. If the duration
has one period for each sample, both take the same rows, and the software ends at most one tick later.

* `Course.rows` — the rows of the ticks so far.
* `Engine.Gathered` — where the rows of a single iteration are.
* `Course.paths_agree` — the firmware and the software path of one configuration.
-/

namespace TriggeredSampler

namespace Configuration

variable {c : Configuration}

/-- The same sampler in software, with one period for each sample of the firmware. -/
def inSoftware (c : Configuration) : Configuration :=
  { c with
    software := true
    duration := UInt32.ofNat ((1 + c.duration.toNat / c.period.toNat) * c.period.toNat) }

@[simp] theorem mode_inSoftware : c.inSoftware.mode = c.mode := rfl
@[simp] theorem software_inSoftware : c.inSoftware.software = true := rfl
@[simp] theorem period_inSoftware : c.inSoftware.period = c.period := rfl
@[simp] theorem start_inSoftware : c.inSoftware.start = c.start := rfl
@[simp] theorem stop_inSoftware : c.inSoftware.stop = c.stop := rfl
@[simp] theorem tracked_inSoftware : c.inSoftware.tracked = c.tracked := rfl

/-- All buffers together hold 3048 values, so no address has more samples. -/
theorem samples_le (valid : c.validate = .ok ()) (firmware : c.software = false) :
    1 + c.duration.toNat / c.period.toNat ≤ 3048 := by
  obtain ⟨plan, planned⟩ := exists_plan valid firmware
  obtain ⟨width, _, fits, _⟩ := Plan.make?_eq_ok_iff.1 planned
  rw [Plan.maxSamples, if_neg width.ne'] at fits
  calc 1 + c.duration.toNat / c.period.toNat
      ≤ Plan.totalCapacity / c.tracked.length := fits.trans (Nat.min_le_left ..)
    _ ≤ Plan.totalCapacity := Nat.div_le_self ..

theorem duration_inSoftware (valid : c.validate = .ok ()) (firmware : c.software = false) :
    c.inSoftware.duration.toNat =
      (1 + c.duration.toNat / c.period.toNat) * c.period.toNat := by
  apply UInt32.toNat_ofNat_of_lt'
  calc (1 + c.duration.toNat / c.period.toNat) * c.period.toNat
      ≤ 3048 * 65535 :=
        Nat.mul_le_mul (samples_le valid firmware) (Nat.le_of_lt_succ c.period.toNat_lt)
    _ < 2 ^ 32 := by decide

theorem validate_inSoftware (valid : c.validate = .ok ()) (firmware : c.software = false)
    (normal : c.mode = .normal) : c.inSoftware.validate = .ok () := by
  obtain ⟨version, width, fits, period, start, _⟩ := validate_eq_ok_iff.1 valid
  have limited : c.inSoftware.duration ≠ 0 := by
    intro none
    have duration := duration_inSoftware valid firmware
    rw [none, UInt32.toNat_zero] at duration
    exact (Nat.mul_pos (Nat.add_pos_left Nat.one_pos _) (period_pos valid)).ne duration
  refine validate_eq_ok_iff.2 ⟨version, width, fits, period, start, ?_, ?_⟩
  · simp [Mode.checkEnding, normal, limited]
  · rw [checkStorage, sampleCount_of_software software_inSoftware]

end Configuration

namespace Engine

variable {ρ : Type} {c : Configuration} {made e : Engine} {segment : List Sampled}

/-- Rings that hold all rows give the same batch, whatever their capacity is. -/
theorem batchesOf_eq_of_fits {capacity other : Nat} (fits : segment.length ≤ capacity)
    (fits' : segment.length ≤ other) : batchesOf capacity segment = batchesOf other segment := by
  unfold batchesOf
  rw [rtake_of_length_le fits, rtake_of_length_le fits']

/-- An engine that was just armed holds no row. -/
theorem Collects.armed (accepted : new? c = .ok made) (armed : made.arm = .ok e) :
    e.iteration = 0 ∧ e.finished = [] ∧
      ∃ capacity quota, Sized c capacity quota ∧ Collects c capacity quota [] e := by
  obtain ⟨_, capacity, quota, rfl, sized⟩ := new?_eq_ok accepted
  obtain ⟨collects, finished⟩ := (Collects.prepare c capacity quota).arm armed
  have iteration : e.iteration = 0 := by
    rw [← Except.ok.inj armed]
    rfl
  exact ⟨iteration, finished, capacity, quota, sized, collects⟩

/-- Where the rows of a single iteration are: in the rings until the run is completed, and then in a
batch. -/
structure Gathered (c : Configuration) (capacity : Nat) (quota : Option Nat) (rows : List Sampled)
    (e : Engine) : Prop where
  iteration : e.iteration = 0
  proper : Proper c quota 0 rows
  kept : (e.finished = [] ∧ Collects c capacity quota rows e) ∨
    (e.phase = .completed ∧ e.finished = batchesOf capacity rows ∧ Collects c capacity quota [] e)

theorem Gathered.configured {capacity : Nat} {quota : Option Nat} {rows : List Sampled}
    (gathered : Gathered c capacity quota rows e) : e.configuration = c := by
  obtain ⟨_, _, ⟨_, collects⟩ | ⟨_, _, collects⟩⟩ := gathered <;> exact collects.configured

theorem Gathered.takeData {capacity : Nat} {quota : Option Nat} {rows : List Sampled}
    (width : 0 < c.tracked.length) (gathered : Gathered c capacity quota rows e) :
    e.takeData.1 = batchesOf capacity rows := by
  obtain ⟨_, _, ⟨finished, collects⟩ | ⟨_, finished, collects⟩⟩ := gathered
  · rw [(collects.takeData width).1, finished, List.nil_append]
  · rw [(collects.takeData width).1, finished]
    simp [batchesOf]

end Engine

namespace Course

variable {ρ : Type}

/-! ## The rows of a single iteration -/

section Rows

/-- The rows sampled before tick `m`. -/
def rows (x : Course ρ) : Nat → List Sampled
  | 0 => []
  | m + 1 => x.rows m ++ if (x.tick m).sampled then
      [(x.state m).1.sampledBy (x.reader m).source (x.time m) (x.state m).2] else []

variable {c : Configuration} {made : Engine} {capacity : Nat} {quota : Option Nat} {x : Course ρ}
  {m : Nat}

theorem gathered_succ (single : c.mode ≠ .repetitive) (width : 0 < c.tracked.length)
    (planned : ∀ q ∈ quota, 0 < q)
    (gathered : Engine.Gathered c capacity quota (x.rows m) (x.state m).1) :
    Engine.Gathered c capacity quota (x.rows (m + 1)) (x.state (m + 1)).1 := by
  have iteration := gathered.iteration
  obtain ⟨finished, collects⟩ | ⟨completed, _⟩ := gathered.kept
  · have opening := (x.state m).1.awaitStart_opening (x.reader m).source (x.time m) (x.state m).2
    obtain ⟨opened, same⟩ := collects.opening planned opening
    have outcome := opened.advance width
      ((x.state m).1.tick_advance (x.reader m).source (x.time m) (x.state m).2)
      (s := (x.state m).1.sampledBy (x.reader m).source (x.time m) (x.state m).2) opening.iteration.symm rfl
      fun sampled values next read => Engine.sampledBy_read collects.configured sampled read
    rw [← opening.endsIteration, same, finished, opening.iteration, iteration] at outcome
    have next : (x.state (m + 1)).1.iteration = 0 := by
      rcases (x.state m).1.iteration_tick (x.reader m).source (x.time m) (x.state m).2 with same | ⟨again, _⟩
      · exact same.trans iteration
      · exact absurd (collects.configured ▸ again) single
    split at outcome
    next ends =>
      obtain ⟨proper, after, batches⟩ := outcome
      -- without another iteration, the run is over
      have completed : (x.state (m + 1)).1.phase = .completed := by
        have ends : (x.state m).1.endsIteration (x.state (m + 1)).1 = true := ends
        rw [Engine.endsIteration, next, iteration] at ends
        simp only [bne_self_eq_false, Bool.false_or, Bool.and_eq_true, beq_iff_eq] at ends
        exact ends.1
      exact ⟨next, proper, .inr ⟨completed, batches, after⟩⟩
    next =>
      obtain ⟨after, batches⟩ := outcome
      exact ⟨next, next ▸ after.proper, .inl ⟨batches, after⟩⟩
  · have rows : x.rows (m + 1) = x.rows m := by
      rw [Course.rows, (still_of_completed completed (Nat.le_refl m)).1]
      exact List.append_nil _
    rwa [rows, (still_of_completed completed (Nat.le_succ m)).2]

theorem gathered (accepted : Engine.new? c = .ok made) (armed : made.arm = .ok x.engine)
    (single : c.mode ≠ .repetitive) :
    ∃ capacity quota, Engine.Sized c capacity quota ∧
      ∀ m, Engine.Gathered c capacity quota (x.rows m) (x.state m).1 := by
  obtain ⟨width, _⟩ := Engine.new?_eq_ok accepted
  obtain ⟨iteration, finished, capacity, quota, sized, collects⟩ := Engine.Collects.armed accepted armed
  refine ⟨capacity, quota, sized, fun m => ?_⟩
  induction m with
  | zero => exact ⟨iteration, .nil .., .inl ⟨finished, collects⟩⟩
  | succ m ih => exact gathered_succ single width sized.planned ih

end Rows

/-! ## A history of the registers -/

/-- An engine that is ticked once per period, beginning at some time. What a read gives depends on the tick
and the address alone. -/
def ofHistory (e : Engine) (begin : Nat) (value : Nat → Address → Int) : Course Unit where
  engine := e
  source := ()
  time i := begin + i * e.configuration.period.toNat
  reader i := ⟨fun a _ => (value i a, ())⟩

section History

variable {e e' : Engine} {begin f i : Nat} {value : Nat → Address → Int}

theorem readAll_ofHistory (tracked : List Address) :
    ((ofHistory e begin value).reader i).source.readAll tracked () =
      (.ok (tracked.map (value i)), ()) := by
  induction tracked with
  | nil => rfl
  | cons a rest ih =>
    rw [Source.readAll]
    simp only [Reader.source] at ih ⊢
    rw [ih]
    rfl

theorem firstStart_ofHistory (start : e'.configuration.start = e.configuration.start) :
    (ofHistory e' begin value).firstStart = (ofHistory e begin value).firstStart := by
  have starts : (ofHistory e' begin value).StartsAt = (ofHistory e begin value).StartsAt := by
    unfold StartsAt startReading configuration
    simp only [ofHistory, start]
  unfold firstStart
  rw [starts]

theorem firstStop_ofHistory (stop : e'.configuration.stop = e.configuration.stop) :
    (ofHistory e' begin value).firstStop = (ofHistory e begin value).firstStop := by
  have stops : (ofHistory e' begin value).StopsAt = (ofHistory e begin value).StopsAt := by
    unfold StopsAt stopReading configuration
    simp only [ofHistory, stop]
  unfold firstStop
  rw [stops]

theorem sampledBy_ofHistory {c : Configuration} {capacity : Nat} {quota : Option Nat} {rows : List Sampled}
    (configured : e.configuration = c)
    (gathered : Engine.Gathered c capacity quota rows ((ofHistory e begin value).state i).1)
    (sampled : ((ofHistory e begin value).tick i).sampled = true) :
    (((ofHistory e begin value).state i).1.sampledBy ((ofHistory e begin value).reader i).source
      ((ofHistory e begin value).time i) ((ofHistory e begin value).state i).2) =
      ⟨0, begin + i * c.period.toNat, c.tracked.zip ((c.tracked.map (value i)).map .ok)⟩ := by
  have reads := (Engine.sampledBy_read gathered.configured sampled (readAll_ofHistory c.tracked)).2
  subst configured
  exact congrArg₂ (Sampled.mk · _ ·) gathered.iteration reads

end History

/-! ## The two paths -/

/-- Two samplers with the same triggers: one in firmware ends with its sample `n`, one in software after
`n` periods. -/
structure Paths (n : Nat) (x y : Course ρ) : Prop where
  waits : x.Waits 0 0 0 (x.state 0).1 ∧ y.Waits 0 0 0 (y.state 0).1
  single : x.configuration.mode ≠ .repetitive ∧ y.configuration.mode ≠ .repetitive
  some : 0 < n
  firmware : x.configuration.software = false
  count : 1 + x.configuration.duration.toNat / x.configuration.period.toNat = n
  software : y.configuration.software = true
  elapsed : ∀ f i, y.ElapsedAt f i ↔ f + n ≤ i
  start : y.firstStart = x.firstStart
  stop : y.firstStop = x.firstStop

namespace Paths

variable {n f : Nat} {x y : Course ρ}

theorem ending_firmware (paths : Paths n x y) (f : Nat) :
    x.ending f = min (x.firstStop f) (f + n - 1 : Nat) := by
  have elapsed : x.firstElapsed f = ⊤ :=
    firstFrom_never fun i past => by simp [ElapsedAt, paths.firmware] at past
  rw [ending, elapsed, firstFull, paths.firmware, paths.count]
  simp

theorem ending_software (paths : Paths n x y) (f : Nat) :
    y.ending f = min (x.firstStop f) (f + n : Nat) := by
  have elapsed : y.firstElapsed f = (f + n : Nat) := by
    rw [firstElapsed_eq, show y.ElapsedAt f = (f + n ≤ ·) from funext fun i => propext (paths.elapsed f i),
      firstFrom_ge (Nat.le_add_right ..)]
  rw [ending, elapsed, firstFull, paths.software, paths.stop]
  simp [min_comm]

theorem sampled_eq (paths : Paths n x y) (i : Nat) : (y.tick i).sampled = (x.tick i).sampled := by
  have going : ∀ f, ¬x.ElapsedAt f i := fun f past => by simp [ElapsedAt, paths.firmware] at past
  have some := paths.some
  rw [Bool.eq_iff_iff, paths.waits.1.sampled_iff paths.single.1 (Nat.zero_le i),
    paths.waits.2.sampled_iff paths.single.2 (Nat.zero_le i), paths.start]
  simp only [paths.ending_firmware, paths.ending_software, paths.elapsed, le_min_iff, Nat.cast_le, going,
    not_false_eq_true, and_true]
  -- the software samples up to the tick before the one at which its duration is over
  have last : ∀ f, (i ≤ f + n ∧ ¬f + n ≤ i) ↔ i ≤ f + n - 1 := fun f => by omega
  simp only [and_assoc, last]

/-- Either both are completed or none is, the one in software at most one tick later. -/
theorem completed_eq (paths : Paths n x y) :
    (∀ i, (x.tick i).engine.phase ≠ .completed ∧ (y.tick i).engine.phase ≠ .completed) ∨
      ∃ a b, (∀ i, (x.tick i).engine.phase = .completed ↔ a ≤ i) ∧
        (∀ i, (y.tick i).engine.phase = .completed ↔ b ≤ i) ∧ (b = a ∨ b = a + 1) := by
  have some := paths.some
  cases start : x.firstStart 0 with
  | top =>
    have start' := (congrFun paths.start 0).trans start
    left
    intro i
    rw [ne_eq, ne_eq, paths.waits.1.completed_iff paths.single.1 (Nat.zero_le i),
      paths.waits.2.completed_iff paths.single.2 (Nat.zero_le i), start, start']
    simp
  | coe f =>
    have start' := (congrFun paths.start 0).trans start
    have ended : ∀ {a : Nat}, x.ending f = a → ∀ i, (x.tick i).engine.phase = .completed ↔ a ≤ i :=
      fun ended i => paths.waits.1.completed_iff_le paths.single.1 start ended (Nat.zero_le i)
    have ended' : ∀ {b : Nat}, y.ending f = b → ∀ i, (y.tick i).engine.phase = .completed ↔ b ≤ i :=
      fun ended i => paths.waits.2.completed_iff_le paths.single.2 start' ended (Nat.zero_le i)
    rw [paths.ending_firmware] at ended
    rw [paths.ending_software] at ended'
    right
    -- the stop condition ends both at the same tick, if it comes first
    by_cases stop : x.firstStop f ≤ (f + n - 1 : Nat)
    · obtain ⟨h, stopped, early⟩ := ENat.le_natCast_iff.1 stop
      have later : x.firstStop f ≤ (f + n : Nat) := by
        rw [stopped, Nat.cast_le]
        omega
      exact ⟨h, h, ended ((min_eq_left stop).trans stopped), ended' ((min_eq_left later).trans stopped),
        .inl rfl⟩
    · have stop := not_le.1 stop
      have later : ((f + n : Nat) : ℕ∞) ≤ x.firstStop f := by
        have next := Order.add_one_le_of_lt stop
        rwa [← Nat.cast_succ, show (f + n - 1).succ = f + n by omega] at next
      exact ⟨f + n - 1, f + n, ended (min_eq_right stop.le), ended' (min_eq_right later),
        .inr (by omega)⟩

end Paths

section Agreement

variable {c : Configuration} {made made' e e' : Engine}

theorem paths_of_history (valid : c.validate = .ok ()) (normal : c.mode = .normal)
    (firmware : c.software = false) (accepted : Engine.new? c = .ok made) (armed : made.arm = .ok e)
    (accepted' : Engine.new? c.inSoftware = .ok made') (armed' : made'.arm = .ok e') (begin : Nat)
    (value : Nat → Address → Int) :
    Paths (1 + c.duration.toNat / c.period.toNat) (ofHistory e begin value) (ofHistory e' begin value) := by
  have configured : e.configuration = c :=
    configuration_of_armed (x := ofHistory e begin value) accepted armed
  have configured' : e'.configuration = c.inSoftware :=
    configuration_of_armed (x := ofHistory e' begin value) accepted' armed'
  refine ⟨⟨Begins.armed.waits accepted armed, Begins.armed.waits accepted' armed'⟩, ⟨?_, ?_⟩,
    Nat.add_pos_left Nat.one_pos _, ?_, ?_, ?_, ?_, ?_, ?_⟩
  · rw [configuration, ofHistory, configured, normal]
    decide
  · rw [configuration, ofHistory, configured', c.mode_inSoftware, normal]
    decide
  · rw [configuration, ofHistory, configured, firmware]
  · rw [configuration, ofHistory, configured]
  · rw [configuration, ofHistory, configured', c.software_inSoftware]
  · intro f i
    have period := Configuration.period_pos valid
    have some := Nat.mul_pos (Nat.add_pos_left Nat.one_pos (c.duration.toNat / c.period.toNat)) period
    rw [ElapsedAt, configuration]
    simp only [ofHistory]
    rw [configured', Configuration.duration_inSoftware valid firmware,
      and_iff_right c.software_inSoftware, and_iff_right some, c.period_inSoftware, Nat.add_assoc,
      Nat.add_le_add_iff_left, ← Nat.add_mul, Nat.mul_le_mul_right_iff period]
  · exact firstStart_ofHistory (by rw [configured, configured', c.start_inSoftware])
  · exact firstStop_ofHistory (by rw [configured, configured', c.stop_inSoftware])

theorem Paths.rows_eq {n begin capacity capacity' : Nat} {quota quota' : Option Nat}
    {value : Nat → Address → Int}
    (paths : Paths n (ofHistory e begin value) (ofHistory e' begin value))
    (configured : e.configuration = c) (configured' : e'.configuration = c.inSoftware)
    (gathered : ∀ m, Engine.Gathered c capacity quota ((ofHistory e begin value).rows m)
      ((ofHistory e begin value).state m).1)
    (gathered' : ∀ m, Engine.Gathered c.inSoftware capacity' quota' ((ofHistory e' begin value).rows m)
      ((ofHistory e' begin value).state m).1) (m : Nat) :
    (ofHistory e' begin value).rows m = (ofHistory e begin value).rows m := by
  induction m with
  | zero => rfl
  | succ m ih =>
    rw [Course.rows, Course.rows, ih, paths.sampled_eq]
    by_cases sampled : ((ofHistory e begin value).tick m).sampled = true
    · have sampled' := (paths.sampled_eq m).trans sampled
      rw [if_pos sampled, if_pos sampled, sampledBy_ofHistory configured (gathered m) sampled,
        sampledBy_ofHistory configured' (gathered' m) sampled', c.period_inSoftware,
        c.tracked_inSoftware]
    · rw [if_neg sampled, if_neg sampled]

/-- **The firmware and the software path agree.** Give a firmware sampler for a single iteration to the
software, with one period for each of its samples. Whatever the triggers are and whatever the registers
hold, the same ticks sample, and at any time the same data can be taken. Either both are completed in the
end or none is: the firmware at the same tick as the software or one tick earlier. -/
theorem paths_agree (valid : c.validate = .ok ()) (normal : c.mode = .normal)
    (firmware : c.software = false) :
    c.inSoftware.duration.toNat = (1 + c.duration.toNat / c.period.toNat) * c.period.toNat ∧
      c.inSoftware.validate = .ok () ∧
      ∃ made e made' e', Engine.new? c = .ok made ∧ made.arm = .ok e ∧
        Engine.new? c.inSoftware = .ok made' ∧ made'.arm = .ok e' ∧
        ∀ (begin : Nat) (value : Nat → Address → Int),
          let x := ofHistory e begin value
          let y := ofHistory e' begin value
          (∀ i, (x.tick i).sampled = (y.tick i).sampled) ∧
          (∀ m, (x.state m).1.takeData.1 = (y.state m).1.takeData.1) ∧
          ((∀ i, (x.tick i).engine.phase ≠ .completed ∧ (y.tick i).engine.phase ≠ .completed) ∨
            ∃ a b, (∀ i, (x.tick i).engine.phase = .completed ↔ a ≤ i) ∧
              (∀ i, (y.tick i).engine.phase = .completed ↔ b ≤ i) ∧ (b = a ∨ b = a + 1)) := by
  have valid' := Configuration.validate_inSoftware valid firmware normal
  obtain ⟨made, e, accepted, armed⟩ := Engine.exists_armed valid
  obtain ⟨made', e', accepted', armed'⟩ := Engine.exists_armed valid'
  refine ⟨Configuration.duration_inSoftware valid firmware, valid', made, e, made', e', accepted, armed,
    accepted', armed', ?_⟩
  intro begin value x y
  have configured : e.configuration = c := configuration_of_armed (x := x) accepted armed
  have configured' : e'.configuration = c.inSoftware := configuration_of_armed (x := y) accepted' armed'
  have paths : Paths _ x y := paths_of_history valid normal firmware accepted armed accepted' armed' begin value
  refine ⟨fun i => (paths.sampled_eq i).symm, ?_, paths.completed_eq⟩
  have single : c.mode ≠ .repetitive := by simp [normal]
  obtain ⟨capacity, quota, sized, gathered⟩ := gathered (x := x) accepted armed single
  obtain ⟨capacity', quota', sized', gathered'⟩ := Course.gathered (x := y) accepted' armed' single
  obtain ⟨rfl, room⟩ := sized.firmware firmware
  obtain ⟨rfl, rfl⟩ := sized'.software c.software_inSoftware
  intro m
  have handed := (gathered m).takeData (Engine.new?_eq_ok accepted).1
  have handed' := (gathered' m).takeData (Engine.new?_eq_ok accepted').1
  have rows : y.rows m = x.rows m := paths.rows_eq configured configured' gathered gathered' m
  have few := (gathered m).proper.bounded _ rfl
  have less := Configuration.samples_le valid firmware
  rw [handed, handed', rows]
  exact Engine.batchesOf_eq_of_fits (few.trans room) (by omega)

end Agreement

/-- The sampler of three samples, in firmware and in software, ticked at a time other than 0. -/
theorem paths_of_threeSamples :
    let c := Engine.threeSamples
    let value : Nat → Address → Int := fun i _ => 7 * i
    let x := ofHistory { Engine.prepare c 254 (some 3) with lifecycle := .ready } 5 value
    let y := ofHistory { Engine.prepare c.inSoftware 4096 none with lifecycle := .ready } 5 value
    c.validate = .ok () ∧ c.mode = .normal ∧ c.software = false ∧
      (∀ i, (x.tick i).sampled = (y.tick i).sampled) ∧
      (∀ m, (x.state m).1.takeData.1 = (y.state m).1.takeData.1) ∧
      (x.tick 2).engine.phase = .completed ∧ (y.tick 2).engine.phase = .running ∧
      (y.tick 3).engine.phase = .completed := by
  intro c value x y
  have valid : Engine.threeSamples.validate = .ok () := rfl
  obtain ⟨_, _, made, e, made', e', accepted, armed, accepted', armed', agree⟩ :=
    paths_agree valid rfl rfl
  obtain rfl : Engine.prepare c 254 (some 3) = made := Except.ok.inj accepted
  obtain rfl : Engine.prepare c.inSoftware 4096 none = made' := Except.ok.inj accepted'
  obtain rfl := Except.ok.inj armed
  obtain rfl := Except.ok.inj armed'
  obtain ⟨sampled, data, _⟩ := agree 5 value
  exact ⟨valid, rfl, rfl, sampled, data, by decide, by decide, by decide⟩

end Course

end TriggeredSampler
