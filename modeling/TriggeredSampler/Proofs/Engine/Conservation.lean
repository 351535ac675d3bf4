import TriggeredSampler.Proofs.Configuration.Validity
import TriggeredSampler.Proofs.Engine.Segments

/-! # No row is lost, repeated or moved

The batches that an engine hands out, cut into rows again, are the rows that its ticks sampled.

* `iteration_samples` — a run samples for one iteration after the other.
* `exists_armed` — every valid configuration has an engine, and the engine can be armed.
* `Proper.rowsIn_batchesOf` — the batch of a segment holds its last rows.
* `handedOut_conserves_samples` — the rows handed out are the rows sampled.
-/

namespace TriggeredSampler.Engine

variable {ρ : Type} {c : Configuration} {capacity : Nat} {quota : Option Nat} {e : Engine}
  {segment : List Sampled}

/-! ## Iterations -/

/-- Only a repetitive sampler counts iterations, one for each that ends. -/
theorem iteration_tick (source : Source ρ) (now : Nat) (e : Engine) (r : ρ) :
    (e.tick source now r).engine.iteration = e.iteration ∨
      e.configuration.mode = .repetitive ∧ (e.tick source now r).engine.iteration = e.iteration + 1 := by
  have opening := awaitStart_opening source now e r
  have same := opening.iteration
  have closed : ∀ {stored : Engine}, stored.configuration = (e.awaitStart source now r).1.configuration →
      stored.iteration = (e.awaitStart source now r).1.iteration →
      stored.closeIteration.iteration = e.iteration ∨
        e.configuration.mode = .repetitive ∧ stored.closeIteration.iteration = e.iteration + 1 := by
    intro stored configuration kept
    rw [iteration_closeIteration, configuration, opening.configuration, kept, same]
    split
    next again => exact .inr ⟨again, rfl⟩
    next => exact .inl rfl
  have advance := tick_advance source now e r
  generalize (e.tick source now r).engine = done, (e.tick source now r).sampled = sampled at advance ⊢
  cases advance <;>
    first
      | exact .inl same
      | exact closed rfl rfl

theorem iteration_le_tick (source : Source ρ) (now : Nat) (e : Engine) (r : ρ) :
    e.iteration ≤ (e.tick source now r).engine.iteration := by
  rcases e.iteration_tick source now r with same | ⟨_, next⟩ <;> omega

theorem iteration_le_after (e : Engine) (r : ρ) (call : Call ρ) :
    e.iteration ≤ (e.after r call).1.iteration := by
  cases call with
  | arm =>
    simp only [after, Engine.arm]
    rcases e.lifecycle.arm with _ | _ <;> exact Nat.le_refl _
  | tick now source => exact iteration_le_tick source now e r
  | cancel => exact Nat.le_refl _
  | takeData =>
    simp only [after, Engine.takeData]
    rw [flush_eq]

/-- A run samples for one iteration after the other. -/
theorem iteration_samples (e : Engine) (r : ρ) (calls : List (Call ρ)) :
    (∀ s ∈ e.samples r calls, e.iteration ≤ s.iteration) ∧
      ((e.samples r calls).map Sampled.iteration).Pairwise (· ≤ ·) := by
  induction calls generalizing e r with
  | nil => simp [samples, events, samplesOf]
  | cons call rest ih =>
    obtain ⟨later, ordered⟩ := ih (e.after r call).1 (e.after r call).2
    -- a call stores at most one row, in the iteration that it finds
    have step : samplesOf (e.eventsOf r call) = [] ∨
        ∃ s, samplesOf (e.eventsOf r call) = [s] ∧ s.iteration = e.iteration := by
      cases call with
      | tick now source =>
        simp only [eventsOf]
        by_cases sampled : (e.tick source now r).sampled = true <;>
          by_cases ends : e.endsIteration (e.tick source now r).engine = true <;>
            simp [sampled, ends, samplesOf, sampledBy]
      | _ => exact .inl rfl
    have after := iteration_le_after e r call
    have samples : e.samples r (call :: rest) = samplesOf (e.eventsOf r call) ++
        (e.after r call).1.samples (e.after r call).2 rest := by
      rw [Engine.samples, events, samplesOf_append, Engine.samples]
    rw [samples]
    rcases step with none | ⟨s, one, same⟩
    · rw [none, List.nil_append]
      exact ⟨fun s member => after.trans (later s member), ordered⟩
    · rw [one, List.singleton_append]
      refine ⟨?_, ?_⟩
      · rintro t (_ | ⟨_, member⟩)
        · exact Nat.le_of_eq same.symm
        · exact after.trans (later t member)
      · rw [List.map_cons, List.pairwise_cons]
        refine ⟨?_, ordered⟩
        intro iteration member
        obtain ⟨t, within, rfl⟩ := List.mem_map.1 member
        rw [same]
        exact after.trans (later t within)

/-! ## Batches -/

/-- The rows of a batch, each with the iteration of the batch. -/
def rowsIn (width : Nat) (b : Batch) : List (Nat × List Reading) :=
  (Batch.cut width (b.readings.length / width) b.readings).map (Prod.mk b.iteration)

/-- The rows of sampled data, each with the iteration it was sampled in. -/
def rowIn (s : Sampled) : Nat × List Reading := (s.iteration, s.row)

theorem cut_flatten {width : Nat} {rows : List (List Reading)}
    (shape : ∀ row ∈ rows, row.length = width) : Batch.cut width rows.length rows.flatten = rows := by
  induction rows with
  | nil => rfl
  | cons row rest ih =>
    obtain ⟨first, others⟩ := List.forall_mem_cons.1 shape
    rw [List.length_cons, Batch.cut, List.flatten_cons, List.take_left' first, List.drop_left' first,
      ih others]

theorem length_flatten_of_width {width : Nat} {rows : List (List Reading)}
    (shape : ∀ row ∈ rows, row.length = width) : rows.flatten.length = rows.length * width := by
  rw [List.length_flatten, List.map_congr_left shape]
  simp

/-- The batch of a segment holds its last rows, with their iteration. -/
theorem Proper.rowsIn_batchesOf (width : 0 < c.tracked.length) {iteration : Nat}
    (proper : Proper c quota iteration segment) (capacity : Nat) :
    (batchesOf capacity segment).flatMap (rowsIn c.tracked.length) =
      (segment.rtake capacity).map rowIn := by
  have kept := proper.rtake capacity
  unfold batchesOf
  split
  next none => simp [none]
  next s rest rows =>
    rw [rows] at kept ⊢
    have shape := kept.length_row
    -- cutting the batch undoes putting its rows together
    rw [List.flatMap_singleton, rowsIn, length_flatten_of_width shape, Nat.mul_div_cancel _ width,
      cut_flatten shape, List.map_map]
    apply List.map_congr_left
    intro t listed
    -- the batch is labelled by its first row, and all rows are of one iteration
    have label : t.iteration = s.iteration := by
      rw [kept.labelled t listed, kept.labelled s List.mem_cons_self]
    rw [rowIn, label]
    rfl

/-- A batch holds at least one row, and only whole rows. -/
theorem Proper.whole (width : 0 < c.tracked.length) {iteration : Nat}
    (proper : Proper c quota iteration segment) {b : Batch} (member : b ∈ batchesOf capacity segment) :
    b.readings ≠ [] ∧ c.tracked.length ∣ b.readings.length := by
  have kept := proper.rtake capacity
  unfold batchesOf at member
  split at member
  next => simp at member
  next s rest rows =>
    rw [rows] at kept
    have count := length_flatten_of_width kept.length_row
    rw [List.mem_singleton.1 member]
    refine ⟨?_, _, by rw [count, Nat.mul_comm]⟩
    apply List.ne_nil_of_length_pos
    rw [count, List.length_map, List.length_cons]
    exact Nat.mul_pos (Nat.succ_pos _) width

/-- The label of a batch is the iteration of one of its rows. -/
theorem iterations_batchesOf (capacity : Nat) (segment : List Sampled) :
    ((batchesOf capacity segment).map Batch.iteration).Sublist (segment.map Sampled.iteration) := by
  unfold batchesOf
  split
  next => simp
  next s rest kept =>
    -- the batch is labelled by a row of the segment
    have kept : [s].Sublist segment :=
      (List.Sublist.cons_cons s (List.nil_sublist rest)).trans (kept ▸ List.drop_sublist _ _)
    exact kept.map Sampled.iteration

/-! ## Accepted configurations -/

/-- A software sampler has rings for 4096 rows, a firmware sampler has room for its quota. -/
structure Sized (c : Configuration) (capacity : Nat) (quota : Option Nat) : Prop where
  software : c.software = true → capacity = 4096 ∧ quota = none
  firmware : c.software = false → quota = some (1 + c.duration.toNat / c.period.toNat) ∧
    1 + c.duration.toNat / c.period.toNat ≤ capacity

theorem Sized.planned (sized : Sized c capacity quota) : ∀ q ∈ quota, 0 < q := by
  intro q member
  cases software : c.software with
  | true =>
    rw [(sized.software software).2] at member
    cases member
  | false =>
    rw [(sized.firmware software).1] at member
    cases member
    exact Nat.add_pos_left Nat.one_pos _

theorem Sized.capacity_pos (sized : Sized c capacity quota) : 0 < capacity := by
  cases software : c.software with
  | true =>
    rw [(sized.software software).1]
    decide
  | false => exact (Nat.add_pos_left Nat.one_pos _).trans_le (sized.firmware software).2

/-- What the engine of an accepted configuration is made of. -/
theorem new?_eq_ok (accepted : new? c = .ok e) :
    0 < c.tracked.length ∧ ∃ capacity quota, e = prepare c capacity quota ∧ Sized c capacity quota := by
  unfold new? at accepted
  cases valid : c.validate with
  | error _ => simp [valid] at accepted
  | ok _ =>
    obtain ⟨_, width, _⟩ := Configuration.validate_eq_ok_iff.1 valid
    refine ⟨width, ?_⟩
    rw [valid] at accepted
    cases software : c.software with
    | true =>
      rw [Configuration.sampleCount_of_software software] at accepted
      cases accepted
      exact ⟨softwareCapacity, none, rfl, fun _ => ⟨rfl, rfl⟩, by simp [software]⟩
    | false =>
      -- the plan of a valid configuration has room for the samples
      obtain ⟨plan, planned⟩ := Configuration.exists_plan valid software
      rw [Configuration.sampleCount_of_firmware valid software] at accepted
      simp only [planned] at accepted
      cases accepted
      have fits := (Plan.samples_le_capacity planned).2
      obtain ⟨_, _, _, rfl⟩ := Plan.make?_eq_ok_iff.1 planned
      exact ⟨_, _, rfl, by simp [software], fun _ => ⟨rfl, fits⟩⟩

/-- Nothing keeps a valid configuration from being started. -/
theorem exists_armed (valid : c.validate = .ok ()) :
    ∃ made e, new? c = .ok made ∧ made.arm = .ok e := by
  -- an engine that was just made is configured, whatever its rings are
  have arms : ∀ capacity quota, ∃ e, (prepare c capacity quota).arm = .ok e := fun _ _ => ⟨_, rfl⟩
  rw [new?, valid]
  cases software : c.software with
  | true =>
    obtain ⟨e, armed⟩ := arms softwareCapacity none
    rw [Configuration.sampleCount_of_software software]
    exact ⟨_, e, rfl, armed⟩
  | false =>
    obtain ⟨plan, planned⟩ := Configuration.exists_plan valid software
    obtain ⟨e, armed⟩ := arms plan.capacityPerAddress (some plan.samplesPerAddress)
    rw [Configuration.sampleCount_of_firmware valid software]
    simp only [planned]
    exact ⟨_, e, rfl, armed⟩

theorem Collects.prepare (c : Configuration) (capacity : Nat) (quota : Option Nat) :
    Collects c capacity quota [] (prepare c capacity quota) := by
  refine ⟨⟨.nil .., rfl, rfl, ?_⟩, .inl rfl, ?_⟩
  · have columns : (Engine.prepare c capacity quota).columns =
        List.replicate c.tracked.length (Ring.empty capacity) := by
      simp [Engine.prepare, List.map_const']
    rw [columns]
    exact .empty ..
  · intro q _ running
    cases running

/-- The batches handed out are those of the segments, in order. -/
theorem handedOut_segments (accepted : new? c = .ok e) (r : ρ) (calls : List (Call ρ)) :
    ∃ capacity quota, (if c.software then capacity = 4096 ∧ quota = none
        else ∃ q, quota = some q ∧ q ≤ capacity) ∧
      e.handedOut r calls = (e.segments r calls).flatMap (batchesOf capacity) ∧
      ∀ rows ∈ e.segments r calls, ∃ iteration, Proper c quota iteration rows := by
  obtain ⟨width, capacity, quota, rfl, sized⟩ := new?_eq_ok accepted
  refine ⟨capacity, quota, ?_, (Collects.prepare c capacity quota).run width sized.planned r calls⟩
  split
  next software => exact sized.software software
  next firmware => exact ⟨_, sized.firmware (by simpa using firmware)⟩

/-- The rows handed out are the last rows of each segment, as many as the rings hold. -/
theorem rowsIn_handedOut (width : 0 < c.tracked.length) {segments : List (List Sampled)}
    (proper : ∀ rows ∈ segments, ∃ iteration, Proper c quota iteration rows) (capacity : Nat) :
    (segments.flatMap (batchesOf capacity)).flatMap (rowsIn c.tracked.length) =
      (segments.flatMap (List.rtake · capacity)).map rowIn := by
  induction segments with
  | nil => rfl
  | cons rows rest ih =>
    obtain ⟨⟨_, first⟩, others⟩ := List.forall_mem_cons.1 proper
    rw [List.flatMap_cons, List.flatMap_append, first.rowsIn_batchesOf width, ih others,
      List.flatMap_cons, List.map_append]

/-- **Conservation of samples.** Whatever calls are made, the rows handed out are the rows that the ticks
sampled, once each, in order, with their values, their times and their iteration. A firmware sampler
loses none. A software sampler loses the oldest rows of a segment of more than 4096. -/
theorem handedOut_conserves_samples (accepted : new? c = .ok e) (r : ρ) (calls : List (Call ρ)) :
    (∀ s ∈ e.samples r calls, ∃ values : List Int, values.length = c.tracked.length ∧
        s.reads = c.tracked.zip (values.map .ok) ∧
        s.row = values.map fun value => ⟨value, s.time⟩) ∧
      (c.software = false → (e.handedOut r calls).flatMap (rowsIn c.tracked.length) =
        (e.samples r calls).map rowIn) ∧
      (c.software = true → (e.handedOut r calls).flatMap (rowsIn c.tracked.length) =
        ((e.segments r calls).flatMap (List.rtake · 4096)).map rowIn) ∧
      (∀ b ∈ e.handedOut r calls, b.readings ≠ [] ∧ c.tracked.length ∣ b.readings.length) ∧
      ((e.handedOut r calls).map Batch.iteration).Pairwise (· ≤ ·) := by
  obtain ⟨width, _⟩ := new?_eq_ok accepted
  obtain ⟨capacity, quota, sized, handed, proper⟩ := handedOut_segments accepted r calls
  have rows := rowsIn_handedOut width proper capacity
  rw [← handed] at rows
  refine ⟨?_, ?_, ?_, ?_, ?_⟩
  · intro s member
    rw [← flatten_segments] at member
    obtain ⟨segment, listed, within⟩ := List.mem_flatten.1 member
    obtain ⟨_, segment⟩ := proper segment listed
    obtain ⟨values, count, read⟩ := segment.read s within
    exact ⟨values, count, read, Sampled.row_eq count read⟩
  · intro firmware
    rw [if_neg (by simp [firmware])] at sized
    obtain ⟨q, limited, fits⟩ := sized
    -- a segment of a firmware sampler never outgrows the rings
    have whole : ∀ segment ∈ e.segments r calls, segment.rtake capacity = segment := by
      intro segment listed
      obtain ⟨_, segment⟩ := proper segment listed
      exact rtake_of_length_le ((segment.bounded q limited).trans fits)
    rw [rows, List.flatMap_congr whole, List.flatMap_id', flatten_segments]
  · intro software
    rw [if_pos software] at sized
    rw [rows, sized.1]
  · intro b member
    rw [handed] at member
    obtain ⟨segment, listed, within⟩ := List.mem_flatMap.1 member
    obtain ⟨_, segment⟩ := proper segment listed
    exact segment.whole width within
  · refine (iteration_samples e r calls).2.sublist ?_
    rw [handed, ← flatten_segments]
    generalize e.segments r calls = segments
    induction segments with
    | nil => simp
    | cons segment rest ih =>
      rw [List.flatMap_cons, List.map_append, List.flatten_cons, List.map_append]
      exact (iterations_batchesOf capacity segment).append ih

/-- A firmware sampler of one address with three samples in an iteration. -/
def threeSamples : Configuration := { Configuration.ofMode .normal with
  period := 10, duration := 20, start := .immediate, tracked := [⟨0x2000, 0⟩] }

/-- The three samples, read out after the second of them. -/
theorem handedOut_threeSamples :
    let counter : Source Int := fun _ r => (.ok r, r + 1)
    let calls : List (Call Int) := [.arm, .tick 0 counter, .tick 10 counter, .takeData, .tick 20 counter]
    let e := prepare threeSamples 254 (some 3)
    new? threeSamples = .ok e ∧
      e.handedOut 7 calls = [⟨0, [⟨7, 0⟩, ⟨8, 10⟩]⟩, ⟨0, [⟨9, 20⟩]⟩] ∧
      (e.handedOut 7 calls).flatMap (rowsIn threeSamples.tracked.length) =
        (e.samples 7 calls).map rowIn := by
  intro counter calls e
  have accepted : new? threeSamples = .ok e := rfl
  exact ⟨accepted, by decide, (handedOut_conserves_samples accepted 7 calls).2.1 rfl⟩

end TriggeredSampler.Engine
