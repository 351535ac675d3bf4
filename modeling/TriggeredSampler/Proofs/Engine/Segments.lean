import TriggeredSampler.Proofs.Engine.Columns
import TriggeredSampler.Proofs.Engine.Runs
import TriggeredSampler.Proofs.Engine.Shape

/-! # The segment in the rings

The rows stored since the rings were emptied are a segment. `Collects` says that the rings hold the
segment under way; every call keeps it, and emptying the rings turns the segment into a batch.

* `Collects.tick`, `Collects.call` — what a tick and any other call do to the segment.
* `Collects.run` — the batches handed out are those of the segments, in order.
-/

namespace TriggeredSampler.Engine

variable {ρ : Type} {c : Configuration} {capacity : Nat} {quota : Option Nat} {e : Engine}
  {segment : List Sampled}

/-- The batch of a segment: the last rows, as many as the rings hold. -/
def batchesOf (capacity : Nat) (segment : List Sampled) : List Batch :=
  match segment.rtake capacity with
  | [] => []
  | s :: rest => [⟨s.iteration, ((s :: rest).map Sampled.row).flatten⟩]

/-- The rows of one iteration, no more than its quota, each read without a fault. -/
structure Proper (c : Configuration) (quota : Option Nat) (iteration : Nat) (segment : List Sampled) :
    Prop where
  read : ∀ s ∈ segment, ∃ values : List Int,
    values.length = c.tracked.length ∧ s.reads = c.tracked.zip (values.map .ok)
  labelled : ∀ s ∈ segment, s.iteration = iteration
  bounded : ∀ q ∈ quota, segment.length ≤ q

theorem Proper.nil (c : Configuration) (quota : Option Nat) (iteration : Nat) :
    Proper c quota iteration [] :=
  ⟨by simp, by simp, by simp⟩

theorem Proper.length_row {iteration : Nat} (proper : Proper c quota iteration segment) :
    ∀ row ∈ segment.map Sampled.row, row.length = c.tracked.length := by
  intro row member
  obtain ⟨s, within, rfl⟩ := List.mem_map.1 member
  obtain ⟨values, count, read⟩ := proper.read s within
  rw [Sampled.row_eq count read, List.length_map, count]

/-- The last rows of a segment. -/
theorem Proper.rtake {iteration : Nat} (proper : Proper c quota iteration segment) (count : Nat) :
    Proper c quota iteration (segment.rtake count) := by
  have within : ∀ s ∈ segment.rtake count, s ∈ segment := fun s => List.mem_of_mem_drop
  refine ⟨fun s member => proper.read s (within s member),
    fun s member => proper.labelled s (within s member), ?_⟩
  intro q member
  have fits := proper.bounded q member
  rw [List.rtake, List.length_drop]
  omega

/-- The rings of an engine hold a segment of the current iteration. -/
structure Stores (c : Configuration) (capacity : Nat) (quota : Option Nat) (segment : List Sampled)
    (e : Engine) : Prop where
  proper : Proper c quota e.iteration segment
  configured : e.configuration = c
  limited : e.quota = quota
  columns : Hold c.tracked.length capacity (segment.map Sampled.row) e.columns

/-- An engine between two calls. Only a run that is under way or broken off leaves a segment open; one
that is under way has room for another row. -/
structure Collects (c : Configuration) (capacity : Nat) (quota : Option Nat) (segment : List Sampled)
    (e : Engine) : Prop extends Stores c capacity quota segment e where
  begun : segment = [] ∨ e.phase = .running ∨ e.phase.isTerminal = true
  room : ∀ q ∈ quota, e.phase = .running → segment.length ≤ e.taken ∧ e.taken < q

/-! ## Emptying the rings -/

theorem flush_eq (e : Engine) :
    e.flush =
      { e with columns := e.columns.map fun ring => ring.drain.2, finished := e.flush.finished } := by
  unfold flush
  simp only
  split <;> rfl

@[simp] theorem phase_flush (e : Engine) : e.flush.phase = e.phase := by rw [flush_eq]; rfl

@[simp] theorem taken_flush (e : Engine) : e.flush.taken = e.taken := by rw [flush_eq]

/-- The rings are emptied into the batch of the segment. -/
theorem Stores.finished_flush (width : 0 < c.tracked.length)
    (stores : Stores c capacity quota segment e) :
    e.flush.finished = e.finished ++ batchesOf capacity segment := by
  have last : (segment.map Sampled.row).rtake capacity = (segment.rtake capacity).map Sampled.row := by
    simp [List.rtake]
  -- of the segment the rings hold the last rows
  have kept := stores.proper.rtake capacity
  have shape := kept.length_row
  unfold flush batchesOf
  simp only
  rw [stores.columns.toList, last, height_columnsOf width shape, rowsOf_columnsOf shape]
  cases rows : segment.rtake capacity with
  | nil => simp
  | cons s rest =>
    rw [rows] at kept
    simp [kept.labelled s List.mem_cons_self]

theorem Stores.flush (stores : Stores c capacity quota segment e) :
    Stores c capacity quota [] e.flush := by
  rw [flush_eq]
  exact ⟨.nil .., stores.configured, stores.limited, stores.columns.drain⟩

/-- Closing an iteration empties the rings, and leaves no segment open. -/
theorem Stores.closeIteration (stores : Stores c capacity quota segment e)
    (running : e.phase = .running) : Collects c capacity quota [] e.closeIteration := by
  have phase := phase_closeIteration running
  -- the quota counts for a running engine only
  have still : e.closeIteration.phase ≠ .running := by
    rw [phase]
    split <;> decide
  obtain ⟨_, configuration, limited, columns⟩ := stores.flush
  refine ⟨⟨.nil .., ?_, ?_, ?_⟩, .inl rfl, fun _ _ running => absurd running still⟩ <;>
    unfold Engine.closeIteration <;> simp only <;> split <;> assumption

theorem finished_closeIteration (e : Engine) : e.closeIteration.finished = e.flush.finished := by
  unfold Engine.closeIteration
  simp only
  split <;> rfl

theorem Stores.closes (width : 0 < c.tracked.length) (stores : Stores c capacity quota segment e)
    (running : e.phase = .running) :
    Proper c quota e.iteration segment ∧ Collects c capacity quota [] e.closeIteration ∧
      e.closeIteration.finished = e.finished ++ batchesOf capacity segment := by
  refine ⟨stores.proper, stores.closeIteration running, ?_⟩
  rw [finished_closeIteration, stores.finished_flush width]

/-! ## Storing a row -/

/-- A row read without a fault goes into the rings. -/
theorem Collects.store (collects : Collects c capacity quota segment e) {now : Nat} {s : Sampled}
    {values : List Int} (running : e.phase = .running)
    (count : values.length = c.tracked.length) (read : s.reads = c.tracked.zip (values.map .ok))
    (iteration : s.iteration = e.iteration) (time : s.time = now) :
    Stores c capacity quota (segment ++ [s]) (e.store now values) := by
  refine ⟨⟨?_, ?_, ?_⟩, collects.configured, collects.limited, ?_⟩
  · intro t member
    cases List.mem_append.1 member with
    | inl old => exact collects.proper.read t old
    | inr new =>
      rw [List.mem_singleton.1 new]
      exact ⟨values, count, read⟩
  · intro t member
    cases List.mem_append.1 member with
    | inl old => exact collects.proper.labelled t old
    | inr new =>
      rw [List.mem_singleton.1 new]
      exact iteration
  · intro q member
    obtain ⟨stored, room⟩ := collects.room q member running
    rw [List.length_append, List.length_singleton]
    omega
  -- the values of the row go into the rings one by one
  · have row : s.row = values.map fun value => ⟨value, now⟩ := by rw [Sampled.row_eq count read, time]
    have length : s.row.length = c.tracked.length := by rw [row, List.length_map, count]
    have pushed := collects.columns.push length
    rw [List.map_append, List.map_singleton]
    have columns : (e.store now values).columns =
        List.zipWith (fun ring reading => (ring.push reading).2) e.columns s.row := by
      rw [row, List.zipWith_map_right]
      rfl
    rw [columns]
    exact pushed

/-- The rings do not depend on what the stop trigger has seen. -/
theorem Stores.see (stores : Stores c capacity quota segment e) (seen : Option Int) :
    Stores c capacity quota segment { e with stopSeen := seen } :=
  ⟨stores.proper, stores.configured, stores.limited, stores.columns⟩

/-- A run that breaks off leaves its segment open. -/
theorem Stores.fail (stores : Stores c capacity quota segment e) (going : e.phase.isTerminal = false)
    (fault : DeviceFault) : Collects c capacity quota segment (e.fail fault) := by
  have failed : (e.fail fault).phase = .failed := phase_fail going
  refine ⟨⟨stores.proper, stores.configured, stores.limited, stores.columns⟩, ?_, ?_⟩
  · rw [failed]
    exact .inr (.inr rfl)
  · intro q _ running
    rw [failed] at running
    cases running

/-- A row that leaves room for another one leaves its segment open. -/
theorem Collects.keep (collects : Collects c capacity quota segment e) {now : Nat} {s : Sampled}
    {values : List Int} (running : e.phase = .running)
    (stores : Stores c capacity quota (segment ++ [s]) (e.store now values))
    (room : (e.store now values).quotaReached = false) (seen : Option Int) :
    Collects c capacity quota (segment ++ [s]) { e.store now values with stopSeen := seen } := by
  refine ⟨⟨stores.proper, stores.configured, stores.limited, stores.columns⟩,
    .inr (.inl running), ?_⟩
  intro q member _
  have limited : (e.store now values).quota = some q := stores.limited.trans member
  simp only [quotaReached, limited, decide_eq_false_iff_not, Nat.not_le] at room
  refine ⟨?_, room⟩
  rw [List.length_append, List.length_singleton]
  exact Nat.succ_le_succ (collects.room q member running).1

/-! ## Ticks -/

theorem endsIteration_closeIteration {stored : Engine} (running : stored.phase = .running)
    (same : stored.iteration = e.iteration) (going : e.phase = .running) :
    e.endsIteration stored.closeIteration = true := by
  unfold endsIteration
  rw [iteration_closeIteration, phase_closeIteration running, same, going]
  by_cases again : stored.configuration.mode = .repetitive <;> simp [again]

theorem endsIteration_of_phase_ne {done : Engine} (same : done.iteration = e.iteration)
    (going : done.phase ≠ .completed) : e.endsIteration done = false := by
  simp [endsIteration, same, going]

/-- What the rest of a tick does to the segment, behind the check of the start trigger. -/
theorem Collects.advance (width : 0 < c.tracked.length) (collects : Collects c capacity quota segment e)
    {source : Source ρ} {now : Nat} {r : ρ} {done : Engine} {sampled : Bool}
    (advance : e.Advance source now r done sampled) {s : Sampled} (iteration : s.iteration = e.iteration)
    (time : s.time = now)
    (row : sampled = true → ∀ values next, source.readAll c.tracked r = (.ok values, next) →
      values.length = c.tracked.length ∧ s.reads = c.tracked.zip (values.map .ok)) :
    if e.endsIteration done then
      Proper c quota e.iteration (segment ++ if sampled then [s] else []) ∧
        Collects c capacity quota [] done ∧
        done.finished = e.finished ++ batchesOf capacity (segment ++ if sampled then [s] else [])
    else
      Collects c capacity quota (segment ++ if sampled then [s] else []) done ∧
        done.finished = e.finished := by
  -- a row that was read is stored behind the segment in each of the cases that read one
  have stored : ∀ values next, source.readAll c.tracked r = (.ok values, next) → sampled = true →
      e.phase = .running → Stores c capacity quota (segment ++ [s]) (e.store now values) := by
    intro values next read sampled running
    obtain ⟨count, reads⟩ := row sampled values next read
    exact collects.store running count reads iteration time
  cases advance with
  | idle still =>
    rw [if_neg (by simp [endsIteration])]
    simpa using collects
  | elapsed running _ =>
    rw [if_pos (endsIteration_closeIteration running rfl running)]
    simpa using collects.toStores.closes width running
  | failed running fault =>
    have going := isTerminal_of_running running
    have failed : (e.fail fault).phase ≠ .completed := by rw [phase_fail going]; decide
    have unended : e.endsIteration (e.fail fault) = false := endsIteration_of_phase_ne rfl failed
    rw [if_neg (by simp [unended])]
    refine ⟨?_, rfl⟩
    simpa using collects.toStores.fail going fault
  | full running values next read full =>
    rw [collects.configured] at read
    have ended : e.endsIteration (e.store now values).closeIteration = true :=
      endsIteration_closeIteration running rfl running
    rw [if_pos ended]
    exact (stored values next read rfl running).closes width running
  | stopped running values next read seen =>
    rw [collects.configured] at read
    have ended : e.endsIteration { e.store now values with stopSeen := seen }.closeIteration = true :=
      endsIteration_closeIteration running rfl running
    rw [if_pos ended]
    exact ((stored values next read rfl running).see seen).closes width running
  | stopFailed running values next read room fault =>
    rw [collects.configured] at read
    have going := isTerminal_of_running (e := e.store now values) running
    have failed : ((e.store now values).fail fault).phase ≠ .completed := by
      rw [phase_fail going]
      decide
    have unended : e.endsIteration ((e.store now values).fail fault) = false :=
      endsIteration_of_phase_ne rfl failed
    rw [if_neg (by simp [unended])]
    exact ⟨(stored values next read rfl running).fail going fault, rfl⟩
  | kept running values next read room seen =>
    rw [collects.configured] at read
    have running' : ({ e.store now values with stopSeen := seen } : Engine).phase = .running := running
    have unended : e.endsIteration { e.store now values with stopSeen := seen } = false :=
      endsIteration_of_phase_ne rfl (by rw [running']; decide)
    rw [if_neg (by simp [unended])]
    exact ⟨collects.keep running (stored values next read rfl running) room seen, rfl⟩

/-- The check of the start trigger touches no row: a run that waits has left no segment open. -/
theorem Collects.opening (planned : ∀ q ∈ quota, 0 < q) (collects : Collects c capacity quota segment e)
    {now : Nat} {opened : Engine} (opening : e.Opening now opened) :
    Collects c capacity quota segment opened ∧ opened.finished = e.finished := by
  -- only a running engine has a segment open
  have waits : e.phase = .ready → segment = [] := by
    intro ready
    rcases collects.begun with none | running | ended
    · exact none
    · rw [ready] at running
      cases running
    · rw [ready] at ended
      cases ended
  cases opening with
  | idle _ => exact ⟨collects, rfl⟩
  | failed ready fault => exact ⟨collects.toStores.fail (by rw [ready]; rfl) fault, rfl⟩
  | waiting ready seen =>
    refine ⟨⟨⟨collects.proper, collects.configured, collects.limited, collects.columns⟩, ?_, ?_⟩,
      rfl⟩
    · exact .inl (waits ready)
    · exact collects.room
  | opened ready seen =>
    refine ⟨⟨⟨collects.proper, collects.configured, collects.limited, collects.columns⟩, ?_, ?_⟩,
      rfl⟩
    · exact .inl (waits ready)
    · intro q member _
      rw [waits ready]
      exact ⟨Nat.zero_le _, planned q member⟩

/-- Whether a tick ends the iteration does not depend on the check of the start trigger. -/
theorem Opening.endsIteration {now : Nat} {opened : Engine} (opening : e.Opening now opened)
    (done : Engine) : e.endsIteration done = opened.endsIteration done := by
  have phases : (opened.phase = .completed ↔ e.phase = .completed) := by
    cases opening with
    | idle _ => rfl
    | failed ready fault =>
      rw [phase_fail (by rw [ready]; rfl), ready]
      decide
    | waiting ready _ => exact Iff.rfl
    | opened ready seen =>
      rw [phase_openIteration now (e := { e with startSeen := seen }) ready, ready]
      decide
  have equal : (opened.phase != .completed) = (e.phase != .completed) :=
    Bool.eq_iff_iff.2 (by simp [phases])
  rw [Engine.endsIteration, Engine.endsIteration, opening.iteration, equal]

/-- The row of a tick that stored one was read without a fault. -/
theorem sampledBy_read {source : Source ρ} {now : Nat} {r : ρ} (configured : e.configuration = c)
    (sampled : (e.tick source now r).sampled = true) {values : List Int} {next : ρ}
    (read : source.readAll c.tracked (e.awaitStart source now r).2 = (.ok values, next)) :
    values.length = c.tracked.length ∧
      (e.sampledBy source now r).reads = c.tracked.zip (values.map .ok) := by
  obtain ⟨count, reads⟩ := source.readsOfAll_of_ok read
  refine ⟨count, ?_⟩
  have kept : (e.awaitStart source now r).1.configuration = c := by
    rw [(awaitStart_opening source now e r).configuration, configured]
  -- a tick that stored a row got past the check of the duration
  have row : e.reads source now r = e.readsOfStart source r ++
      (e.awaitStart source now r).1.readsOfSample source now (e.awaitStart source now r).2 := by
    rw [reads_eq]
    unfold tick at sampled
    simp only at sampled ⊢
    split at sampled
    · cases sampled
    · next running =>
      rw [if_neg running]
      split at sampled
      · cases sampled
      · next going => rw [if_neg going]
  rw [sampledBy, row, ← length_readsOfStart source e r, List.drop_left, readsOfSample, kept, configured,
    reads]
  apply List.take_left'
  simp [count]

/-- What some calls do: the segments that they close are finished into batches or handed out. -/
structure Passes (c : Configuration) (capacity : Nat) (quota : Option Nat) (segment : List Sampled)
    (e : Engine) (events : List Event) (handed : List Batch) (done : Engine)
    (closed : List (List Sampled)) (current : List Sampled) : Prop where
  segments : ∀ rest, segmentsFrom segment (events ++ rest) = closed ++ segmentsFrom current rest
  proper : ∀ rows ∈ closed, ∃ iteration, Proper c quota iteration rows
  finished : handed ++ done.finished = e.finished ++ closed.flatMap (batchesOf capacity)
  collects : Collects c capacity quota current done

theorem Collects.tick (width : 0 < c.tracked.length) (planned : ∀ q ∈ quota, 0 < q)
    (collects : Collects c capacity quota segment e) (source : Source ρ) (now : Nat) (r : ρ) :
    ∃ closed current, Passes c capacity quota segment e (e.eventsOf r (.tick now source)) []
      (e.tick source now r).engine closed current := by
  have opening := awaitStart_opening source now e r
  obtain ⟨opened, finished⟩ := collects.opening planned opening
  -- the check of the start trigger first, then the rest of the tick
  have outcome := opened.advance width (tick_advance source now e r)
    (s := e.sampledBy source now r) opening.iteration.symm rfl fun sampled values next read =>
      sampledBy_read collects.configured sampled read
  rw [← opening.endsIteration, finished] at outcome
  simp only [eventsOf]
  by_cases ends : e.endsIteration (e.tick source now r).engine = true
  · rw [if_pos ends] at outcome ⊢
    obtain ⟨proper, after, batches⟩ := outcome
    refine ⟨[segment ++ if (e.tick source now r).sampled then [e.sampledBy source now r] else []], [],
      ?_, ?_, ?_, after⟩
    · intro rest
      by_cases sampled : (e.tick source now r).sampled = true <;> simp [sampled, segmentsFrom]
    · intro rows member
      rw [List.mem_singleton.1 member]
      exact ⟨_, proper⟩
    · simpa using batches
  · rw [if_neg ends] at outcome ⊢
    obtain ⟨after, batches⟩ := outcome
    refine ⟨[], _, ?_, by simp, by simpa using batches, after⟩
    intro rest
    by_cases sampled : (e.tick source now r).sampled = true <;> simp [sampled, segmentsFrom]

/-! ## Calls -/

theorem Collects.arm (collects : Collects c capacity quota segment e) {armed : Engine}
    (ok : e.arm = .ok armed) :
    Collects c capacity quota segment armed ∧ armed.finished = e.finished := by
  obtain ⟨lifecycle, rfl⟩ := arm_eq_ok ok
  refine ⟨⟨⟨collects.proper, collects.configured, collects.limited, collects.columns⟩, ?_, ?_⟩, rfl⟩
  · have begun := collects.begun
    simp only [phase, lifecycle] at begun
    exact .inl (by simpa [Phase.isTerminal] using begun)
  · intro q _ running
    cases running

theorem Collects.cancel (collects : Collects c capacity quota segment e) :
    Collects c capacity quota segment e.cancel.2 := by
  have ended : e.cancel.2.phase.isTerminal = true := Lifecycle.isTerminal_cancel e.lifecycle
  refine ⟨⟨collects.proper, collects.configured, collects.limited, collects.columns⟩,
    .inr (.inr ended), ?_⟩
  intro q _ running
  rw [running] at ended
  cases ended

theorem Collects.takeData (width : 0 < c.tracked.length)
    (collects : Collects c capacity quota segment e) :
    e.takeData.1 = e.finished ++ batchesOf capacity segment ∧
      Collects c capacity quota [] e.takeData.2 := by
  refine ⟨collects.finished_flush width, ?_⟩
  obtain ⟨_, configured, limited, columns⟩ := collects.toStores.flush
  refine ⟨⟨.nil .., configured, limited, columns⟩, .inl rfl, ?_⟩
  intro q member running
  have same : e.takeData.2.taken = e.taken := taken_flush e
  have still : e.phase = .running := (phase_flush e).symm.trans running
  rw [same]
  exact ⟨Nat.zero_le _, (collects.room q member still).2⟩

/-- What a call does. -/
theorem Collects.call (width : 0 < c.tracked.length) (planned : ∀ q ∈ quota, 0 < q)
    (collects : Collects c capacity quota segment e) (r : ρ) (call : Call ρ) :
    ∃ closed current, Passes c capacity quota segment e (e.eventsOf r call) (e.handsOut call)
      (e.after r call).1 closed current := by
  cases call with
  | arm =>
    simp only [handsOut, eventsOf, after]
    cases armed : e.arm with
    | error _ => exact ⟨[], segment, fun _ => rfl, by simp, by simp, collects⟩
    | ok armed =>
      obtain ⟨after, finished⟩ := collects.arm armed
      exact ⟨[], segment, fun _ => rfl, by simp, by simp [finished], after⟩
  | tick now source => exact collects.tick width planned source now r
  | cancel => exact ⟨[], segment, fun _ => rfl, by simp, by simp [handsOut, after, Engine.cancel],
      collects.cancel⟩
  | takeData =>
    obtain ⟨handed, after⟩ := collects.takeData width
    refine ⟨[segment], [], fun _ => rfl, ?_, ?_, after⟩
    · intro rows member
      rw [List.mem_singleton.1 member]
      exact ⟨_, collects.proper⟩
    · simpa [handsOut, Engine.after, Engine.takeData] using handed

theorem Collects.run (width : 0 < c.tracked.length) (planned : ∀ q ∈ quota, 0 < q)
    (collects : Collects c capacity quota segment e) (r : ρ) (calls : List (Call ρ)) :
    e.handedOut r calls = e.finished ++
        (segmentsFrom segment (e.events r calls)).flatMap (batchesOf capacity) ∧
      ∀ rows ∈ segmentsFrom segment (e.events r calls), ∃ iteration, Proper c quota iteration rows := by
  -- by induction on the calls: the batches handed out are those of the segments, in order, and
  -- each segment holds the rows of one iteration
  induction calls generalizing e r segment with
  | nil =>
    refine ⟨?_, ?_⟩
    · simpa [handedOut, events, segmentsFrom] using (collects.takeData width).1
    · intro rows member
      rw [List.mem_singleton.1 member]
      exact ⟨_, collects.proper⟩
  | cons call rest ih =>
    obtain ⟨closed, current, passes⟩ := collects.call width planned r call
    obtain ⟨handed, proper⟩ := ih passes.collects (e.after r call).2
    rw [events, passes.segments]
    refine ⟨?_, ?_⟩
    · rw [handedOut, handed, ← List.append_assoc, passes.finished, List.flatMap_append,
        List.append_assoc]
    · intro rows member
      cases List.mem_append.1 member with
      | inl early => exact passes.proper rows early
      | inr late => exact proper rows late

end TriggeredSampler.Engine
