import TriggeredSampler.Device.Node
import TriggeredSampler.Proofs.Engine.Conservation
import TriggeredSampler.Proofs.Engine.ReadPlan

/-! # What a failed read leaves behind

A read that fails ends the run, and the data is what it was before the tick. Only a row that is complete
already is kept: then it was the stop trigger that could not be read.

* `Proper.joined` — one more row in the rings, in terms of the data that they are emptied into.
* `Engine.Reached` — what is known of an engine between two calls.
* `Engine.tick_of_failedRead` — the state and the data behind a failed read.
* `Engine.oldestRow_stays` — full rings lose a row of their own iteration, even if older data waits.
-/

namespace TriggeredSampler

/-! ## Joining a row -/

namespace Batch

variable {data : List Batch} {batch : Batch}

/-- The data without the oldest row of its last batch. -/
def dropOldest (width : Nat) : List Batch → List Batch
  | [] => []
  | [last] => [⟨last.iteration, last.readings.drop width⟩]
  | first :: rest => first :: dropOldest width rest

theorem dropOldest_concat (width : Nat) (data : List Batch) (iteration : Nat) (readings : List Reading) :
    dropOldest width (data ++ [⟨iteration, readings⟩]) = data ++ [⟨iteration, readings.drop width⟩] := by
  induction data with
  | nil => rfl
  | cons first rest ih =>
    rw [List.cons_append, List.cons_append, ← ih]
    cases rest <;> rfl

theorem join_concat (data : List Batch) (iteration : Nat) (readings more : List Reading) :
    Batch.join (data ++ [⟨iteration, readings⟩]) ⟨iteration, more⟩ =
      data ++ [⟨iteration, readings ++ more⟩] := by
  induction data with
  | nil => exact if_pos rfl
  | cons first rest ih =>
    rw [List.cons_append, List.cons_append, ← ih]
    cases rest <;> rfl

theorem join_of_ne (other : ∀ b ∈ data, b.iteration ≠ batch.iteration) :
    Batch.join data batch = data ++ [batch] := by
  induction data with
  | nil => rfl
  | cons first rest ih =>
    obtain ⟨head, tail⟩ := List.forall_mem_cons.1 other
    cases rest with
    | nil => exact if_neg head
    | cons second rest =>
      rw [List.cons_append, ← ih tail]
      rfl

end Batch

namespace Engine

variable {ρ σ : Type} {c : Configuration} {capacity : Nat} {quota : Option Nat} {e made opened : Engine}
  {segment : List Sampled}

/-- The batch of a segment that is not empty. -/
theorem Proper.batchesOf_eq {iteration : Nat} (proper : Proper c quota iteration segment)
    (kept : segment.rtake capacity ≠ []) :
    batchesOf capacity segment = [⟨iteration, ((segment.rtake capacity).map Sampled.row).flatten⟩] := by
  have proper := proper.rtake capacity
  unfold batchesOf
  split
  next none => exact absurd none kept
  next s rest rows =>
    rw [rows] at proper ⊢
    rw [proper.labelled s List.mem_cons_self]

theorem Proper.of_concat {iteration : Nat} {s : Sampled} (proper : Proper c quota iteration (segment ++ [s])) :
    Proper c quota iteration segment := by
  refine ⟨fun t member => proper.read t (List.mem_append_left _ member),
    fun t member => proper.labelled t (List.mem_append_left _ member), ?_⟩
  intro q member
  have bounded := proper.bounded q member
  rw [List.length_append] at bounded
  omega

/-- One more row goes into the batch of its segment. It takes the place of the oldest one, if the rings are
full. -/
theorem Proper.joined {iteration : Nat} {s : Sampled} {finished : List Batch} (some : 0 < capacity)
    (proper : Proper c quota iteration (segment ++ [s])) (earlier : ∀ b ∈ finished, b.iteration ≠ iteration) :
    finished ++ batchesOf capacity (segment ++ [s]) =
      Batch.join (if capacity ≤ segment.length then
          Batch.dropOldest c.tracked.length (finished ++ batchesOf capacity segment)
        else finished ++ batchesOf capacity segment) ⟨iteration, s.row⟩ := by
  have before := proper.of_concat
  by_cases full : capacity ≤ segment.length
  · obtain ⟨first, within, rest, rows, rows'⟩ := rtake_concat_of_le some full s
    have width := before.length_row _ (List.mem_map_of_mem within)
    rw [if_pos full, before.batchesOf_eq (by simp [rows]), proper.batchesOf_eq (by simp [rows']),
      Batch.dropOldest_concat, Batch.join_concat, rows, rows', List.map_cons, List.flatten_cons,
      List.drop_left' width]
    simp
  · have fits : segment.length + 1 ≤ capacity := not_le.1 full
    have rows : segment.rtake capacity = segment := rtake_of_length_le (Nat.le_of_succ_le fits)
    have rows' : (segment ++ [s]).rtake capacity = segment ++ [s] := rtake_of_length_le (by simpa using fits)
    rw [if_neg full, proper.batchesOf_eq (by simp [rows']), rows']
    -- the first row of a segment makes a batch of its own
    by_cases none : segment = []
    · subst none
      have empty : batchesOf capacity ([] : List Sampled) = [] := by simp [batchesOf]
      rw [empty, List.append_nil, Batch.join_of_ne earlier]
      simp
    · rw [before.batchesOf_eq (rows.symm ▸ none), Batch.join_concat, rows]
      simp

/-! ## Between two calls -/

/-- Emptying the rings finishes a batch of the current iteration, or none. -/
theorem exists_finished_flush (e : Engine) :
    ∃ more, e.flush.finished = e.finished ++ more ∧ ∀ b ∈ more, b.iteration = e.iteration := by
  unfold flush
  simp only
  split
  · exact ⟨[], by simp, by simp⟩
  · exact ⟨_, rfl, by simp⟩

/-- The finished batches are of earlier iterations. -/
def Earlier (e : Engine) : Prop :=
  e.phase.isTerminal = false → ∀ b ∈ e.finished, b.iteration < e.iteration

theorem Earlier.closeIteration (running : e.phase = .running) (earlier : e.Earlier) :
    e.closeIteration.Earlier := by
  intro going b member
  rw [phase_closeIteration running] at going
  rw [finished_closeIteration] at member
  rw [iteration_closeIteration]
  split at going
  next again =>
    rw [if_pos again]
    obtain ⟨more, batches, current⟩ := e.exists_finished_flush
    rw [batches] at member
    rcases List.mem_append.1 member with old | new
    · exact (earlier (isTerminal_of_running running) b old).trans (Nat.lt_succ_self _)
    · exact Nat.lt_succ_of_le (Nat.le_of_eq (current b new))
  next => cases going

theorem Earlier.fail (going : e.phase.isTerminal = false) (fault : DeviceFault) : (e.fail fault).Earlier := by
  intro still
  rw [phase_fail going] at still
  cases still

/-- A run that goes on behind the check of the start trigger went on before it. -/
theorem Opening.going {now : Nat} (opening : e.Opening now opened) (going : opened.phase.isTerminal = false) :
    e.phase.isTerminal = false := by
  cases opening with
  | idle _ => exact going
  | failed ready _ | waiting ready _ | opened ready _ =>
    rw [ready]
    rfl

theorem Earlier.opening {now : Nat} (earlier : e.Earlier) (opening : e.Opening now opened) :
    opened.Earlier := by
  intro going
  rw [opening.finished, opening.iteration]
  exact earlier (opening.going going)

theorem Earlier.tick (earlier : e.Earlier) (source : Source ρ) (now : Nat) (r : ρ) :
    (e.tick source now r).engine.Earlier := by
  have checked := earlier.opening (awaitStart_opening source now e r)
  have advance := tick_advance source now e r
  generalize (e.awaitStart source now r).1 = opened at checked advance
  generalize (e.tick source now r).engine = done at advance ⊢
  generalize (e.tick source now r).sampled = sampled at advance
  cases advance with
  | idle _ => exact checked
  | elapsed running _ => exact checked.closeIteration running
  | failed running fault => exact .fail (isTerminal_of_running running) fault
  | full running values _ _ _ => exact .closeIteration (e := opened.store now values) running checked
  | stopped running values _ _ seen =>
    exact .closeIteration (e := { opened.store now values with stopSeen := seen }) running checked
  | stopFailed running values _ _ _ fault =>
    exact .fail (isTerminal_of_running (e := opened.store now values) running) fault
  | kept _ _ _ _ _ _ => exact checked

theorem Earlier.arm (earlier : e.Earlier) {armed : Engine} (ok : e.arm = .ok armed) : armed.Earlier := by
  obtain ⟨lifecycle, rfl⟩ := arm_eq_ok ok
  exact fun _ => earlier (by rw [phase, lifecycle]; rfl)

/-- What is known of an engine between two calls. -/
structure Reached (c : Configuration) (e : Engine) : Prop where
  width : 0 < c.tracked.length
  collects : ∃ capacity quota segment, Sized c capacity quota ∧ Collects c capacity quota segment e
  earlier : e.Earlier

theorem Reached.of_new (accepted : new? c = .ok e) : Reached c e := by
  obtain ⟨width, capacity, quota, rfl, sized⟩ := new?_eq_ok accepted
  exact ⟨width, ⟨capacity, quota, [], sized, .prepare c capacity quota⟩, fun _ b member => by cases member⟩

theorem Reached.call (reached : Reached c e) (r : ρ) (call : Call ρ) : Reached c (e.after r call).1 := by
  obtain ⟨width, ⟨capacity, quota, segment, sized, collects⟩, earlier⟩ := reached
  obtain ⟨_, current, passes⟩ := collects.call width sized.planned r call
  refine ⟨width, ⟨capacity, quota, current, sized, passes.collects⟩, ?_⟩
  cases call with
  | arm =>
    simp only [after]
    cases armed : e.arm with
    | error _ => exact earlier
    | ok made => exact earlier.arm armed
  | tick now source => exact earlier.tick source now r
  | cancel =>
    intro going
    have ended : (e.after r .cancel).1.phase.isTerminal = true := Lifecycle.isTerminal_cancel e.lifecycle
    rw [ended] at going
    cases going
  | takeData =>
    intro _ b member
    cases member

/-- The engine and the source behind some calls. -/
def afterAll (e : Engine) (r : ρ) : List (Call ρ) → Engine × ρ
  | [] => (e, r)
  | call :: rest => (e.after r call).1.afterAll (e.after r call).2 rest

theorem Reached.afterAll (reached : Reached c e) (r : ρ) (calls : List (Call ρ)) :
    Reached c (e.afterAll r calls).1 := by
  induction calls generalizing e r with
  | nil => exact reached
  | cons call rest ih => exact ih (reached.call r call) _

/-! ## Behind a failed read -/

/-- The data with one more row. Full rings of a software sampler lose their oldest row for it. -/
def dataWith (e : Engine) (row : List Reading) : List Batch :=
  Batch.join (if e.configuration.software && e.columns.all Ring.isFull then
      Batch.dropOldest e.configuration.tracked.length e.takeData.1
    else e.takeData.1) ⟨e.iteration, row⟩

theorem finished_flush_congr (columns : opened.columns = e.columns) (finished : opened.finished = e.finished)
    (iteration : opened.iteration = e.iteration) : opened.flush.finished = e.flush.finished := by
  unfold flush
  simp only
  rw [columns, finished, iteration]
  split <;> rfl

/-- The rings of a firmware sampler have room for every row of the quota. -/
theorem Collects.isFull_iff (width : 0 < c.tracked.length) (sized : Sized c capacity quota)
    (collects : Collects c capacity quota segment e) (running : e.phase = .running) :
    (e.configuration.software && e.columns.all Ring.isFull) = true ↔ capacity ≤ segment.length := by
  have full := collects.columns.isFull_iff width
  rw [List.length_map] at full
  rw [Bool.and_eq_true, full, collects.configured]
  refine and_iff_right_of_imp fun full => ?_
  by_contra firmware
  obtain ⟨limited, fits⟩ := sized.firmware (by simpa using firmware)
  obtain ⟨stored, room⟩ := collects.room _ limited running
  omega

/-- A row that was complete before the fault is kept. -/
theorem Reached.takeData_store (reached : Reached c e) {now : Nat} (opening : e.Opening now opened)
    (running : opened.phase = .running) {values : List Int} (count : values.length = c.tracked.length)
    (fault : DeviceFault) :
    ((opened.store now values).fail fault).takeData.1 =
      e.dataWith (values.map fun value => ⟨value, now⟩) := by
  obtain ⟨width, ⟨capacity, quota, segment, sized, collects⟩, earlier⟩ := reached
  obtain ⟨checked, finished⟩ := collects.opening sized.planned opening
  have active := isTerminal_of_running running
  have stores := checked.store (s := ⟨e.iteration, now, c.tracked.zip (values.map .ok)⟩) running count rfl
    opening.iteration.symm rfl
  have row := Sampled.row_eq (s := ⟨e.iteration, now, c.tracked.zip (values.map .ok)⟩) count rfl
  have before : ∀ b ∈ e.finished, b.iteration ≠ e.iteration := fun b member =>
    (earlier (opening.going active) b member).ne
  have proper := stores.proper
  rw [show (opened.store now values).iteration = e.iteration from opening.iteration] at proper
  have full := checked.isFull_iff width sized running
  rw [opening.configuration, opening.columns, collects.configured] at full
  rw [((stores.fail active fault).takeData width).1, dataWith, (collects.takeData width).1,
    show ((opened.store now values).fail fault).finished = e.finished from finished,
    proper.joined sized.capacity_pos before, row, collects.configured, if_congr full rfl rfl]

/-- A row that the fault interrupted is not kept. -/
theorem takeData_fail {now : Nat} (opening : e.Opening now opened) (fault : DeviceFault) :
    (opened.fail fault).takeData.1 = e.takeData.1 :=
  finished_flush_congr opening.columns opening.finished opening.iteration

theorem fault_fail (going : e.phase.isTerminal = false) (fault : DeviceFault) :
    (e.fail fault).phase = .failed ∧ (e.fail fault).fault = some fault := by
  refine ⟨phase_fail going, ?_⟩
  unfold fail Engine.fault
  rw [Lifecycle.fail_of_not_isTerminal going]
  rfl

/-- A run that is over is left alone. -/
theorem tick_of_isTerminal (source : Source ρ) (now : Nat) (r : ρ) (ended : e.phase.isTerminal = true) :
    e.tick source now r = ⟨e, false, r⟩ := by
  have still : e.phase ≠ .ready ∧ e.phase ≠ .running := by
    constructor <;> intro phase <;> rw [phase] at ended <;> cases ended
  unfold tick awaitStart
  rw [if_neg still.1]
  exact if_pos still.2

theorem reads_of_isTerminal (source : Source ρ) (now : Nat) (r : ρ) (ended : e.phase.isTerminal = true) :
    e.reads source now r = [] := by
  rw [reads, tick_of_isTerminal _ now _ ended]

/-- **A failed read ends the run, and nothing but an unfinished row is lost.** A tick reads along its plan up to
the first fault. The data stays what it was, or gains the row of the tick if that was complete. A run that is
over reads nothing. -/
theorem tick_of_failedRead (accepted : new? c = .ok made) (r : ρ) (calls : List (Call ρ))
    (source : Source σ) (now : Nat) (s : σ) :
    let e := (made.afterAll r calls).1
    let reads := e.reads source now s
    let done := e.tick source now s
    reads.map Prod.fst <+: e.plannedReads ∧
      (∀ read ∈ reads.dropLast, ∃ value, read.2 = .ok value) ∧
      (∀ a fault, (a, .error fault) ∈ reads →
        done.engine.phase = .failed ∧ done.engine.fault = some fault ∧
        if reads.length ≤ (e.leadingAddresses ++ c.tracked).length then
          done.engine.takeData.1 = e.takeData.1
        else
          a = c.stop.address ∧ ∃ values : List Int, values.length = c.tracked.length ∧
            (reads.drop e.leadingAddresses.length).take c.tracked.length = c.tracked.zip (values.map .ok) ∧
            done.engine.takeData.1 = e.dataWith (values.map fun value => ⟨value, now⟩)) ∧
      (e.phase.isTerminal = true → reads = [] ∧ done = ⟨e, false, s⟩) := by
  have reached := (Reached.of_new accepted).afterAll r calls
  generalize (made.afterAll r calls).1 = e at reached
  obtain ⟨_, _, _, _, collects⟩ := reached.collects
  have configured := collects.configured
  intro e reads done
  have outcome := tick_outcome source now e s
  obtain ⟨addresses, _, planned, answers⟩ := outcome.answers
  refine ⟨answers.isPrefix.trans planned, answers.of_mem_dropLast, ?_,
    fun ended => ⟨reads_of_isTerminal source now s ended, tick_of_isTerminal source now s ended⟩⟩
  intro a fault member
  have member : (a, .error fault) ∈ e.reads source now s := member
  have last := answers.of_mem_dropLast
  simp only [reads, done]
  generalize e.reads source now s = all, (e.tick source now s).engine = after at outcome member last ⊢
  cases outcome with
  | answered _ answers _ => cases answers.fault_of_mem member
  | early opening going _ answers short =>
    cases answers.fault_of_mem member
    obtain ⟨phase, cause⟩ := fault_fail (Phase.isTerminal_of_isActive going) fault
    rw [configured] at short
    rw [if_pos short]
    exact ⟨phase, cause, takeData_fail opening fault⟩
  | @late opened opening running start leading values count _ answers =>
    cases answers.fault_of_mem member
    obtain ⟨phase, cause⟩ := fault_fail (isTerminal_of_running (e := opened.store now values) running) fault
    rw [configured] at count last member ⊢
    refine ⟨phase, cause, ?_⟩
    rw [if_neg (by simp [leading, count])]
    refine ⟨?_, values, count, ?_, reached.takeData_store opening running count fault⟩
    · -- the reads before the last one were answered
      rw [← List.append_assoc, List.dropLast_concat] at last
      rw [← List.append_assoc] at member
      rcases List.mem_append.1 member with early | late
      · obtain ⟨_, answered⟩ := last _ early
        cases answered
      · exact congrArg Prod.fst (List.mem_singleton.1 late)
    · rw [← leading, List.drop_left]
      apply List.take_left'
      simp [count]

/-- A sampler of one address, in iterations that end when another address reads 1. -/
def untilOne : Configuration :=
  { Configuration.ofMode .repetitive with
    software := true
    period := 1
    start := .immediate
    stop := ⟨.equal, ⟨0x2001, 0⟩, 1⟩
    tracked := [⟨0x2000, 0⟩] }

/-- The registers of tick `i`. The tracked address counts the ticks. -/
def registersAt (i : Nat) (stop : Except DeviceFault Int) : Source Unit := fun a r =>
  (if a = ⟨0x2000, 0⟩ then .ok i else stop, r)

/-- The fault of a device that does not answer. -/
def lost : DeviceFault := ⟨.timeout, 0, "no answer"⟩

theorem new?_untilOne : new? untilOne = .ok (prepare untilOne softwareCapacity none) := rfl

/-- The stop trigger cannot be read behind the second row, and both rows are kept. -/
theorem tick_of_unreadStop :
    let e := ((prepare untilOne softwareCapacity none).afterAll ()
      [.arm, .tick 0 (registersAt 0 (.ok 0))]).1
    let done := (e.tick (registersAt 1 (.error lost)) 1 ()).engine
    new? untilOne = .ok (prepare untilOne softwareCapacity none) ∧
      done.phase = .failed ∧ done.fault = some lost ∧ done.takeData.1 = [⟨0, [⟨0, 0⟩, ⟨1, 1⟩]⟩] := by
  intro e done
  obtain ⟨_, _, failed, _⟩ := tick_of_failedRead new?_untilOne ()
    [.arm, .tick 0 (registersAt 0 (.ok 0))] (registersAt 1 (.error lost)) 1 ()
  obtain ⟨phase, cause, data⟩ := failed ⟨0x2001, 0⟩ lost (List.mem_cons_of_mem _ List.mem_cons_self)
  rw [if_neg (by decide)] at data
  obtain ⟨_, values, count, read, data⟩ := data
  refine ⟨new?_untilOne, phase, cause, ?_⟩
  obtain ⟨value, rfl⟩ := List.length_eq_one_iff.1 count
  cases read
  exact data

/-- As long as the other address reads 0, the iteration goes on. -/
theorem check_untilOne (i : Nat) (seen : Option Int) :
    (registersAt i (.ok 0)).check untilOne.stop seen () = (.ok ⟨false, some 0⟩, ()) := by
  have going : untilOne.stop.isMet (seen.getD 0) 0 = false := by
    show ((0 : Int) == Condition.threshold 1) = false
    decide
  rw [← going]
  rfl

/-- The second iteration of `untilOne` is under way, with `k` rows. The row of the first iteration was not
taken yet. -/
structure SecondIteration (k : Nat) (e : Engine) : Prop where
  configuration : e.configuration = untilOne
  lifecycle : e.lifecycle = .running
  quota : e.quota = none
  iteration : e.iteration = 1
  finished : e.finished = [⟨0, [⟨0, 0⟩]⟩]
  columns : ∃ ring, e.columns = [ring] ∧ ring.capacity = softwareCapacity ∧ ring.size = k

theorem SecondIteration.tick {k : Nat} (second : SecondIteration k e) (room : k < softwareCapacity) (i : Nat) :
    SecondIteration (k + 1) (e.tick (registersAt i (.ok 0)) i ()).engine := by
  obtain ⟨configuration, lifecycle, quota, iteration, finished, ring, columns, capacity, size⟩ := second
  have sampled : (e.tick (registersAt i (.ok 0)) i ()).engine =
      ((e.store i [(i : Int)]).checkStop (registersAt i (.ok 0)) ()).1 := by
    cases e
    subst configuration lifecycle quota
    rfl
  have kept : (e.store i [(i : Int)]).checkStop (registersAt i (.ok 0)) () =
      ({ e.store i [(i : Int)] with stopSeen := some 0 }, ()) := by
    have stop : (e.store i [(i : Int)]).configuration.stop = untilOne.stop := congrArg _ configuration
    rw [checkStop, stop, check_untilOne]
    rfl
  rw [sampled, kept]
  refine ⟨configuration, lifecycle, quota, iteration, finished, (ring.push ⟨i, i⟩).2, ?_, ?_, ?_⟩
  · simp [store, columns]
  · rw [Ring.capacity_push, capacity]
  · rw [Ring.size_push (by rwa [size, capacity]), size]

theorem SecondIteration.isFull (second : SecondIteration softwareCapacity e) :
    e.columns.all Ring.isFull = true := by
  obtain ⟨ring, columns, capacity, size⟩ := second.columns
  rw [columns, List.all_cons, List.all_nil, Bool.and_true, Ring.isFull, decide_eq_true_eq, capacity]
  exact size.ge

theorem SecondIteration.ticks {k : Nat} (second : SecondIteration k e) (i : Nat) {n : Nat}
    (room : k + n ≤ softwareCapacity) :
    SecondIteration (k + n)
      (e.afterAll () ((List.range' i n).map fun i => .tick i (registersAt i (.ok 0)))).1 := by
  induction n generalizing e k i with
  | zero => exact second
  | succ n ih =>
    have next := ih (second.tick (by omega) i) (i + 1) (by omega)
    rwa [Nat.add_assoc, Nat.add_comm 1] at next

/-- `untilOne` behind the only row of its first iteration and `n` rows of the second. -/
def inSecond (n : Nat) : Engine :=
  ((prepare untilOne softwareCapacity none).afterAll ()
    (.arm :: .tick 0 (registersAt 0 (.ok 1)) ::
      (List.range' 1 n).map fun i => .tick i (registersAt i (.ok 0)))).1

theorem secondIteration_inSecond {n : Nat} (room : 1 + n ≤ softwareCapacity) :
    SecondIteration (1 + n) (inSecond (1 + n)) := by
  have first : SecondIteration 1 ((prepare untilOne softwareCapacity none).afterAll ()
      [.arm, .tick 0 (registersAt 0 (.ok 1)), .tick 1 (registersAt 1 (.ok 0))]).1 :=
    ⟨rfl, rfl, rfl, rfl, rfl, _, rfl, rfl, rfl⟩
  rw [inSecond, Nat.add_comm, List.range'_succ, List.map_cons, Nat.add_comm]
  exact first.ticks 2 room

/-- The stop trigger cannot be read behind a row. The data begins with the row of the first iteration, before
the tick and behind it. -/
theorem SecondIteration.fails {k : Nat} (second : SecondIteration k e) (i : Nat) :
    e.phase = .running ∧
      e.reads (registersAt i (.error lost)) i () =
        [(⟨0x2000, 0⟩, .ok (i : Int)), (⟨0x2001, 0⟩, .error lost)] ∧
      (e.tick (registersAt i (.error lost)) i ()).engine.takeData.1.flatMap (rowsIn 1) ≠
        (e.takeData.1.flatMap (rowsIn 1)).tail ++ [(1, [⟨i, i⟩])] := by
  obtain ⟨configuration, lifecycle, quota, iteration, finished, -⟩ := second
  have failed : (e.tick (registersAt i (.error lost)) i ()).engine = (e.store i [(i : Int)]).fail lost ∧
      e.reads (registersAt i (.error lost)) i () =
        [(⟨0x2000, 0⟩, .ok (i : Int)), (⟨0x2001, 0⟩, .error lost)] := by
    cases e
    subst configuration lifecycle quota
    exact ⟨rfl, rfl⟩
  refine ⟨by rw [phase, lifecycle]; rfl, failed.2, ?_⟩
  obtain ⟨more, before, current⟩ := e.exists_finished_flush
  obtain ⟨others, behind, -⟩ := ((e.store i [(i : Int)]).fail lost).exists_finished_flush
  have kept : ((e.store i [(i : Int)]).fail lost).finished = [⟨0, [⟨0, 0⟩]⟩] := finished
  rw [failed.1, takeData, takeData, before, behind, finished, kept]
  intro same
  have first : (0, [⟨0, 0⟩]) ∈ (([⟨0, [⟨0, 0⟩]⟩] : List Batch) ++ others).flatMap (rowsIn 1) :=
    List.mem_flatMap.2 ⟨_, List.mem_append_left _ List.mem_cons_self, List.mem_cons_self⟩
  -- without its first row, the data is of the second iteration
  have alone : ([⟨0, [⟨0, 0⟩]⟩] : List Batch).flatMap (rowsIn 1) = [(0, [⟨0, 0⟩])] := rfl
  rw [same, List.flatMap_append, alone, List.singleton_append, List.tail_cons] at first
  rcases List.mem_append.1 first with old | new
  · obtain ⟨b, member, within⟩ := List.mem_flatMap.1 old
    obtain ⟨_, _, row⟩ := List.mem_map.1 within
    rw [current b member, iteration] at row
    cases row
  · cases List.mem_singleton.1 new

/-- The row that full rings lose is not the oldest one that was not taken: an earlier iteration keeps its
own. -/
theorem oldestRow_stays :
    let e := inSecond 4096
    let done := (e.tick (registersAt 4097 (.error lost)) 4097 ()).engine
    new? untilOne = .ok (prepare untilOne softwareCapacity none) ∧
      e.columns.all Ring.isFull = true ∧ e.phase = .running ∧
      e.reads (registersAt 4097 (.error lost)) 4097 () =
        [(⟨0x2000, 0⟩, .ok 4097), (⟨0x2001, 0⟩, .error lost)] ∧
      done.takeData.1.flatMap (rowsIn 1) ≠
        (e.takeData.1.flatMap (rowsIn 1)).tail ++ [(1, [⟨4097, 4097⟩])] := by
  have second : SecondIteration 4096 (inSecond 4096) := secondIteration_inSecond (n := 4095) (by decide)
  exact ⟨new?_untilOne, second.isFull, second.fails 4097⟩

end Engine

end TriggeredSampler
