import TriggeredSampler.Proofs.Engine.FailedReads
import TriggeredSampler.Proofs.Engine.Tidy
import TriggeredSampler.Proofs.Trigger.Condition

/-! # Edges need a change

The first reading that an engine takes for a trigger is its own predecessor. A trigger on an edge is not met
by it: the engine forgets the readings of the start trigger when it begins to wait, and those of the stop
trigger when it opens an iteration.

* `Engine.BeginsWait` — a call after which the engine waits, or waits anew.
* `Engine.tick_of_freshWait` — the first tick of a wait opens no iteration.
* `Engine.exists_sample_of_running` — an iteration that is under way has a sample.
* `Engine.endsIteration_of_firstSample` — behind the first sample only the quota ends an iteration.
* `Engine.edges_need_change` — both, for every run, beside the laws of the conditions.
-/

namespace TriggeredSampler

variable {ρ σ : Type}

theorem Source.met_of_isEdge (source : Source ρ) {t : Trigger} (edge : t.condition.isEdge = true) {r next : ρ}
    {found : Source.Check} (check : source.check t none r = (.ok found, next)) : found.met = false := by
  unfold Source.check at check
  rw [if_pos (Condition.readsAddress_of_isEdge edge)] at check
  rcases answered : source t.address r with ⟨fault | current, _⟩ <;> rw [answered] at check
  · cases check
  · cases check
    exact Condition.holds_of_isEdge edge current t.value

/-- The call makes the engine go on by one tick. -/
def Call.isTick : Call ρ → Bool
  | .tick _ _ => true
  | _ => false

namespace Engine

variable {c : Configuration} {e made : Engine} (source : Source ρ) (now : Nat) (r : ρ)

theorem afterAll_append (e : Engine) (r : ρ) (calls more : List (Call ρ)) :
    e.afterAll r (calls ++ more) = (e.afterAll r calls).1.afterAll (e.afterAll r calls).2 more := by
  induction calls generalizing e r with
  | nil => rfl
  | cons call rest ih => exact ih _ _

/-! ## The first tick of a wait -/

/-- The engine waits for its start trigger, and did not wait for it in the same iteration before. -/
def BeginsWait (e waiting : Engine) : Prop :=
  waiting.phase = .ready ∧ (e.phase = .ready → waiting.iteration ≠ e.iteration)

instance (e waiting : Engine) : Decidable (e.BeginsWait waiting) :=
  inferInstanceAs (Decidable (_ ∧ _))

/-- Without an earlier reading an edge is not met. -/
theorem awaitStart_of_fresh (edge : e.configuration.start.condition.isEdge = true)
    (fresh : e.startSeen = none) :
    (∃ fault, e.phase = .ready ∧ (e.awaitStart source now r).1 = e.fail fault) ∨
      ∃ seen, (e.awaitStart source now r).1 = { e with startSeen := seen } := by
  unfold awaitStart
  split
  next ready =>
    rw [fresh]
    rcases check : source.check e.configuration.start none r with ⟨fault | found, next⟩
    · exact .inl ⟨fault, ready, rfl⟩
    · have unmet : ¬found.met = true := by simp [source.met_of_isEdge edge check]
      simp only [if_neg unmet]
      exact .inr ⟨found.seen, rfl⟩
  next => exact .inr ⟨e.startSeen, rfl⟩

/-- An engine that has not read its start trigger stays where it is, or fails. -/
theorem tick_of_freshWait (edge : e.configuration.start.condition.isEdge = true) (fresh : e.startSeen = none)
    (still : e.phase ≠ .running) :
    (e.tick source now r).sampled = false ∧
      ((e.tick source now r).engine.phase = e.phase ∨ (e.tick source now r).engine.phase = .failed) ∧
      (e.tick source now r).engine.iteration = e.iteration := by
  rcases awaitStart_of_fresh source now r edge fresh with ⟨fault, ready, failed⟩ | ⟨seen, waits⟩
  · have phase : (e.fail fault).phase = .failed := phase_fail (by rw [ready]; rfl)
    have broken : (e.fail fault).phase ≠ .running := by
      rw [phase]
      decide
    unfold tick
    simp only [failed]
    rw [if_pos broken]
    exact ⟨rfl, .inr phase, rfl⟩
  · have idle : ({ e with startSeen := seen } : Engine).phase ≠ .running := still
    unfold tick
    simp only [waits]
    rw [if_pos idle]
    exact ⟨rfl, .inl rfl, rfl⟩

theorem startSeen_closeIteration (again : e.closeIteration.phase = .ready) (running : e.phase = .running) :
    e.closeIteration.startSeen = none := by
  rw [phase_closeIteration running] at again
  split at again
  next repetitive => simp [closeIteration, repetitive]
  next => cases again

/-- A tick that begins a wait forgets what the start trigger has seen. -/
theorem startSeen_tick (begins : e.BeginsWait (e.tick source now r).engine) :
    (e.tick source now r).engine.startSeen = none := by
  obtain ⟨ready, anew⟩ := begins
  have opening := awaitStart_opening source now e r
  have advance := tick_advance source now e r
  generalize (e.awaitStart source now r).1 = opened at opening advance
  generalize (e.tick source now r).engine = done,
    (e.tick source now r).sampled = sampled at advance ready anew ⊢
  cases advance with
  | idle still =>
    -- an engine that waits on has waited before
    cases opening with
    | idle busy => exact absurd ready busy
    | failed going fault =>
      rw [phase_fail (by rw [going]; rfl)] at ready
      cases ready
    | waiting going seen => exact absurd rfl (anew going)
    | opened going seen =>
      rw [phase_openIteration now (e := { e with startSeen := seen }) going] at ready
      cases ready
  | elapsed running _ => exact startSeen_closeIteration ready running
  | failed running fault =>
    rw [phase_fail (isTerminal_of_running running)] at ready
    cases ready
  | full running values _ _ _ => exact startSeen_closeIteration (e := opened.store now values) ready running
  | stopped running values _ _ seen =>
    exact startSeen_closeIteration (e := { opened.store now values with stopSeen := seen }) ready running
  | stopFailed running values _ _ _ fault =>
    rw [phase_fail (e := opened.store now values) (isTerminal_of_running running)] at ready
    cases ready
  | kept running values _ _ _ seen =>
    rw [show ({ opened.store now values with stopSeen := seen } : Engine).phase = opened.phase from rfl,
      running] at ready
    cases ready

/-! ## Between two ticks -/

/-- What a call that is no tick can do to the trigger. -/
structure Rests (e done : Engine) : Prop where
  iteration : done.iteration = e.iteration
  startSeen : done.startSeen = e.startSeen
  phase : done.phase = e.phase ∨ e.phase = .configured ∧ done.phase = .ready ∨ done.phase = .cancelled

theorem rests_after {call : Call ρ} (quiet : call.isTick = false) (e : Engine) :
    e.Rests (e.after r call).1 := by
  cases call with
  | tick _ _ => cases quiet
  | arm =>
    simp only [after, arm]
    cases lifecycle : e.lifecycle with
    | configured => exact ⟨rfl, rfl, .inr (.inl ⟨congrArg Lifecycle.phase lifecycle, rfl⟩)⟩
    | _ => exact ⟨rfl, rfl, .inl rfl⟩
  | cancel =>
    simp only [after, cancel, Lifecycle.cancel]
    split
    · exact ⟨rfl, rfl, .inl rfl⟩
    · exact ⟨rfl, rfl, .inr (.inr rfl)⟩
  | takeData =>
    simp only [after, takeData]
    exact ⟨by rw [flush_eq], by rw [flush_eq], .inl (phase_flush e)⟩

theorem Rests.phase_ne_running {done : Engine} (rests : e.Rests done) (still : e.phase ≠ .running) :
    done.phase ≠ .running := by
  rcases rests.phase with same | ⟨_, ready⟩ | cancelled
  · rwa [same]
  · rw [ready]
    decide
  · rw [cancelled]
    decide

theorem tick_of_not_begun (idle : e.phase.begun = false) : e.tick source now r = ⟨e, false, r⟩ := by
  have still : e.phase ≠ .ready ∧ e.phase ≠ .running := by
    constructor <;> intro phase <;> rw [phase] at idle <;> cases idle
  unfold tick awaitStart
  rw [if_neg still.1]
  exact if_pos still.2

/-- An engine that was not started has read nothing. -/
def Unread (e : Engine) : Prop := e.phase.begun = false → e.startSeen = none

theorem Unread.after (unread : e.Unread) (call : Call ρ) : (e.after r call).1.Unread := by
  intro idle
  cases ticks : call.isTick with
  | false =>
    obtain ⟨_, kept, phase⟩ := rests_after r ticks e
    rcases phase with same | ⟨_, ready⟩ | cancelled
    · rw [kept]
      exact unread (same ▸ idle)
    · rw [ready] at idle
      cases idle
    · rw [cancelled] at idle
      cases idle
  | true =>
    cases call with
    | tick now source =>
      rw [Engine.after] at idle ⊢
      cases begun : e.phase.begun with
      | true => cases (begun_tick source now r begun).symm.trans idle
      | false =>
        rw [tick_of_not_begun source now r begun]
        exact unread begun
    | _ => cases ticks

theorem Unread.afterAll (unread : e.Unread) (calls : List (Call ρ)) : (e.afterAll r calls).1.Unread := by
  induction calls generalizing e r with
  | nil => exact unread
  | cons call rest ih => exact ih _ (unread.after r call)

/-- Whatever makes an engine wait, it has not read the start trigger in this iteration. -/
theorem startSeen_of_beginsWait (unread : e.Unread) {call : Call ρ}
    (begins : e.BeginsWait (e.after r call).1) : (e.after r call).1.startSeen = none := by
  cases ticks : call.isTick with
  | false =>
    obtain ⟨ready, anew⟩ := begins
    obtain ⟨same, kept, phase⟩ := rests_after r ticks e
    rw [kept]
    rcases phase with still | ⟨configured, _⟩ | cancelled
    · exact absurd same (anew (still ▸ ready))
    · exact unread (by rw [configured]; rfl)
    · cases cancelled.symm.trans ready
  | true =>
    cases call with
    | tick now source => exact startSeen_tick source now r begins
    | _ => cases ticks

/-- Calls that are no ticks leave a wait as it began, or cancel it. -/
theorem rested_afterAll (calls : List (Call ρ)) (quiet : ∀ call ∈ calls, call.isTick = false)
    (fresh : e.startSeen = none) (still : e.phase ≠ .running) :
    (e.afterAll r calls).1.startSeen = none ∧ (e.afterAll r calls).1.phase ≠ .running := by
  induction calls generalizing e r with
  | nil => exact ⟨fresh, still⟩
  | cons call rest ih =>
    obtain ⟨first, others⟩ := List.forall_mem_cons.1 quiet
    have rests := rests_after r first e
    exact ih _ others (rests.startSeen.trans fresh) (rests.phase_ne_running still)

/-! ## The first sample of an iteration -/

/-- A tick that leaves an iteration under way has sampled for it, and counted the sample. -/
theorem sampled_of_running {source : Source ρ} {now : Nat} {r : ρ}
    (running : (e.tick source now r).engine.phase = .running) :
    (e.tick source now r).sampled = true ∧ (e.tick source now r).engine.iteration = e.iteration ∧
      1 ≤ (e.tick source now r).engine.taken := by
  have opening := awaitStart_opening source now e r
  have advance := tick_advance source now e r
  have closed : ∀ stored : Engine, stored.phase = .running → stored.closeIteration.phase ≠ .running := by
    intro stored running
    rw [phase_closeIteration running]
    split <;> decide
  generalize (e.awaitStart source now r).1 = opened at opening advance
  generalize (e.tick source now r).engine = done,
    (e.tick source now r).sampled = sampled at advance running ⊢
  cases advance with
  | idle still => exact absurd running still
  | elapsed going _ => exact absurd running (closed opened going)
  | failed going fault =>
    rw [phase_fail (isTerminal_of_running going)] at running
    cases running
  | full going values _ _ _ => exact absurd running (closed (opened.store now values) going)
  | stopped going values _ _ seen =>
    exact absurd running (closed { opened.store now values with stopSeen := seen } going)
  | stopFailed going values _ _ _ fault =>
    rw [phase_fail (e := opened.store now values) (isTerminal_of_running going)] at running
    cases running
  | kept _ _ _ _ _ _ => exact ⟨rfl, opening.iteration, Nat.le_add_left ..⟩

theorem samples_cons (e : Engine) (call : Call ρ) (rest : List (Call ρ)) :
    e.samples r (call :: rest) =
      samplesOf (e.eventsOf r call) ++ (e.after r call).1.samples (e.after r call).2 rest := by
  rw [samples, events, samplesOf_append, samples]

/-- An iteration that is under way behind a call was under way before it, or the call has stored a row. -/
theorem running_after {call : Call ρ} (running : (e.after r call).1.phase = .running) :
    (e.phase = .running ∧ (e.after r call).1.iteration = e.iteration) ∨
      ∃ s ∈ samplesOf (e.eventsOf r call), s.iteration = (e.after r call).1.iteration := by
  cases ticks : call.isTick with
  | false =>
    have rests := rests_after r ticks e
    exact .inl ⟨Decidable.not_not.1 fun still => rests.phase_ne_running still running, rests.iteration⟩
  | true =>
    cases call with
    | tick now source =>
      obtain ⟨sampled, same, _⟩ := sampled_of_running running
      refine .inr ⟨e.sampledBy source now r, ?_, same.symm⟩
      rw [eventsOf, if_pos sampled, samplesOf_append]
      exact List.mem_append_left _ List.mem_cons_self
    | _ => cases ticks

/-- An iteration that is under way between two calls has a sample; `earlier` are those taken before. -/
theorem exists_sample_of_running (earlier : List Sampled) (calls : List (Call ρ))
    (begun : e.phase = .running → ∃ s ∈ earlier, s.iteration = e.iteration)
    (running : (e.afterAll r calls).1.phase = .running) :
    ∃ s ∈ earlier ++ e.samples r calls, s.iteration = (e.afterAll r calls).1.iteration := by
  induction calls generalizing e r earlier with
  | nil =>
    obtain ⟨s, member, same⟩ := begun running
    exact ⟨s, List.mem_append_left _ member, same⟩
  | cons call rest ih =>
    rw [samples_cons, ← List.append_assoc]
    refine ih _ _ (fun going => ?_) running
    rcases running_after r going with ⟨before, same⟩ | ⟨s, member, same⟩
    · obtain ⟨s, member, current⟩ := begun before
      exact ⟨s, List.mem_append_left _ member, current.trans same.symm⟩
    · exact ⟨s, List.mem_append_right _ member, same⟩

/-- Without an earlier reading in the iteration an edge does not end it. -/
theorem checkStop_of_fresh (edge : e.configuration.stop.condition.isEdge = true) (fresh : e.stopSeen = none)
    (running : e.phase = .running) :
    (e.checkStop source r).1.iteration = e.iteration ∧ (e.checkStop source r).1.phase ≠ .completed := by
  have going : e.phase ≠ .completed := by
    rw [running]
    decide
  unfold checkStop
  split
  next =>
    rw [fresh]
    rcases check : source.check e.configuration.stop none r with ⟨fault | found, next⟩
    · have broken : (e.fail fault).phase ≠ .completed := by
        rw [phase_fail (isTerminal_of_running running)]
        decide
      exact ⟨rfl, broken⟩
    · have unmet : ¬found.met = true := by simp [source.met_of_isEdge edge check]
      dsimp only
      rw [if_neg unmet]
      exact ⟨rfl, going⟩
  next => exact ⟨rfl, going⟩

/-- If the stop trigger has not been read yet, only the quota ends the iteration behind the row. -/
theorem lastRow_of_endsIteration {opened : Engine} (edge : opened.configuration.stop.condition.isEdge = true)
    (fresh : opened.stopSeen = none) (running : opened.phase = .running)
    (same : opened.iteration = e.iteration) (sampled : (opened.sample source now r).sampled = true)
    (ends : e.endsIteration (opened.sample source now r).engine = true) : opened.lastRow = true := by
  unfold sample at sampled ends
  rcases read : source.readAll opened.configuration.tracked r with ⟨fault | values, behind⟩ <;>
    rw [read] at sampled ends
  · cases sampled
  rw [← quotaReached_store now running values]
  by_cases full : (opened.store now values).quotaReached = true
  · exact full
  obtain ⟨current, going⟩ :=
    checkStop_of_fresh (e := opened.store now values) source behind edge fresh running
  simp only [if_neg full] at ends
  rw [endsIteration_of_phase_ne (current.trans same) going] at ends
  cases ends

/-- A tick that finds no iteration under way and stores a row has opened one, and has forgotten what the stop
trigger has seen. -/
theorem opened_of_sampled (still : e.phase ≠ .running) (sampled : (e.tick source now r).sampled = true) :
    ∃ opened next, opened.phase = .running ∧ opened.stopSeen = none ∧ e.Opening now opened ∧
      e.tick source now r = opened.sample source now next := by
  have opening := awaitStart_opening source now e r
  unfold tick at sampled ⊢
  generalize e.awaitStart source now r = checked at opening sampled ⊢
  obtain ⟨opened, next⟩ := checked
  simp only at opening sampled ⊢
  by_cases running : opened.phase = .running
  swap
  · rw [if_pos running] at sampled
    cases sampled
  rw [if_neg (not_not.2 running)] at sampled ⊢
  by_cases elapsed : opened.durationOver now = true
  · rw [if_pos elapsed] at sampled
    cases sampled
  rw [if_neg elapsed]
  refine ⟨opened, next, running, ?_, opening, rfl⟩
  cases opening with
  | idle _ => exact absurd running still
  | failed ready fault =>
    rw [phase_fail (by rw [ready]; rfl)] at running
    cases running
  | waiting ready _ => exact absurd running still
  | opened ready _ => rfl

/-- Behind the first row of an iteration only the quota ends it. -/
theorem endsIteration_of_firstSample (edge : e.configuration.stop.condition.isEdge = true)
    (still : e.phase ≠ .running) (sampled : (e.tick source now r).sampled = true)
    (ends : e.endsIteration (e.tick source now r).engine = true) : e.phase = .ready ∧ e.lastRow = true := by
  obtain ⟨opened, next, running, fresh, opening, tick⟩ := opened_of_sampled source now r still sampled
  rw [tick] at sampled ends
  rw [← opening.configuration] at edge
  have last := lastRow_of_endsIteration source now next edge fresh running opening.iteration sampled ends
  refine ⟨?_, by rwa [← opening.lastRow now running]⟩
  cases opening with
  | idle _ => exact absurd running still
  | failed ready _ | waiting ready _ | opened ready _ => exact ready

/-! ## Every run -/

theorem valid_of_new? (accepted : new? c = .ok made) : c.validate = .ok () := by
  unfold new? at accepted
  rcases valid : c.validate with defect | _
  · rw [valid] at accepted
    cases accepted
  · rfl

/-- The quota is the number of samples that the configuration gives, and there is none in software. -/
theorem Sized.quota_eq {capacity : Nat} {quota : Option Nat} (sized : Sized c capacity quota)
    (valid : c.validate = .ok ()) : quota = c.sampleCount := by
  cases software : c.software with
  | true => rw [(sized.software software).2, Configuration.sampleCount_of_software software]
  | false => rw [(sized.firmware software).1, Configuration.sampleCount_of_firmware valid software]

theorem made_of_new? (accepted : new? c = .ok made) : made.phase = .configured ∧ made.startSeen = none := by
  obtain ⟨_, _, _, rfl, _⟩ := new?_eq_ok accepted
  exact ⟨rfl, rfl⟩

/-- The first tick of a wait opens no iteration; `opening` is the call by which the wait begins. -/
theorem tick_of_beginsWait (accepted : new? c = .ok made) (edge : c.start.condition.isEdge = true)
    (before : List (Call ρ)) (opening : Call ρ) {quiet : List (Call ρ)}
    (begins : (made.afterAll r before).1.BeginsWait (made.afterAll r (before ++ [opening])).1)
    (still : ∀ call ∈ quiet, call.isTick = false) (source : Source σ) (now : Nat) (s : σ) :
    let e := (made.afterAll r (before ++ opening :: quiet)).1
    let done := e.tick source now s
    done.sampled = false ∧ (done.engine.phase = e.phase ∨ done.engine.phase = .failed) ∧
      done.engine.phase ≠ .running ∧ done.engine.iteration = e.iteration := by
  intro e done
  have unread : made.Unread := fun _ => (made_of_new? accepted).2
  rw [afterAll_append] at begins
  have fresh := startSeen_of_beginsWait _ (unread.afterAll r before) begins
  have going : ((made.afterAll r before).1.after (made.afterAll r before).2 opening).1.phase ≠ .running :=
    fun running => by cases begins.1.symm.trans running
  have waiting : e.startSeen = none ∧ e.phase ≠ .running := by
    simp only [e, afterAll_append]
    exact rested_afterAll _ quiet still fresh going
  have edge : e.configuration.start.condition.isEdge = true := by
    obtain ⟨_, _, _, _, collects⟩ :=
      ((Reached.of_new accepted).afterAll r (before ++ opening :: quiet)).collects
    rwa [collects.configured]
  obtain ⟨none, phase, same⟩ := tick_of_freshWait source now s edge waiting.1 waiting.2
  refine ⟨none, phase, fun running => ?_, same⟩
  rcases phase with kept | failed
  · exact waiting.2 (kept.symm.trans running)
  · cases failed.symm.trans running

/-- A tick that ends an iteration behind the first sample has reached the quota. -/
theorem sampleCount_of_firstSample (accepted : new? c = .ok made) (edge : c.stop.condition.isEdge = true)
    (calls : List (Call ρ)) (source : Source σ) (now : Nat) (s : σ) :
    let e := (made.afterAll r calls).1
    let done := e.tick source now s
    (∀ earlier ∈ made.samples r calls, earlier.iteration ≠ e.iteration) → done.sampled = true →
      e.endsIteration done.engine = true → c.sampleCount = some 1 := by
  intro e done first sampled ends
  have idle : made.phase ≠ .running := by
    rw [(made_of_new? accepted).1]
    decide
  have still : e.phase ≠ .running := by
    intro running
    obtain ⟨earlier, member, same⟩ :=
      exists_sample_of_running r [] calls (fun going => absurd going idle) running
    exact first earlier member same
  obtain ⟨_, quota, _, sized, collects⟩ := ((Reached.of_new accepted).afterAll r calls).collects
  have edge : e.configuration.stop.condition.isEdge = true := by rwa [collects.configured]
  obtain ⟨ready, last⟩ := endsIteration_of_firstSample source now s edge still sampled ends
  have positive := sized.planned
  have limited : e.quota = quota := collects.limited
  rw [lastRow, if_pos ready, limited] at last
  rw [← sized.quota_eq (valid_of_new? accepted)]
  cases quota with
  | none => cases last
  | some quota =>
    have few : quota ≤ 1 := by simpa using last
    have some := positive quota rfl
    rw [show quota = 1 by omega]

/-- **Edges need a change.** Of the conditions of a value, the comparisons exclude each other, the opposites
are opposite and an edge has a direction, and no word is too small to tell. A reading that did not change is
no edge. So a run whose start trigger is an edge opens no iteration in the first tick of a wait, and one whose
stop trigger is an edge ends no iteration behind its first sample, unless the quota is that one sample. -/
theorem edges_need_change :
    (∀ (previous current : Int64) (value : UInt32),
      Condition.Family previous.toInt current.toInt value ∧
        ∀ condition : Condition, condition.holdsInWords? previous current value =
          some (condition.holds previous.toInt current.toInt value)) ∧
      (∀ condition : Condition, condition.isEdge = true → ∀ (reading : Int64) (value : UInt32),
        condition.holds reading.toInt reading.toInt value = false) ∧
      ∀ (ρ σ : Type) (c : Configuration) (made : Engine) (r : ρ), new? c = .ok made →
        (c.start.condition.isEdge = true →
          ∀ (before : List (Call ρ)) (opening : Call ρ) (quiet : List (Call ρ)),
          (made.afterAll r before).1.BeginsWait (made.afterAll r (before ++ [opening])).1 →
          (∀ call ∈ quiet, call.isTick = false) →
          ∀ (source : Source σ) (now : Nat) (s : σ),
            let e := (made.afterAll r (before ++ opening :: quiet)).1
            let done := e.tick source now s
            done.sampled = false ∧ (done.engine.phase = e.phase ∨ done.engine.phase = .failed) ∧
              done.engine.phase ≠ .running ∧ done.engine.iteration = e.iteration) ∧
        (c.stop.condition.isEdge = true →
          ∀ (calls : List (Call ρ)) (source : Source σ) (now : Nat) (s : σ),
          let e := (made.afterAll r calls).1
          let done := e.tick source now s
          (∀ earlier ∈ made.samples r calls, earlier.iteration ≠ e.iteration) → done.sampled = true →
            e.endsIteration done.engine = true → c.sampleCount = some 1) := by
  refine ⟨fun previous current value => ⟨Condition.family _ _ value,
      fun condition => condition.holdsInWords?_eq previous current value⟩,
    fun condition edge reading value => Condition.holds_of_isEdge edge _ value, ?_⟩
  intro ρ σ c made r accepted
  exact ⟨fun edge before opening _ begins still source now s =>
      tick_of_beginsWait r accepted edge before opening begins still source now s,
    fun edge calls source now s => sampleCount_of_firstSample r accepted edge calls source now s⟩

/-- A firmware sampler that takes one sample whenever a bit rises; another bit would stop it. -/
def onRise : Configuration :=
  { Configuration.ofMode .repetitive with
    period := 10
    duration := 5
    start := ⟨.bitRises, ⟨0x2400, 1⟩, 0⟩
    stop := ⟨.bitToggles, ⟨0x2400, 2⟩, 0⟩
    tracked := [⟨0x2000, 0⟩] }

/-- Registers with the given readings for the triggers. -/
def bits (start stop : Int) : Source Unit := fun a r =>
  (.ok (if a = ⟨0x2400, 1⟩ then start else if a = ⟨0x2400, 2⟩ then stop else 7), r)

/-- The bit rises once and stays set. It has opened one iteration, which its only sample ended; when the sampler
waits anew, the set bit is no rise. The readings that are farthest apart differ by more than any threshold. -/
theorem edges_of_onRise :
    let made := prepare onRise 254 (some 1)
    let rises : List (Call Unit) := [.arm, .tick 0 (bits 0 1)]
    let opening : Call Unit := .tick 10 (bits 1 1)
    let e := (made.afterAll () (rises ++ opening :: [.takeData])).1
    new? onRise = .ok made ∧
      (made.afterAll () rises).1.BeginsWait (made.afterAll () (rises ++ [opening])).1 ∧
      (e.tick (bits 1 0) 20 ()).sampled = false ∧
      onRise.sampleCount = some 1 ∧
      ∃ up down, Condition.threshold up = 0x7FFFFFFF ∧ Condition.threshold down = -0x7FFFFFFF ∧
        (Condition.oneEdge.holds Int64.minValue.toInt Int64.maxValue.toInt up ||
          Condition.oneEdge.holds Int64.minValue.toInt Int64.maxValue.toInt down) = true := by
  intro made rises opening e
  obtain ⟨conditions, -, runs⟩ := edges_need_change
  have accepted : new? onRise = .ok made := rfl
  have begins : (made.afterAll () rises).1.BeginsWait (made.afterAll () (rises ++ [opening])).1 := by decide
  obtain ⟨starts, stops⟩ := runs Unit Unit onRise made () accepted
  obtain ⟨none, -⟩ := starts rfl rises opening [.takeData] begins (by simp [Call.isTick]) (bits 1 0) 20 ()
  refine ⟨accepted, begins, none, stops rfl rises (bits 1 1) 10 () (by decide) (by decide) (by decide), ?_⟩
  obtain ⟨family, words⟩ := conditions Int64.minValue Int64.maxValue 0x7FFFFFFF
  obtain ⟨up, down, upwards, downwards, edge⟩ := family.directions (by decide) (by decide)
  have far : Condition.multiEdge.holdsInWords? Int64.minValue Int64.maxValue 0x7FFFFFFF = some true := by
    decide
  exact ⟨up, down, upwards.trans (by decide), downwards.trans (by decide),
    edge.symm.trans (Option.some.inj ((words .multiEdge).symm.trans far))⟩

end Engine

end TriggeredSampler
