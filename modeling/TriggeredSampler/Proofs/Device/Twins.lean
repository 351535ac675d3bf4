import TriggeredSampler.Proofs.Device.Joined

/-! # One run, polled and reported

Two devices go through the same run, one to be polled and the other reporting. A tick hands out no more than
one row, which one device adds to what waits, and the other reports.

* `Engine.Drained` — an engine between two ticks.
* `Engine.Drained.tick` — one tick, and the row that it hands out.
* `Node.Twins.pass` — a millisecond passes for the two devices.
-/

namespace TriggeredSampler

namespace Engine

variable {ρ : Type} {c : Configuration} {e done opened : Engine} {n : Numbering} {sampled : Bool}

/-! ## The iteration behind a tick -/

/-- What a tick did to an active engine, and whether it stored a row. -/
inductive Progress (e : Engine) : Engine → Bool → Prop where
  /-- The wait goes on. -/
  | waits {done : Engine} (ready : e.phase = .ready) (still : done.phase = .ready)
      (same : done.iteration = e.iteration) : Progress e done false
  /-- The iteration ended, behind a row or with its duration. -/
  | closes {done : Engine} {sampled : Bool} (running : sampled = false → e.phase = .running)
      (ended : done.phase ≠ .running)
      (again : done.phase = .ready → done.iteration = e.iteration + 1) : Progress e done sampled
  /-- The iteration goes on behind a row. -/
  | goes {done : Engine} (running : done.phase = .running) (same : done.iteration = e.iteration) :
      Progress e done true
  /-- The run failed. -/
  | fails {done : Engine} {sampled : Bool} (failed : done.phase = .failed) : Progress e done sampled

theorem progress_closeIteration (stored : Engine) (phase : stored.phase = .running)
    (same : stored.iteration = e.iteration) (running : sampled = false → e.phase = .running) :
    Progress e stored.closeIteration sampled := by
  have closed := phase_closeIteration phase
  have counted := iteration_closeIteration (e := stored)
  by_cases again : stored.configuration.mode = .repetitive
  · rw [if_pos again] at closed counted
    exact .closes running (by simp [closed]) fun _ => by rw [counted, same]
  · rw [if_neg again] at closed
    exact .closes running (by simp [closed]) fun ready => by simp [closed] at ready

/-- An iteration is not over at the tick that opens it. -/
theorem durationOver_openIteration (e : Engine) (now : Nat) :
    (e.openIteration now).durationOver now = false := by
  unfold durationOver openIteration
  simp only [Nat.sub_self, UInt32.lt_iff_toNat_lt, UInt32.toNat_zero]
  by_cases none : e.configuration.duration.toNat = 0 <;> simp [none]

theorem tick_progress (source : Source ρ) (now : Nat) (r : ρ) (active : e.phase.isActive = true) :
    Progress e (e.tick source now r).engine (e.tick source now r).sampled := by
  have opening := awaitStart_opening source now e r
  have advance := tick_advance source now e r
  have same := opening.iteration
  generalize (e.awaitStart source now r).1 = opened, (e.tick source now r).engine = done,
    (e.tick source now r).sampled = sampled at opening advance same ⊢
  cases advance with
  | idle still =>
    cases opening with
    | idle busy => cases phase : e.phase <;> simp_all [Phase.isActive]
    | failed ready fault => exact .fails (phase_fail (by rw [ready]; rfl))
    | waiting ready seen => exact .waits ready ready rfl
    | opened ready seen =>
      exact absurd (phase_openIteration now (e := { e with startSeen := seen }) ready) still
  | elapsed running past =>
    cases opening with
    | idle busy => exact progress_closeIteration e running rfl fun _ => running
    | failed ready fault => simp [phase_fail (e := e) (by rw [ready]; rfl)] at running
    | waiting ready seen => cases ready.symm.trans running
    | opened ready seen => simp [durationOver_openIteration] at past
  | failed running fault => exact .fails (phase_fail (by rw [running]; rfl))
  | full running values next read full =>
    exact progress_closeIteration (opened.store now values) running same (by simp)
  | stopped running values next read seen =>
    exact progress_closeIteration { opened.store now values with stopSeen := seen } running same
      (by simp)
  | stopFailed running values next read room fault =>
    have going : (opened.store now values).phase.isTerminal = false := by
      rw [show (opened.store now values).phase = .running from running]
      rfl
    exact .fails (phase_fail going)
  | kept running values next read room seen => exact .goes running same

/-! ## The row of a tick -/

/-- An engine between two ticks, whose rows were all handed out and numbered up to `n`. A running one is in
the iteration of the last row; one that waits is in the next iteration, or in the first one. -/
structure Drained (c : Configuration) (n : Numbering) (e : Engine) : Prop where
  width : 0 < c.tracked.length
  collects : ∃ capacity quota, 0 < capacity ∧ (∀ q ∈ quota, 0 < q) ∧ Collects c capacity quota [] e
  finished : e.finished = []
  begun : e.phase.begun = true
  waiting : e.phase = .ready →
    (e.iteration = n.iteration ∧ n.next = 0) ∨ (0 < n.next ∧ e.iteration = n.iteration + 1)
  running : e.phase = .running → 0 < n.next ∧ e.iteration = n.iteration

/-- The iteration of the next row is that of the last one, or the next. -/
theorem Drained.next (drained : Drained c n e) (active : e.phase.isActive = true) :
    e.iteration = n.iteration ∨ 0 < n.next ∧ e.iteration = n.iteration + 1 := by
  cases phase : e.phase with
  | ready => exact (drained.waiting phase).imp And.left id
  | running => exact .inl (drained.running phase).2
  | _ => simp [phase, Phase.isActive] at active

theorem batchesOf_singleton {capacity : Nat} (some : 0 < capacity) (s : Sampled) :
    batchesOf capacity [s] = [⟨s.iteration, s.row⟩] := by
  unfold batchesOf
  rw [rtake_of_length_le some]
  simp

/-- What is handed out behind a tick is the row that it stored. -/
theorem Drained.handed (drained : Drained c n e) (source : Source ρ) (now : Nat) (r : ρ) :
    if (e.tick source now r).sampled then
      (e.sampledBy source now r).row.length = c.tracked.length ∧
        (e.tick source now r).engine.takeData.1 = [⟨e.iteration, (e.sampledBy source now r).row⟩]
    else (e.tick source now r).engine.takeData.1 = [] := by
  obtain ⟨capacity, quota, some, planned, collects⟩ := drained.collects
  obtain ⟨handed, proper⟩ := collects.run drained.width planned r [.tick now source]
  have batches : (e.tick source now r).engine.takeData.1 = e.handedOut r [.tick now source] := rfl
  rw [batches, handed, drained.finished, List.nil_append]
  by_cases sampled : (e.tick source now r).sampled = true
  · have segments : [e.sampledBy source now r] ∈ segmentsFrom [] (e.events r [.tick now source]) := by
      by_cases ends : e.endsIteration (e.tick source now r).engine = true <;>
        simp [events, eventsOf, sampled, ends, segmentsFrom]
    obtain ⟨_, proper⟩ := proper _ segments
    rw [if_pos sampled]
    refine ⟨proper.length_row _ (by simp), ?_⟩
    have batch : (segmentsFrom [] (e.events r [.tick now source])).flatMap (batchesOf capacity) =
        batchesOf capacity [e.sampledBy source now r] := by
      by_cases ends : e.endsIteration (e.tick source now r).engine = true <;>
        simp [events, eventsOf, sampled, ends, segmentsFrom, batchesOf]
    rw [batch, batchesOf_singleton some]
    rfl
  · rw [if_neg sampled]
    by_cases ends : e.endsIteration (e.tick source now r).engine = true <;>
      simp [events, eventsOf, sampled, ends, segmentsFrom, batchesOf]

/-- Nothing is handed out when the run is cancelled between two ticks. -/
theorem Drained.handed_cancel (drained : Drained c n e) : e.cancel.2.takeData.1 = [] := by
  obtain ⟨capacity, quota, some, planned, collects⟩ := drained.collects
  obtain ⟨handed, -⟩ := collects.run drained.width planned () [.cancel]
  have batches : e.cancel.2.takeData.1 = e.handedOut () [.cancel] := rfl
  rw [batches, handed, drained.finished]
  simp [events, eventsOf, segmentsFrom, batchesOf]

/-- Behind a tick and the row that it stored, the next row goes on from there. -/
theorem Drained.behind {m : Numbering} (drained : Drained c n e) (active : e.phase.isActive = true)
    (source : Source ρ) (now : Nat) (r : ρ)
    (reached : if (e.tick source now r).sampled then 0 < m.next ∧ m.iteration = e.iteration else m = n) :
    Drained c m (e.tick source now r).engine.takeData.2 := by
  obtain ⟨capacity, quota, some, planned, collects⟩ := drained.collects
  obtain ⟨_, _, passes⟩ := collects.tick drained.width planned source now r
  have begun := begun_tick source now r drained.begun
  have progress := tick_progress source now r active
  have stored := (passes.collects.takeData drained.width).2
  generalize (e.tick source now r).engine = done, (e.tick source now r).sampled = sampled
    at begun progress stored reached ⊢
  have phase : done.takeData.2.phase = done.phase := phase_flush done
  have iteration : done.takeData.2.iteration = done.iteration := by
    rw [Engine.takeData, flush_eq]
  refine ⟨drained.width, ⟨capacity, quota, some, planned, stored⟩, rfl, by rw [phase]; exact begun, ?_, ?_⟩
  · intro ready
    rw [phase] at ready
    rw [iteration]
    cases progress with
    | waits waiting still same =>
      obtain rfl : m = n := reached
      rw [same]
      exact drained.waiting waiting
    | closes running ended again =>
      right
      rw [again ready]
      cases sampled with
      | true => exact ⟨reached.1, by rw [reached.2]⟩
      | false =>
        obtain rfl : m = n := reached
        obtain ⟨some, same⟩ := drained.running (running rfl)
        exact ⟨some, by rw [same]⟩
    | goes running same => cases ready.symm.trans running
    | fails failed => cases ready.symm.trans failed
  · intro running
    rw [phase] at running
    rw [iteration]
    cases progress with
    | waits _ still _ => cases running.symm.trans still
    | closes _ ended _ => exact absurd running ended
    | goes _ same => exact ⟨reached.1, by rw [same, reached.2]⟩
    | fails failed => cases running.symm.trans failed

/-- A tick of an active engine hands out no more than one row. -/
theorem Drained.tick (drained : Drained c n e) (active : e.phase.isActive = true) (source : Source ρ)
    (now : Nat) (r : ρ) :
    ((e.tick source now r).engine.takeData.1 = [] ∧
        Drained c n (e.tick source now r).engine.takeData.2) ∨
      ∃ readings, readings.length = c.tracked.length ∧
        (e.tick source now r).engine.takeData.1 = [⟨e.iteration, readings⟩] ∧
        Drained c (n.behind e.iteration) (e.tick source now r).engine.takeData.2 := by
  have handed := drained.handed source now r
  by_cases sampled : (e.tick source now r).sampled = true
  · rw [if_pos sampled] at handed
    obtain ⟨width, batch⟩ := handed
    refine .inr ⟨_, width, batch, drained.behind active source now r ?_⟩
    rw [if_pos sampled]
    exact ⟨n.next_behind e.iteration, n.iteration_behind e.iteration⟩
  · rw [if_neg sampled] at handed
    exact .inl ⟨handed, drained.behind active source now r (if_neg sampled ▸ rfl)⟩

/-- What a tick hands out is numbered behind the rows so far. -/
theorem Drained.rows (drained : Drained c n e) (tracked : n.tracked = c.tracked.length)
    (active : e.phase.isActive = true) (source : Source ρ) (now : Nat) (r : ρ) :
    ∃ rows n', n.number (e.tick source now r).engine.takeData.1 = (.ok rows, n') ∧
      n'.tracked = c.tracked.length ∧
      wholeSamples c.tracked.length (e.tick source now r).engine.takeData.1 = true ∧
      (∀ seen, Numbering.Reached seen n → Numbering.Reached (seen ++ rows) n') ∧
      Drained c n' (e.tick source now r).engine.takeData.2 ∧
      ((e.tick source now r).engine.takeData.1 = [] → n' = n) := by
  have some := drained.width
  rcases drained.tick active source now r with ⟨nothing, after⟩ | ⟨readings, width, batch, after⟩
  · rw [nothing]
    exact ⟨[], n, rfl, tracked, rfl, fun seen reached => by rwa [List.append_nil], after, fun _ => rfl⟩
  · rw [batch]
    rw [← tracked] at width some
    refine ⟨_, _, n.number_sample some e.iteration width, ?_, ?_, ?_, after, by simp⟩
    · rw [Numbering.tracked_behind, tracked]
    · rw [← tracked]
      simp [wholeSamples, width, Nat.ne_of_gt some]
    · exact fun seen reached => reached.concat (drained.next active) readings

/-- An engine that was just started. -/
theorem Drained.of_new {made : Engine} (accepted : new? c = .ok made) (armed : made.arm = .ok e) :
    Drained c (.start c.tracked.length) e := by
  obtain ⟨width, capacity, quota, rfl, sized⟩ := new?_eq_ok accepted
  have engine : { prepare c capacity quota with lifecycle := .ready } = e := Except.ok.inj armed
  obtain ⟨collects, finished⟩ := (Collects.prepare c capacity quota).arm armed
  subst engine
  refine ⟨width, ⟨capacity, quota, sized.capacity_pos, sized.planned, collects⟩, finished, rfl,
    fun _ => .inl ⟨rfl, rfl⟩, ?_⟩
  intro running
  cases running

end Engine

namespace Node

variable {c : Configuration} {n : Numbering} {m p q : Node} {w : Worker}

/-! ## A millisecond -/

/-- The worker behind its next tick. -/
def ticked (m : Node) (w : Worker) : Worker where
  engine := (w.engine.tick (fun a r => (m.read a, r)) (w.ticks * w.engine.configuration.period.toNat)
    ()).engine
  reported := w.reported
  tag := w.tag
  ticks := w.ticks + 1
  pause := w.engine.configuration.period.toNat

/-- A worker that is over does nothing, and one that pauses counts its pause. -/
theorem pass_of_idle (worker : m.worker = some w)
    (idle : w.engine.phase.isTerminal = true ∨ w.pause ≠ 0) :
    ∃ pause, m.pass =
      ([], { m with age := m.age + 1, worker := some { w with pause := pause } }) ∧
      pause = if w.engine.phase.isTerminal then w.pause else w.pause - 1 := by
  unfold pass
  rw [worker]
  simp only
  cases ended : w.engine.phase.isTerminal with
  | true => exact ⟨w.pause, by simp, rfl⟩
  | false =>
    have pausing : w.pause ≠ 0 := idle.resolve_left (by simp [ended])
    exact ⟨w.pause - 1, by simp [pausing, worker], rfl⟩

/-- A worker whose pause is over ticks and publishes. -/
theorem pass_of_due (worker : m.worker = some w) (going : w.engine.phase.isTerminal = false)
    (due : w.pause = 0) :
    let published := m.publish (m.ticked w) ((m.ticked w).engine.phase != w.engine.phase)
    m.pass = (published.1, { published.2 with
      age := m.age + 1
      worker := published.2.worker.map fun w => { w with pause := w.pause - 1 } }) := by
  intro published
  unfold pass
  rw [worker]
  simp only [going, due]
  rfl

theorem publish_of_polled (polled : w.reported = false) (changed : Bool) :
    m.publish w changed = ([], { m with
      worker := some { w with engine := w.engine.takeData.2 }
      status := ({ m.status with
        phase := w.engine.takeData.2.phase, fault := w.engine.takeData.2.fault }).buffer
          w.engine.takeData.1 }) := by
  simp [publish, polled]

theorem publish_of_reported (reported : w.reported = true) (changed : Bool) :
    m.publish w changed =
      (if changed || !w.engine.takeData.1.isEmpty then
          [⟨w.engine.takeData.2.phase, w.engine.takeData.2.fault, w.engine.takeData.1, w.tag⟩] else [],
        { m with
          worker := some { w with engine := w.engine.takeData.2 }
          status := { m.status with
            phase := w.engine.takeData.2.phase, fault := w.engine.takeData.2.fault } }) := by
  simp [publish, reported]

/-! ## Two devices -/

/-- Two devices on one run, whose rows are numbered up to `n`: `p` is polled, `q` reports. -/
structure Twins (c : Configuration) (n : Numbering) (p q : Node) : Prop where
  tracked : n.tracked = c.tracked.length
  registers : p.registers = q.registers
  age : p.age = q.age
  working : ∃ (e : Engine) (tag tag' : Int) (ticks pause : Nat),
    p.worker = some ⟨e, false, tag, ticks, pause⟩ ∧ q.worker = some ⟨e, true, tag', ticks, pause⟩ ∧
      p.status.phase = e.phase ∧ q.status.phase = e.phase ∧ e.Drained c n

theorem Twins.change (twins : Twins c n p q) (f : Registers → Registers) :
    Twins c n { p with registers := f p.registers } { q with registers := f q.registers } :=
  ⟨twins.tracked, congrArg f twins.registers, twins.age, twins.working⟩

/-- A device that starts to be polled starts to report as well. -/
theorem start_twins {tag : Int} (stored : m.record = some c.encode)
    (fits : c.tracked.length ≤ Configuration.maxTracked) (started : m.start false tag = (.ok (), p))
    (tag' : Int) :
    ∃ q, m.start true tag' = (.ok (), q) ∧ Twins c (.start c.tracked.length) p q ∧
      p.status = ⟨.ready, none, []⟩ ∧ q.status = ⟨.ready, none, []⟩ := by
  unfold start at started ⊢
  split at started
  next => cases started
  next accepts =>
    rw [if_neg accepts]
    split at started
    next => cases started
    next idle =>
      rw [if_neg idle]
      cases armed : m.armedEngine with
      | error fault => simp [armed] at started
      | ok e =>
        rw [armed] at started
        cases started
        obtain ⟨made, accepted, arms⟩ := armedEngine_eq_ok stored fits armed
        have ready := (works_armedEngine stored fits armed).1
        exact ⟨_, rfl, ⟨rfl, rfl, rfl, e, tag, tag', 0, 0, rfl, rfl, ready.symm, ready.symm,
          .of_new accepted arms⟩, rfl, rfl⟩

/-- The reporting device raises a report. Its rows go on behind those before, and the data joins what waits
at the polled device. -/
structure Tells (c : Configuration) (n n' : Numbering) (p q p' q' : Node) (report : Report)
    (rows : List Row) : Prop where
  twins : Twins c n' p' q'
  active : q.status.phase.isActive = true
  phase : report.phase = q'.status.phase
  begun : report.phase.begun = true
  explained : report.phase = .failed → report.fault.isSome = true
  whole : wholeSamples c.tracked.length report.data = true
  numbered : n.number report.data = (.ok rows, n')
  reached : ∀ seen, Numbering.Reached seen n → Numbering.Reached (seen ++ rows) n'
  buffered : p'.status.data = (p.status.buffer report.data).data

/-- A device that reports is silent, or its report tells the rows that a tick stored. -/
theorem Twins.pass (twins : Twins c n p q) :
    p.pass.1 = [] ∧
      ((q.pass.1 = [] ∧ Twins c n p.pass.2 q.pass.2 ∧ p.pass.2.status.data = p.status.data ∧
          q.pass.2.status.phase = q.status.phase) ∨
        ∃ report rows n', q.pass.1 = [report] ∧ Tells c n n' p q p.pass.2 q.pass.2 report rows) := by
  obtain ⟨e, tag, tag', ticks, pause, polled, reporting, phase, phase', drained⟩ := twins.working
  by_cases idle : e.phase.isTerminal = true ∨ pause ≠ 0
  · obtain ⟨left, passes, pauses⟩ := pass_of_idle polled idle
    obtain ⟨left', passes', pauses'⟩ := pass_of_idle reporting idle
    obtain rfl : left = left' := pauses.trans pauses'.symm
    rw [passes, passes']
    exact ⟨rfl, .inl ⟨rfl, ⟨twins.tracked, twins.registers, congrArg (· + 1) twins.age,
      e, tag, tag', ticks, left, rfl, rfl, phase, phase', drained⟩, rfl, rfl⟩⟩
  · obtain ⟨going, due⟩ := not_or.1 idle
    have going : e.phase.isTerminal = false := by simpa using going
    have active := Phase.isActive_of_begun drained.begun going
    have due : pause = 0 := by simpa using due
    have read : q.read = p.read := by
      funext a
      rw [read, read, twins.registers, twins.age]
    have passes := pass_of_due polled going due
    have passes' := pass_of_due reporting going due
    simp only [publish_of_polled, publish_of_reported, ticked, read] at passes passes'
    obtain ⟨rows, n', numbered, tracked, whole, reached, after, same⟩ :=
      drained.rows twins.tracked active (fun a r => (p.read a, r))
        (ticks * e.configuration.period.toNat) ()
    generalize (e.tick (fun a r => (p.read a, r)) (ticks * e.configuration.period.toNat) ()).engine = done
      at passes passes' numbered whole after same
    have twins' : Twins c n' p.pass.2 q.pass.2 := by
      rw [passes, passes']
      exact ⟨tracked, twins.registers, congrArg (· + 1) twins.age, done.takeData.2, tag, tag', ticks + 1,
        e.configuration.period.toNat - 1, rfl, rfl, rfl, rfl, after⟩
    refine ⟨by rw [passes], ?_⟩
    by_cases raised : (done.phase != e.phase || !done.takeData.1.isEmpty) = true
    · rw [if_pos raised] at passes'
      refine .inr ⟨⟨done.takeData.2.phase, done.takeData.2.fault, done.takeData.1, tag'⟩, rows, n',
        by rw [passes'], twins', ?_, ?_, after.begun, Engine.fault_of_failed, whole, numbered, reached, ?_⟩
      · rw [phase', active]
      · rw [passes']
      · rw [passes]
        rfl
    · -- neither a row nor a change of the phase, so nothing is different
      rw [if_neg raised] at passes'
      simp only [Bool.or_eq_true, bne_iff_ne, ne_eq, Bool.not_eq_true', not_or, Decidable.not_not,
        Bool.not_eq_false, List.isEmpty_iff] at raised
      obtain ⟨still, nothing⟩ := raised
      obtain rfl := same nothing
      refine .inl ⟨by rw [passes'], twins', ?_, ?_⟩
      · rw [passes, nothing]
        rfl
      · rw [passes', phase', ← still]
        exact Engine.phase_flush done

end Node

end TriggeredSampler
