import TriggeredSampler.Device.Node
import TriggeredSampler.Proofs.Configuration.RoundTrip
import TriggeredSampler.Proofs.Configuration.Validity
import TriggeredSampler.Proofs.Engine.Tidy

/-! # What a simulated device can do

A node stays `Node.Sound` whatever happens to it. Passing time and requests `Node.Drifts` it: a sampler
that is not active raises nothing and stays where it is, and one that was started stays started.

* `Node.pass_drifts` — a millisecond passes.
* `Node.stop_moves` — a stop leaves the sampler inactive.
* `Node.configure_eq_ok`, `Node.start_starts` — the requests that take an inactive sampler further.
* `Node.start_refused` — the start of a sampler that gets no thread; `Node.Unmanned` is what it leaves.
* `Node.answer_drifts` — all other requests.
-/

namespace TriggeredSampler

/-- A report that a sound sampler may have raised if it stands at `phase` by now. -/
structure Report.Fits (tracked : Nat) (phase : Phase) (report : Report) : Prop where
  whole : wholeSamples tracked report.data = true
  begun : report.phase.begun = true
  explained : report.phase = .failed → report.fault.isSome = true
  ended : report.phase.isTerminal = true → phase.isActive = false

theorem Report.Fits.idle {tracked : Nat} {phase phase' : Phase} {report : Report}
    (fits : report.Fits tracked phase) (idle : phase.isActive = false → phase'.isActive = false) :
    report.Fits tracked phase' :=
  ⟨fits.whole, fits.begun, fits.explained, fun ended => idle (fits.ended ended)⟩

/-- The request may take the sampler to another phase. -/
def Request.steers : Request → Bool
  | .configure _ | .start .. | .stop => true
  | _ => false

namespace Node

/-- The engine of the latest run. -/
def engine? (n : Node) : Option Engine := n.worker.map Worker.engine

/-- An engine that was started, with a configuration of `tracked` addresses. -/
structure Works (tracked : Nat) (e : Engine) : Prop where
  begun : e.phase.begun = true
  tidy : ∃ c : Configuration, c.tracked.length = tracked ∧ e.Tidy c

/-- An active sampler has an engine in its phase, and an engine that is not over is that of the sampler.
The data that waits holds whole samples, and a failure has a fault. -/
structure Sound (tracked : Nat) (n : Node) : Prop where
  whole : wholeSamples tracked n.status.data = true
  explained : n.status.phase = .failed → n.status.fault.isSome = true
  working : n.status.phase.isActive = true → ∃ e, n.engine? = some e ∧ e.phase = n.status.phase
  running : ∀ e, n.engine? = some e → e.phase.isTerminal = false →
    n.status.phase = e.phase ∧ Works tracked e

/-- What can become of a sampler, and the reports that it raises by that. -/
structure Moves (tracked : Nat) (n n' : Node) (reports : List Report) : Prop where
  sound : n'.Sound tracked
  fits : ∀ report ∈ reports, report.Fits tracked n'.status.phase
  begun : n.status.phase.begun = true → n'.status.phase.begun = true
  idle : n.status.phase.isActive = false → n'.status.phase.isActive = false ∧ reports = []

/-- What can become of a sampler that nobody configures, starts or stops. -/
structure Drifts (tracked : Nat) (n n' : Node) (reports : List Report) : Prop
    extends Moves tracked n n' reports where
  record : n'.record = n.record
  still : n.status.phase.isActive = false → n'.status.phase = n.status.phase

variable {tracked : Nat} {n n' n'' : Node} {w : Worker} {reports more : List Report}

theorem Moves.trans (first : Moves tracked n n' reports) (second : Moves tracked n' n'' more) :
    Moves tracked n n'' (reports ++ more) := by
  refine ⟨second.sound, ?_, fun begun => second.begun (first.begun begun), ?_⟩
  · intro report member
    cases List.mem_append.1 member with
    | inl early => exact (first.fits report early).idle fun idle => (second.idle idle).1
    | inr late => exact second.fits report late
  · intro idle
    obtain ⟨idle', rfl⟩ := first.idle idle
    obtain ⟨idle'', rfl⟩ := second.idle idle'
    exact ⟨idle'', rfl⟩

theorem Drifts.trans (first : Drifts tracked n n' reports) (second : Drifts tracked n' n'' more) :
    Drifts tracked n n'' (reports ++ more) := by
  refine ⟨first.toMoves.trans second.toMoves, second.record.trans first.record, ?_⟩
  intro idle
  rw [second.still (first.idle idle).1, first.still idle]

/-- Nothing but the phase, the fault, the data and the engine counts. -/
theorem Sound.congr (sound : n.Sound tracked) (phase : n'.status.phase = n.status.phase)
    (fault : n'.status.fault = n.status.fault) (data : wholeSamples tracked n'.status.data = true)
    (engine : n'.engine? = n.engine?) : n'.Sound tracked := by
  refine ⟨data, ?_, ?_, ?_⟩
  · rw [phase, fault]
    exact sound.explained
  · rw [phase, engine]
    exact sound.working
  · rw [phase, engine]
    exact sound.running

theorem Sound.drifts (sound : n.Sound tracked) (phase : n'.status.phase = n.status.phase)
    (fault : n'.status.fault = n.status.fault) (data : wholeSamples tracked n'.status.data = true)
    (engine : n'.engine? = n.engine?) (record : n'.record = n.record) : Drifts tracked n n' [] :=
  ⟨⟨sound.congr phase fault data engine, by simp, by rw [phase]; exact id,
    fun idle => ⟨by rw [phase, idle], rfl⟩⟩, record, fun _ => phase⟩

theorem Sound.refl (sound : n.Sound tracked) : Drifts tracked n n [] :=
  sound.drifts rfl rfl sound.whole rfl rfl

theorem sound_fresh (tracked : Nat) : fresh.Sound tracked :=
  ⟨rfl, by simp [fresh], by simp [fresh, Phase.isActive], by simp [fresh, engine?]⟩

/-- An inactive sampler has no engine that is not over. -/
theorem Sound.isTerminal_engine (sound : n.Sound tracked) (idle : n.status.phase.isActive = false)
    {e : Engine} (engine : n.engine? = some e) : e.phase.isTerminal = true := by
  by_contra going
  have going : e.phase.isTerminal = false := by simpa using going
  obtain ⟨phase, works⟩ := sound.running e engine going
  rw [phase, Phase.isActive_of_begun works.begun going] at idle
  cases idle

/-! ## Publishing -/

theorem wholeSamples_join {data : List Batch} {batch : Batch} (whole : wholeSamples tracked data = true)
    (next : wholeSamples tracked [batch] = true) :
    wholeSamples tracked (Batch.join data batch) = true := by
  induction data with
  | nil => exact next
  | cons first rest ih =>
    rw [← List.singleton_append, wholeSamples_append, Bool.and_eq_true] at whole
    cases rest with
    | nil =>
      unfold Batch.join
      split
      next =>
        simp only [wholeSamples, List.all_cons, List.all_nil, Bool.and_true, Bool.and_eq_true,
          bne_iff_ne, ne_eq, beq_iff_eq, List.length_append] at next whole ⊢
        exact ⟨next.1, by rw [Nat.add_mod, whole.1.2, next.2, Nat.zero_add, Nat.zero_mod]⟩
      next => rw [← List.singleton_append, wholeSamples_append, whole.1, next, Bool.and_true]
    | cons second rest =>
      unfold Batch.join
      rw [← List.singleton_append, wholeSamples_append, whole.1, ih whole.2, Bool.and_true]

theorem wholeSamples_buffer {batches : List Batch} (s : Status)
    (whole : wholeSamples tracked s.data = true) (next : wholeSamples tracked batches = true) :
    wholeSamples tracked (s.buffer batches).data = true := by
  unfold Status.buffer
  simp only
  generalize s.data = data at whole ⊢
  -- by induction on the batches that are added
  induction batches generalizing data with
  | nil => exact whole
  | cons batch rest ih =>
    rw [← List.singleton_append, wholeSamples_append, Bool.and_eq_true] at next
    exact ih next.2 _ (wholeSamples_join whole next.1)

/-- An engine hands out whole samples and goes on as it was. -/
theorem Works.takeData {e : Engine} (works : Works tracked e) :
    Works tracked e.takeData.2 ∧ wholeSamples tracked e.takeData.1 = true ∧
      e.takeData.2.phase = e.phase ∧ e.takeData.2.fault = e.fault := by
  obtain ⟨c, rfl, tidy⟩ := works.tidy
  obtain ⟨tidy', whole⟩ := tidy.call () (.takeData : Call Unit)
  have lifecycle : e.takeData.2.lifecycle = e.lifecycle := by
    rw [Engine.takeData, Engine.flush_eq]
  have phase : e.takeData.2.phase = e.phase := congrArg Lifecycle.phase lifecycle
  exact ⟨⟨by rw [phase]; exact works.begun, c, rfl, tidy'⟩, whole, phase,
    congrArg Lifecycle.cause lifecycle⟩

/-- An active sampler goes on as its engine does, and reports no other phase. -/
theorem Works.drifts {e : Engine} (works : Works tracked e) (active : n.status.phase.isActive = true)
    (phase : n'.status.phase = e.phase) (fault : n'.status.fault = e.fault)
    (data : wholeSamples tracked n'.status.data = true) (record : n'.record = n.record)
    (engine : n'.engine? = some e)
    (raised : ∀ report ∈ reports, report.phase = e.phase ∧ report.fault = e.fault ∧
      wholeSamples tracked report.data = true) : Drifts tracked n n' reports := by
  refine ⟨⟨⟨data, ?_, ?_, ?_⟩, ?_, ?_, by simp [active]⟩, record, by simp [active]⟩
  · rw [phase, fault]
    exact Engine.fault_of_failed
  · intro _
    exact ⟨e, engine, phase.symm⟩
  · intro e' engine' _
    obtain rfl := Option.some.inj (engine.symm.trans engine')
    exact ⟨phase, works⟩
  · intro report member
    obtain ⟨tells, blames, whole⟩ := raised report member
    rw [phase]
    refine ⟨whole, by rw [tells]; exact works.begun, ?_, ?_⟩
    · rw [tells, blames]
      exact Engine.fault_of_failed
    · rw [tells]
      exact Phase.isActive_of_isTerminal
  · intro _
    rw [phase]
    exact works.begun

/-- An active sampler publishes what became of its engine. -/
theorem publish_drifts (sound : n.Sound tracked) (active : n.status.phase.isActive = true)
    (works : Works tracked w.engine) (changed : Bool) :
    Drifts tracked n (n.publish w changed).2 (n.publish w changed).1 ∧
      (n.publish w changed).2.status.phase = w.engine.phase := by
  obtain ⟨works', whole, phase, fault⟩ := works.takeData
  unfold publish
  simp only
  split
  next =>
    -- the batches go with the report
    refine ⟨works'.drifts active rfl rfl sound.whole rfl rfl ?_, phase⟩
    intro report member
    split at member
    next =>
      obtain rfl := List.mem_singleton.1 member
      exact ⟨rfl, rfl, whole⟩
    next => cases member
  next =>
    -- or they wait to be polled
    exact ⟨works'.drifts active rfl rfl (wholeSamples_buffer _ sound.whole whole) rfl rfl (by simp), phase⟩

/-! ## Passing time -/

theorem Sound.active (sound : n.Sound tracked) {e : Engine} (engine : n.engine? = some e)
    (going : e.phase.isTerminal = false) : n.status.phase.isActive = true ∧ Works tracked e := by
  obtain ⟨phase, works⟩ := sound.running e engine going
  rw [phase]
  exact ⟨Phase.isActive_of_begun works.begun going, works⟩

theorem tick_drifts (sound : n.Sound tracked) (worker : n.worker = some w)
    (going : w.engine.phase.isTerminal = false) :
    Drifts tracked n (n.tick w).2 (n.tick w).1 := by
  obtain ⟨active, works⟩ := sound.active (e := w.engine) (by rw [engine?, worker]; rfl) going
  obtain ⟨c, width, tidy⟩ := works.tidy
  unfold tick
  refine (publish_drifts sound active ⟨?_, c, width, ?_⟩ _).1
  · exact Engine.begun_tick _ _ _ works.begun
  · exact (tidy.call () (.tick _ _)).1

theorem cancel_moves (sound : n.Sound tracked) (worker : n.worker = some w)
    (going : w.engine.phase.isTerminal = false) :
    Moves tracked n (n.cancel w).2 (n.cancel w).1 ∧
      (n.cancel w).2.status.phase.isActive = false := by
  obtain ⟨active, works⟩ := sound.active (e := w.engine) (by rw [engine?, worker]; rfl) going
  obtain ⟨c, width, tidy⟩ := works.tidy
  have ended : w.engine.cancel.2.phase.isTerminal = true := Lifecycle.isTerminal_cancel w.engine.lifecycle
  obtain ⟨drifts, phase⟩ := publish_drifts (w := { w with engine := w.engine.cancel.2 }) sound active
    ⟨Phase.begun_of_isTerminal ended, c, width, (tidy.call () (.cancel : Call Unit)).1⟩ true
  exact ⟨drifts.toMoves, by rw [cancel, phase]; exact Phase.isActive_of_isTerminal ended⟩

theorem pass_drifts (sound : n.Sound tracked) : Drifts tracked n n.pass.2 n.pass.1 := by
  unfold pass
  cases worker : n.worker with
  | none => exact sound.drifts rfl rfl sound.whole (by simp [engine?, worker]) rfl
  | some w =>
    simp only
    split
    next => exact sound.drifts rfl rfl sound.whole (by simp [engine?, worker]) rfl
    next going =>
      have ticks : Drifts tracked n (if w.pause = 0 then n.tick w else ([], n)).2
          (if w.pause = 0 then n.tick w else ([], n)).1 := by
        split
        next => exact tick_drifts sound worker (by simpa using going)
        next => exact sound.refl
      generalize (if w.pause = 0 then n.tick w else ([], n)) = ticked at ticks ⊢
      obtain ⟨reports, n'⟩ := ticked
      -- counting the time until the next tick changes nothing that is seen
      have waits : Drifts tracked n'
          { n' with age := n.age + 1, worker := n'.worker.map fun w => { w with pause := w.pause - 1 } }
          [] := by
        refine ticks.sound.drifts rfl rfl ticks.sound.whole ?_ rfl
        rw [engine?, engine?, Option.map_map]
        rfl
      simpa using ticks.trans waits

/-! ## Stopping -/

/-- A worker that is over, or missing, leaves its sampler inactive. -/
theorem Sound.idle (sound : n.Sound tracked)
    (ended : ∀ e, n.engine? = some e → e.phase.isTerminal = true) : n.status.phase.isActive = false := by
  by_contra active
  have active : n.status.phase.isActive = true := by simpa using active
  obtain ⟨e, engine, phase⟩ := sound.working active
  rw [← phase, Phase.isActive_of_isTerminal (ended e engine)] at active
  cases active

theorem Moves.dismiss (moves : Moves tracked n n' reports) (idle : n'.status.phase.isActive = false) :
    Moves tracked n { n' with worker := none } reports ∧ n'.status.phase.isActive = false := by
  refine ⟨⟨⟨moves.sound.whole, moves.sound.explained, ?_, by simp [engine?]⟩, moves.fits, moves.begun,
    moves.idle⟩, idle⟩
  intro active
  rw [idle] at active
  cases active

theorem stop_moves (sound : n.Sound tracked) :
    Moves tracked n n.stop.2 n.stop.1 ∧ n.stop.2.status.phase.isActive = false := by
  unfold stop
  cases worker : n.worker with
  | none =>
    have idle := sound.idle (by simp [engine?, worker])
    simp only
    split
    next => exact ⟨sound.refl.toMoves, idle⟩
    next =>
      exact ⟨⟨⟨sound.whole, by simp, by simp [Phase.isActive], by simp [engine?]⟩, by simp, fun _ => rfl,
        fun _ => ⟨rfl, rfl⟩⟩, rfl⟩
  | some w =>
    simp only
    -- the first tick of a worker that has not ticked yet
    have ticks : Drifts tracked n
        (if (w.ticks = 0 && !w.engine.phase.isTerminal) = true then n.tick w else ([], n)).2
        (if (w.ticks = 0 && !w.engine.phase.isTerminal) = true then n.tick w else ([], n)).1 := by
      split
      next first =>
        simp only [Bool.and_eq_true, Bool.not_eq_true'] at first
        exact tick_drifts sound worker first.2
      next => exact sound.refl
    generalize (if (w.ticks = 0 && !w.engine.phase.isTerminal) = true then n.tick w else ([], n)) = ticked
      at ticks ⊢
    obtain ⟨reports, n'⟩ := ticked
    simp only at ticks ⊢
    cases worker' : n'.worker with
    | none => simpa using ticks.toMoves.dismiss (ticks.sound.idle (by simp [engine?, worker']))
    | some w' =>
      simp only
      split
      next ended => simpa using ticks.toMoves.dismiss (ticks.sound.idle (by simp [engine?, worker', ended]))
      next going =>
        obtain ⟨moves, idle⟩ := cancel_moves ticks.sound worker' (by simpa using going)
        exact (ticks.toMoves.trans moves).dismiss idle

/-! ## Configuring and starting -/

theorem configure_eq_ok (sound : n.Sound tracked) (idle : n.status.phase.isActive = false)
    {c : Configuration} (valid : c.validate = .ok ()) :
    ∃ n', n.configure c = (.ok (), n') ∧ n'.Sound c.tracked.length ∧ n'.status = ⟨.configured, none, []⟩ ∧
      n'.record = some c.encode := by
  refine ⟨{ n with record := some c.encode, status := ⟨.configured, none, []⟩ }, ?_, ?_, rfl, rfl⟩
  · rw [configure, valid]
    simp [idle]
  · refine ⟨rfl, by simp, by simp [Phase.isActive], ?_⟩
    intro e engine going
    rw [sound.isTerminal_engine idle engine] at going
    cases going

/-- A device with a configuration stored makes an engine of it. -/
theorem armedEngine_eq_ok {c : Configuration} (stored : n.record = some c.encode)
    (fits : c.tracked.length ≤ Configuration.maxTracked) {e : Engine} (armed : n.armedEngine = .ok e) :
    ∃ made, Engine.new? c = .ok made ∧ made.arm = .ok e := by
  unfold armedEngine at armed
  rw [stored] at armed
  simp only [Configuration.recall, Configuration.decode_encode fits] at armed
  replace armed : ((Engine.new? c).mapError DeviceFault.ofDefect).bind (fun engine =>
    engine.arm.mapError fun m => ⟨.invalidArguments, 0, m.message⟩) = .ok e := armed
  cases made : Engine.new? c with
  | error defect =>
    rw [made] at armed
    cases armed
  | ok e₀ =>
    rw [made] at armed
    replace armed : e₀.arm.mapError _ = .ok e := armed
    cases arms : e₀.arm with
    | error m =>
      rw [arms] at armed
      cases armed
    | ok e₁ =>
      rw [arms] at armed
      obtain rfl : e₁ = e := Except.ok.inj armed
      exact ⟨e₀, rfl, arms⟩

theorem works_armedEngine {c : Configuration} (stored : n.record = some c.encode)
    (fits : c.tracked.length ≤ Configuration.maxTracked) {e : Engine} (armed : n.armedEngine = .ok e) :
    e.phase = .ready ∧ Works c.tracked.length e := by
  obtain ⟨made, accepted, arms⟩ := armedEngine_eq_ok stored fits armed
  have tidy : e.Tidy c := by
    have called := ((Engine.Tidy.of_new accepted).call () (.arm : Call Unit)).1
    rw [Engine.after, arms] at called
    exact called
  have ready : e.phase = .ready := by
    obtain ⟨_, rfl⟩ := Engine.arm_eq_ok arms
    rfl
  exact ⟨ready, by rw [ready]; rfl, c, rfl, tidy⟩

/-- A sound sampler is not active, and has a configuration of `tracked` addresses stored. -/
structure Prepared (tracked : Nat) (n : Node) : Prop where
  sound : n.Sound tracked
  idle : n.status.phase.isActive = false
  stored : ∃ c : Configuration, n.record = some c.encode ∧
    c.tracked.length ≤ Configuration.maxTracked ∧ c.tracked.length = tracked

/-- A prepared sampler refuses a start and stays as it is, or it gets as far as to ask for a thread. -/
theorem start_cases (prepared : n.Prepared tracked) (reported : Bool) (tag : Int)
    (refusal : Option String) :
    (∃ fault n', n.start reported tag refusal = (.error fault, n') ∧ Drifts tracked n n' []) ∨
      ∃ e, n.armedEngine = .ok e ∧ n.start reported tag refusal =
        ((refusal.map DeviceFault.ofRefusal).elim (.ok ()) .error,
          { n with
            status := ⟨.ready, none, []⟩
            worker := if refusal.isSome then none else some ⟨e, reported, tag, 0, 0⟩ }) := by
  unfold start
  split
  next => exact .inl ⟨_, _, rfl, prepared.sound.drifts rfl rfl prepared.sound.whole rfl rfl⟩
  next =>
    rw [if_neg (by simp [prepared.idle])]
    cases armed : n.armedEngine with
    | error fault => exact .inl ⟨fault, n, rfl, prepared.sound.refl⟩
    | ok e => cases refusal <;> exact .inr ⟨e, rfl, rfl⟩

/-- A prepared sampler starts, or refuses and stays as it is. -/
theorem start_starts (prepared : n.Prepared tracked) (reported : Bool) (tag : Int) :
    (∃ fault n', n.start reported tag = (.error fault, n') ∧ Drifts tracked n n' []) ∨
      ∃ n', n.start reported tag = (.ok (), n') ∧ n'.Sound tracked ∧ n'.status.phase = .ready := by
  obtain refused | ⟨e, armed, started⟩ := start_cases prepared reported tag none
  · exact .inl refused
  · obtain ⟨c, stored, fits, width⟩ := prepared.stored
    obtain ⟨ready, works⟩ := works_armedEngine stored fits armed
    rw [width] at works
    refine .inr ⟨_, started, ⟨rfl, by simp, fun _ => ⟨e, rfl, ready⟩, ?_⟩, rfl⟩
    intro e' engine _
    obtain rfl := Option.some.inj engine
    exact ⟨ready.symm, works⟩

/-! ## A sampler without a worker -/

/-- The refusal of an active sampler. -/
def busy : DeviceFault := ⟨.busy, 0, "sampler is active"⟩

/-- The sampler is ready, but nothing runs it: there was no thread for its worker. -/
structure Unmanned (n : Node) : Prop where
  status : n.status = ⟨.ready, none, []⟩
  worker : n.worker = none

/-- A prepared sampler that gets no thread refuses and stays as it is, or it is left without a worker. -/
theorem start_refused (prepared : n.Prepared tracked) (reported : Bool) (tag : Int) (reason : String) :
    (∃ fault n', n.start reported tag (some reason) = (.error fault, n') ∧ Drifts tracked n n' []) ∨
      ∃ n', n.start reported tag (some reason) = (.error (.ofRefusal reason), n') ∧ n'.Unmanned := by
  obtain refused | ⟨_, _, refused⟩ := start_cases prepared reported tag (some reason)
  · exact .inl refused
  · exact .inr ⟨_, refused, rfl, rfl⟩

/-- A sampler without a worker goes nowhere by itself, and raises nothing. -/
theorem Unmanned.pass (unmanned : n.Unmanned) : n.pass.2.Unmanned ∧ n.pass.1 = [] := by
  unfold Node.pass
  rw [unmanned.worker]
  exact ⟨⟨unmanned.status, rfl⟩, rfl⟩

/-- Nothing but a stop ends the state of a sampler without a worker. -/
theorem Unmanned.answer (unmanned : n.Unmanned) (r : Request) (refusal : Option String) :
    (n.answer r refusal).2.Unmanned := by
  have active : n.status.phase.isActive = true := by
    rw [unmanned.status]
    rfl
  cases r with
  | write => exact ⟨unmanned.status, unmanned.worker⟩
  | configure c =>
    simp only [Node.answer, configure]
    cases c.validate with
    | error _ => exact unmanned
    | ok _ =>
      simp only [active, if_true]
      exact unmanned
  | start =>
    simp only [Node.answer, start, active, if_true]
    split
    next => exact ⟨unmanned.status, unmanned.worker⟩
    next => exact unmanned
  | data =>
    refine ⟨?_, unmanned.worker⟩
    simp only [Node.answer, unmanned.status]
  | configuration | stop | phase | fault => exact unmanned

/-- A sampler without a worker is busy, and takes no configuration. -/
theorem Unmanned.configure (unmanned : n.Unmanned) {c : Configuration} (valid : c.validate = .ok ()) :
    n.configure c = (.error busy, n) := by
  unfold Node.configure
  rw [valid, unmanned.status]
  rfl

/-! ## Other requests -/

theorem answer_drifts (sound : n.Sound tracked) {r : Request} (other : r.steers = false) :
    n.Drifts tracked (n.answer r).2 [] := by
  cases r with
  | configure c => cases other
  | start reported tag => cases other
  | stop => cases other
  | write a value bits => exact sound.drifts rfl rfl sound.whole rfl rfl
  -- the buffer is empty behind a poll
  | data => exact sound.drifts rfl rfl rfl rfl rfl
  | configuration => exact sound.refl
  | phase => exact sound.refl
  | fault => exact sound.refl

end Node

end TriggeredSampler
