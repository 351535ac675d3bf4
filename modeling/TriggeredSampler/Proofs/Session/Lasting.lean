import TriggeredSampler.Proofs.Session.Settled

/-! # What lasts while a run goes on

While no configuration is accepted and no start takes place, few things happen to a session: its lifecycle
turns, it is dropped, reports wait for its handler, and its handler is shown notices. A property that each of
them keeps (`Session.Lasting`) is kept by every operation.

* `Session.Gives` — the notice of a report, and the closing notice.
* `Session.Steady`, `Session.Lasting` — the properties that last.
* `Session.Lasting.deliver`, `Session.Lasting.line` — the delivery of a report, and a request.
* `Session.Lasting.perform` — the commands.
-/

namespace TriggeredSampler

variable {σ : Type}

/-- The start that a command asks for: with a handler or without, and the tag. For a handler without a thread
none is asked for. -/
def Command.start? : Command → Option (Option (List Reaction) × Int)
  | .start tag => some (none, tag)
  | .startNotified reactions tag none => some (some reactions, tag)
  | _ => none

/-- A failure that can end a run: the fault of a device, or a breach of the protocol. -/
def Failure.endsRun : Failure → Bool
  | .device _ => true
  | .protocol _ => true
  | _ => false

/-- A phase for which a configuration is needed. -/
def Phase.isPrepared (p : Phase) : Bool := p == .configured || p.isActive

/-- What can happen to a lifecycle until a configuration is accepted or a start takes place. -/
inductive Lifecycle.Turn (l : Lifecycle Failure) : Lifecycle Failure → Prop where
  | fail {f : Failure} (ends : f.endsRun = true) : Turn l (l.fail f).2
  | cancel : Turn l l.cancel.2
  | follow {reported : Phase} {changed : Bool} {l' : Lifecycle Failure}
      (followed : l.follow reported = .ok (changed, l')) : Turn l l'

namespace Lifecycle.Turn

variable {l l' : Lifecycle Failure}

theorem refl (l : Lifecycle Failure) : l.Turn l := .follow l.follow_phase

theorem onward (turn : l.Turn l') : l.Onward l' := by
  cases turn with
  | fail _ => exact .fail _ _
  | cancel => exact .cancel _
  | follow followed => exact .follow followed

/-- Only a failure that can end a run is ever the cause of one. -/
theorem endsRun (turn : l.Turn l') (sincere : ∀ f, l = .failed f → f.endsRun = true) (f : Failure)
    (failed : l' = .failed f) : f.endsRun = true := by
  cases ended : l.phase.isTerminal with
  | true =>
    rw [turn.onward.ended ended] at failed
    exact sincere f failed
  | false =>
    cases turn with
    | fail ends =>
      rw [fail_of_not_isTerminal ended] at failed
      cases failed
      exact ends
    | cancel =>
      rw [cancel_of_not_isTerminal ended] at failed
      cases failed
    | @follow reported _ _ followed =>
      -- a failed phase is never followed
      cases l <;> cases ended <;> cases reported <;> cases followed <;> cases failed

/-- A session is prepared for a run, or in one, only if it was so before. -/
theorem isPrepared_of (turn : l.Turn l') (prepared : l'.phase.isPrepared = true) :
    l.phase.isPrepared = true := by
  cases l with
  | configured | ready | running => rfl
  | completed | failed _ | cancelled =>
    rw [turn.onward.ended rfl] at prepared
    cases prepared
  | unconfigured =>
    cases turn with
    | fail _ => cases prepared
    | cancel => cases prepared
    | @follow reported _ _ followed => cases reported <;> cases followed <;> cases prepared

end Lifecycle.Turn

/-! ## Notices -/

namespace Session

variable {s s' : Session} {d : Delivery} {notice : Notice}

theorem follow_turn (s : Session) (reported : Phase) (fault : Option DeviceFault) :
    s.lifecycle.Turn (s.follow reported fault).lifecycle := by
  unfold Session.follow
  split
  next => cases fault <;> exact .fail rfl
  next =>
    split
    next followed => exact .follow followed
    next => exact .fail rfl

/-- A session gives its handler a notice: the notice tells the state behind it, and its rows are the
samples of its data, in the order they are numbered in. -/
structure Gives (s : Session) (notice : Notice) (s' : Session) : Prop where
  frame : s' = { s with lifecycle := s'.lifecycle, numbering := s'.numbering }
  turn : s.lifecycle.Turn s'.lifecycle
  phase : notice.phase = s'.phase
  failure : notice.failure = s'.failure
  numbers : s.numbering.number notice.data = (.ok notice.rows, s'.numbering)

theorem gives_closing (s : Session) (d : Delivery) : s.Gives (s.closing d) s :=
  ⟨rfl, .refl _, rfl, rfl, rfl⟩

theorem gives_accept (same : s.numbering.tracked = s.tracked) (report : Report) :
    s.Gives (s.accept report).1 (s.accept report).2.2 := by
  cases checked : s.checkData report.data with
  | error breach =>
    -- none of the data is shown, and none of it is numbered
    simp only [accept, checked]
    exact ⟨rfl, .fail rfl, rfl, rfl, rfl⟩
  | ok _ =>
    have whole := checkData_eq_ok_iff.1 checked
    obtain ⟨rows, numbered⟩ := s.numbering.number_of_whole (by rw [same]; exact whole)
    have result : s.number report.data =
        (.ok rows, { s with numbering := (s.numbering.number report.data).2 }) := by
      rw [← numbered]
      rfl
    simp only [accept, checked, result]
    rw [follow_numbering, follow_eq]
    exact ⟨rfl, s.follow_turn report.phase report.fault, rfl, rfl, by simp only [notice, ← numbered]⟩

/-! ## Lasting properties -/

/-- A property that is kept while nobody is shown anything. -/
structure Steady (P : Session → Prop) : Prop where
  turn : ∀ {s l}, P s → s.lifecycle.Turn l → P { s with lifecycle := l }
  leave : ∀ {s}, P s → P { s with live := false }
  queue : ∀ {s d} queue, P s → s.delivery = some d → P { s with delivery := some { d with queue := queue } }

/-- What came of a reaction to a notice: a stop ends the run, and does nothing if it was over. -/
structure Reacts (notice : Notice) (reaction : Reaction) (outcome : Outcome) (s : Session) : Prop where
  stopped : reaction = .stop → s.phase.isTerminal = true
  again : reaction = .stop → notice.phase.isTerminal = true → outcome = .finished (.ok ())

/-- The property `P` lasts while a run goes on; `M` is what is left of it while the handler reacts to a
notice. -/
structure Lasting (P : Session → Prop) (M : Notice → Reaction → Session → Prop) : Prop extends Steady P where
  reacting : ∀ notice reaction, Steady (M notice reaction)
  shown : ∀ {s s' d notice}, s.Sound → s.delivery = some d → s.Gives notice s' → P s →
    M notice (d.reactions.headD .nothing)
      { s' with delivery := some { d with reactions := d.reactions.tail } }
  noted : ∀ {s notice reaction outcome}, M notice reaction s → Reacts notice reaction outcome s →
    P { s with notes := s.notes ++ [⟨notice, outcome⟩], panic := Station.panicOf reaction <|> s.panic }
  hush : ∀ {s}, P s → P { s with delivery := none }

namespace Steady

variable {P : Session → Prop} {st : Station (Journal σ)}

theorem arrive (steady : Steady P) (holds : P s) (reports : List Report) : P (s.arrive reports) := by
  cases delivery : s.delivery with
  | none => rwa [arrive_of_none delivery]
  | some d =>
    have waits := steady.queue (d.queue ++ reports) holds delivery
    rw [Session.arrive, delivery]
    exact waits

theorem lineInside (steady : Steady P) (dev : Device σ) (holds : P st.session) (r : Request) :
    P (Station.lineInside dev.journaled r st).2.session := by
  obtain ⟨a, reports, device, eq⟩ := Station.lineInside_eq dev r st
  rw [eq]
  exact steady.arrive holds reports

theorem stop {line : Station.Line (Journal σ)} (steady : Steady P) (holds : P st.session)
    (asked : P (line .stop st).2.session) : P (st.stop line).2.session := by
  rw [Station.stop]
  split
  next => exact holds
  next =>
    split
    next => exact steady.turn holds .cancel
    next =>
      generalize line .stop st = outcome at asked ⊢
      obtain ⟨result, after⟩ := outcome
      cases result with
      | error reason => exact steady.turn asked (.fail rfl)
      | ok _ => exact steady.turn asked .cancel

theorem release {line : Station.Line (Journal σ)} (steady : Steady P) (holds : P st.session)
    (stopped : P (({ st with session := { st.session with live := false } } :
      Station (Journal σ)).stop line).2.session) : P (st.release line).session := by
  simp only [Station.release]
  split
  next => exact stopped
  next => exact steady.leave holds

theorem react (steady : Steady P) (dev : Device σ) (holds : P st.session)
    (notified : st.session.notified = true) (reaction : Reaction) :
    P (st.react dev.journaled reaction).2.session := by
  have stops : ∀ {st : Station (Journal σ)}, P st.session →
      P (st.stop (Station.lineInside dev.journaled)).2.session := fun holds =>
    steady.stop holds (steady.lineInside dev holds .stop)
  cases reaction with
  | stop => exact stops holds
  | drop =>
    simp only [Station.react]
    split
    next => exact steady.release holds (stops (steady.leave holds))
    next => exact holds
  | poll =>
    simp only [Station.react, Station.poll, notified, if_true]
    split <;> exact holds
  | _ => exact holds

end Steady

theorem react_reacts (dev : Device σ) {st : Station (Journal σ)} (same : notice.phase = st.session.phase)
    (reaction : Reaction) :
    Reacts notice reaction (st.react dev.journaled reaction).1
      (st.react dev.journaled reaction).2.session where
  stopped := by
    rintro rfl
    obtain ⟨_, _, ended, _⟩ := Station.stop_inside dev st
    exact ended
  again := by
    rintro rfl ended
    rw [same] at ended
    simp only [Station.react, Station.stop, ended, if_true]

namespace Lasting

variable {P : Session → Prop} {M : Notice → Reaction → Session → Prop} (dev : Device σ)
  {st : Station (Journal σ)} {gone : Bool}

/-! ## The delivery of reports -/

theorem present (lasting : Lasting P M) (delivery : st.session.delivery = some d)
    (notified : st.session.notified = true) (same : notice.phase = st.session.phase)
    (shows : M notice (d.reactions.headD .nothing)
      (st.awaiting { d with reactions := d.reactions.tail }).session) :
    P (st.present dev.journaled notice).session := by
  have reacting := lasting.reacting notice (d.reactions.headD .nothing)
  have kept := reacting.react dev shows notified (d.reactions.headD .nothing)
  have reacts := @react_reacts _ notice dev (st.awaiting { d with reactions := d.reactions.tail }) same
    (d.reactions.headD .nothing)
  have noted := lasting.noted kept reacts
  have notifies := Station.notify_eq_noting dev.journaled delivery notice rfl
  simp only [Station.present, notifies]
  split
  next => exact lasting.hush noted
  next => exact noted

theorem deliver (lasting : Lasting P M) (sound : st.session.Sound) (delivery : st.session.delivery = some d)
    (report : Report) (holds : P st.session) : P (st.deliver dev.journaled report).session := by
  have gives := gives_accept sound.numbering report
  simp only [Station.deliver]
  generalize st.session.accept report = result at gives ⊢
  obtain ⟨notice, malformed, session⟩ := result
  simp only at gives ⊢
  have shows := lasting.shown sound delivery gives holds
  have waiting : session.delivery = some d := by rw [gives.frame]; exact delivery
  have notified : session.notified = true := by rw [gives.frame]; exact sound.notified delivery
  cases malformed with
  | false => exact lasting.present dev waiting notified gives.phase shows
  | true =>
    -- what the stop raises waits behind the other reports
    obtain ⟨a, reports, device, eq⟩ := Station.lineInside_eq dev .stop ⟨session, st.device⟩
    simp only [if_true, eq]
    have arrived := (lasting.reacting _ _).arrive shows reports
    have waiting' : (session.arrive reports).delivery = some (d.arrive reports) := by
      simp [Session.arrive, waiting]
    exact lasting.present dev waiting' notified gives.phase arrived

theorem drain (lasting : Lasting P M) (sound : st.session.Sound) (holds : P st.session) (rounds : Nat) :
    P (st.drain dev.journaled rounds).session := by
  -- by induction on the rounds
  induction rounds generalizing st with
  | zero => exact holds
  | succ rounds ih =>
    rw [Station.drain]
    split
    next => exact holds
    next report rest dequeue =>
      obtain ⟨d, notice, arrived, delivery, rfl, keeps, delivers⟩ :=
        Station.dequeue_delivers dev sound dequeue
      have taken := lasting.queue d.queue holds delivery
      have delivered := lasting.deliver dev (keeps.sound sound) rfl report taken
      exact ih ((keeps.trans delivers.keeps).sound sound) delivered

theorem receive (lasting : Lasting P M) (sound : st.session.Sound) (report : Report) (holds : P st.session) :
    P (st.receive dev.journaled report).session := by
  have queued : P (st.enqueue dev.journaled report).session := by
    obtain ⟨device, eq⟩ := Station.enqueue_eq dev report st
    rw [eq]
    exact lasting.arrive holds [report]
  exact lasting.drain dev ((Station.enqueue_keeps dev report).sound sound) queued _

theorem foldl_receive (lasting : Lasting P M) (calm : Station.Calm none gone st) (reports : List Report)
    (holds : P st.session) : P (reports.foldl (Station.receive dev.journaled) st).session := by
  -- by induction on the reports
  induction reports generalizing st with
  | nil => exact holds
  | cons report rest ih =>
    exact ih (calm.receive dev report) (lasting.receive dev calm.sound report holds)

theorem close (lasting : Lasting P M) (sound : st.session.Sound) (holds : P st.session) :
    P (st.close dev.journaled).session := by
  rw [Station.close]
  split
  next => exact holds
  next d delivery =>
    split
    next =>
      have shows := lasting.shown sound delivery (gives_closing _ d) holds
      exact lasting.present dev delivery (sound.notified delivery) rfl shows
    next => exact holds

/-! ## Requests of the owner -/

/-- A request, be it that of a start. -/
theorem asks (lasting : Lasting P M) {r : Request}
    (asking : ∀ raised, Station.Calm none gone (st.entered raised (.asked r))) (holds : P st.session) :
    P (Station.line dev.journaled r st).2.session := by
  obtain ⟨reports, raised, a, device, eq⟩ := Station.line_eq dev r st
  rw [eq]
  exact lasting.foldl_receive dev (asking raised) reports holds

theorem line (lasting : Lasting P M) (calm : Station.Calm none gone st) {r : Request}
    (other : (Entry.asked r).ofStart = false) (holds : P st.session) :
    P (Station.line dev.journaled r st).2.session :=
  lasting.asks dev (fun raised => (calm.entered raised other rfl).1) holds

theorem halt (lasting : Lasting P M) (calm : Station.Calm none gone st) (holds : P st.session) :
    P (st.halt dev.journaled).2.session :=
  lasting.stop holds (lasting.line dev calm rfl holds)

theorem fail (lasting : Lasting P M) {f : Failure} (ends : f.endsRun = true) (holds : P st.session) :
    P (st.fail f).session :=
  lasting.turn holds (.fail ends)

theorem follow (lasting : Lasting P M) (reported : Phase) (fault : Option DeviceFault)
    (holds : P st.session) : P (st.session.follow reported fault) := by
  rw [Session.follow_eq]
  exact lasting.turn holds (st.session.follow_turn reported fault)

theorem refresh (lasting : Lasting P M) (calm : Station.Calm none gone st) (holds : P st.session) :
    P (st.refresh (Station.line dev.journaled)).2.session := by
  have asked := lasting.line dev calm (r := .phase) rfl holds
  have calm := (calm.line dev (r := .phase) rfl).1
  rw [Station.refresh]
  generalize Station.line dev.journaled .phase st = outcome at asked calm ⊢
  obtain ⟨result, after⟩ := outcome
  cases result with
  | error _ => exact lasting.fail rfl asked
  | ok reported =>
    simp only [Station.faultBehind]
    split
    next => exact lasting.follow _ _ (lasting.line dev calm (r := .fault) rfl asked)
    next => exact lasting.follow _ _ asked

theorem fetch (lasting : Lasting P M) (calm : Station.Calm none gone st) (holds : P st.session) :
    P (st.fetch (Station.line dev.journaled)).2.session := by
  have asked := lasting.line dev calm (r := .data) rfl holds
  have calm := (calm.line dev (r := .data) rfl).1
  rw [Station.fetch]
  generalize Station.line dev.journaled .data st = outcome at asked calm ⊢
  obtain ⟨result, after⟩ := outcome
  cases result with
  | error _ => exact lasting.fail rfl asked
  | ok data =>
    simp only
    split
    next breach _ =>
      have failed : P (after.fail (.ofBreach breach)).session := lasting.fail rfl asked
      exact lasting.line dev (calm.onward (.fail _ _)) (r := .stop) rfl failed
    next => exact asked

theorem poll (lasting : Lasting P M) (calm : Station.Calm none gone st) (holds : P st.session) :
    P (st.poll (Station.line dev.journaled)).2.session := by
  have refreshed := lasting.refresh dev calm holds
  have calm := (calm.refresh dev).1
  rw [Station.poll]
  split
  next => exact holds
  next =>
    split
    next => exact holds
    next =>
      generalize st.refresh (Station.line dev.journaled) = outcome at refreshed calm ⊢
      obtain ⟨result, after⟩ := outcome
      cases result with
      | error _ => exact refreshed
      | ok _ => exact lasting.fetch dev calm refreshed

theorem drop (lasting : Lasting P M) (calm : Station.Calm none gone st) (holds : P st.session) :
    P (st.drop dev.journaled).session := by
  rw [Station.drop]
  split
  next =>
    obtain ⟨released, idle⟩ := calm.release dev
    rw [Station.join_eq_close dev.journaled released.sound released.idle idle]
    have left : P { st.session with live := false } := lasting.leave holds
    exact lasting.close dev released.sound
      (lasting.release holds (lasting.halt dev calm.abandoned left))
  next => exact holds

/-- A configuration that is not accepted. -/
theorem configure (lasting : Lasting P M) (calm : Station.Calm none gone st) {c : Configuration}
    (refused : (st.configure dev.journaled c).1 ≠ .ok ()) (holds : P st.session) :
    P (st.configure dev.journaled c).2.session := by
  rw [Station.configure] at refused ⊢
  split
  next => exact holds
  next valid =>
    simp only [valid] at refused
    split
    next => exact holds
    next idle =>
      rw [if_neg idle] at refused
      have idle : st.session.phase.isActive = false := by simpa using idle
      rw [Station.join_eq_close dev.journaled calm.sound calm.idle idle] at refused ⊢
      have closed := (calm.close dev).1
      have asked := lasting.line dev closed (r := .configure c) rfl (lasting.close dev calm.sound holds)
      generalize Station.line dev.journaled (.configure c) (st.close dev.journaled) = outcome
        at asked refused ⊢
      obtain ⟨result, after⟩ := outcome
      cases result with
      | error _ => exact lasting.fail rfl asked
      | ok _ =>
        simp only at refused ⊢
        split
        next => exact asked
        next accepted => simp [accepted] at refused

/-! ## Starting -/

theorem writeTrigger (lasting : Lasting P M) (calm : Station.Calm none gone st) (trigger : Trigger)
    (offset : Int) (holds : P st.session) :
    P (st.writeTrigger dev.journaled trigger offset).2.session := by
  rw [Station.writeTrigger]
  split
  next => exact lasting.line dev calm rfl holds
  next => exact holds

theorem activate (lasting : Lasting P M) (calm : Station.Calm none gone st) (trigger : Trigger)
    (holds : P st.session) : P (st.activate dev.journaled trigger).2.session := by
  have written := lasting.writeTrigger dev calm trigger 1 holds
  have calm := (calm.writeTrigger dev trigger 1).1
  rw [Station.activate]
  generalize st.writeTrigger dev.journaled trigger 1 = outcome at written calm ⊢
  obtain ⟨result, after⟩ := outcome
  cases result with
  | ok _ => exact written
  | error reason =>
    simp only at written calm ⊢
    have failed : Station.Calm none gone (after.fail (.device reason)) := calm.onward (.fail _ _)
    obtain ⟨stopped, keeps⟩ := failed.line dev (r := .stop) rfl
    have idle := keeps.onward.idle (Phase.isActive_of_isTerminal (Lifecycle.isTerminal_fail _ _))
    rw [Station.join_eq_close dev.journaled stopped.sound stopped.idle idle]
    have halted := lasting.line dev failed (r := .stop) rfl (lasting.fail rfl written)
    exact lasting.close dev stopped.sound halted

/-- A start that is asked for; `P` has to hold of the session that asks its device for it. -/
theorem launched (lasting : Lasting P M) (calm : Station.Calm none gone st) (live : st.session.live = true)
    (trigger : Trigger) (handler : Option (List Reaction)) (tag : Int)
    (waiting : P (st.armed handler tag).session) :
    P (st.launched dev trigger handler tag).2.session := by
  rw [Station.launched]
  have asked := lasting.asks dev (calm.asking handler tag) waiting
  obtain ⟨a, running, starts, started, _⟩ := Station.Calm.startLine dev (calm.asking handler tag) live
  rw [starts] at asked ⊢
  cases a with
  | error fault =>
    have failed : P (running.fail (.device fault)).session := lasting.fail rfl asked
    obtain dropped | held := Station.join_dismiss dev.journaled (running.fail (.device fault))
    · simp only [dropped]
      exact lasting.hush failed
    · have calm : Station.Calm none gone (running.fail (.device fault)) := started.toCalm.onward (.fail _ _)
      have idle : (running.fail (.device fault)).session.phase.isActive = false :=
        Phase.isActive_of_isTerminal (Lifecycle.isTerminal_fail _ _)
      simp only [held, Station.join_eq_close dev.journaled calm.sound calm.idle idle]
      exact lasting.close dev calm.sound failed
  | ok _ => exact lasting.activate dev started.toCalm trigger asked

theorem start (lasting : Lasting P M) (settled : Station.Settled none gone st)
    (live : st.session.live = true) (handler : Option (List Reaction)) (tag : Int) (refusal : Option String)
    (armed : Station.threadFault handler refusal = none → st.session.phase = .configured →
      P (st.armed handler tag).session) (holds : P st.session) :
    P (st.start dev.journaled handler tag refusal).2.session := by
  cases startable : st.startTrigger with
  | error m =>
    rw [Station.start, startable]
    exact holds
  | ok trigger =>
    obtain ⟨configured, eq⟩ := Station.start_eq dev settled.sound startable handler tag refusal
    have closed := settled.sound.delivery_of_configured configured
    have same := Station.writeTrigger_closed dev closed trigger 0
    have calm := (settled.writeTrigger dev trigger 0).1
    rw [eq]
    generalize st.writeTrigger dev.journaled trigger 0 = written at same calm ⊢
    obtain ⟨result, after⟩ := written
    replace same : after.session = st.session := same
    cases result with
    | error _ =>
      apply lasting.fail rfl
      rw [same]
      exact holds
    | ok _ =>
      simp only
      split
      next => rwa [same]
      next thread =>
        apply lasting.launched dev calm (same ▸ live) trigger handler tag
        simp only [Station.armed, same]
        exact armed thread configured

/-! ## Commands -/

theorem pass (lasting : Lasting P M) (calm : Station.Calm none gone st) (holds : P st.session) :
    Station.Calm none gone (st.pass dev.journaled) ∧ P (st.pass dev.journaled).session := by
  have quiet : Adds st.device.entries (dev.journaled.advance st.device).2.entries [] := .refl _
  have moved : Station.Calm none gone { st with device := (dev.journaled.advance st.device).2 } :=
    calm.unchanged (Station.keeps_device quiet) rfl rfl quiet
  apply Station.pass_induction (P := fun st => Station.Calm none gone st ∧ P st.session) ⟨moved, holds⟩
  intro after report ⟨calm, holds⟩
  exact ⟨calm.receive dev report, lasting.receive dev calm.sound report holds⟩

theorem waits (lasting : Lasting P M) :
    Station.Waits dev.journaled (fun st => Station.Calm none gone st ∧ P st.session) fun _ => True where
  timeout _ := trivial
  refresh _ holds :=
    ⟨⟨(holds.1.refresh dev).1, lasting.refresh dev holds.1 holds.2⟩, fun _ _ => trivial⟩
  close _ holds := ⟨(holds.1.close dev).1, lasting.close dev holds.1.sound holds.2⟩
  pass _ holds := lasting.pass dev holds.1 holds.2

/-- The commands keep `P`. Three of them change more than the course of a run, so something has to be said
about the session that a configuration, a start or a numbering leads to. -/
theorem perform (lasting : Lasting P M) (settled : Station.Settled none gone st)
    (live : st.session.live = true) (holds : P st.session) {command : Command}
    (refused : ∀ c, command = .configure c → (st.configure dev.journaled c).1 ≠ .ok ())
    (armed : ∀ handler tag, command.start? = some (handler, tag) → st.session.phase = .configured →
      P (st.armed handler tag).session)
    (numbered : command = .pollRows → ∀ {s} data, P s → P (s.number data).2) :
    P (st.perform dev.journaled command).2.session := by
  have calm := settled.toCalm
  cases command with
  | configure c => exact lasting.configure dev calm (refused c rfl) holds
  | start tag => exact lasting.start dev settled live none tag none (fun _ => armed none tag rfl) holds
  | startNotified reactions tag refusal =>
    apply lasting.start dev settled live (some reactions) tag refusal _ holds
    intro thread
    cases refusal with
    | none => exact armed (some reactions) tag rfl
    | some _ => cases thread
  | stop => exact lasting.halt dev calm holds
  | poll => exact lasting.poll dev calm holds
  | pollRows =>
    have polled := lasting.poll dev calm holds
    simp only [Station.perform, Station.pollRows]
    generalize st.poll (Station.line dev.journaled) = outcome at polled ⊢
    obtain ⟨result, after⟩ := outcome
    cases result with
    | error _ => exact polled
    | ok data => exact numbered rfl data polled
  | refresh => exact lasting.refresh dev calm holds
  | waitRunning => exact ((lasting.waits dev).waitUntil _ ⟨calm, holds⟩ _).holds.2
  | waitFinished => exact ((lasting.waits dev).waitUntil _ ⟨calm, holds⟩ _).holds.2
  | deviceConfiguration => exact lasting.line dev calm rfl holds
  | drop => exact lasting.drop dev calm holds

end Lasting

end Session

end TriggeredSampler
