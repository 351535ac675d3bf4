import Mathlib.Data.List.Forall2
import TriggeredSampler.Session.Delivery

/-! # Sessions that go the same way

Two sessions are alike if they differ at most in what their handlers panic with. Whatever they are asked to
do, on devices that behave alike, they return the same and go on alike.

* `Session.Alike`, `Device.Matches` — sessions that are alike, and devices that behave alike.
* `Station.Concur` — two outcomes with the same result.
* `Station.Alike.lineInside` — the requests of two handlers.
* `Station.Alike.receive` — a report and all that it brings about.
-/

namespace TriggeredSampler

variable {σ τ α β : Type}

/-- The second reaction is the first one, or does nothing where the first one panics. -/
inductive Reaction.Calms : Reaction → Reaction → Prop where
  | same (reaction : Reaction) : Calms reaction reaction
  | calmed (message : Option String) : Calms (.panic message) .nothing

/-- Both failures are the same, or one of them is a panic. -/
def Failure.Alike (failure failure' : Option Failure) : Prop :=
  failure' = failure ∨ (∃ text, failure = some (.handlerPanicked text)) ∨
    ∃ text, failure' = some (.handlerPanicked text)

structure Notice.Alike (notice notice' : Notice) : Prop where
  frame : notice' = { notice with failure := notice'.failure }
  failure : Failure.Alike notice.failure notice'.failure

structure Note.Alike (note note' : Note) : Prop where
  notice : note.notice.Alike note'.notice
  outcome : note'.outcome = note.outcome

/-- The deliveries wait for the same reports; the second handler is calmer. -/
inductive Delivery.Alike (d : Delivery) : Delivery → Prop where
  | intro {reactions : List Reaction} (calms : List.Forall₂ Reaction.Calms d.reactions reactions) :
      Alike d { d with reactions := reactions }

/-- The sessions differ at most in the panics of their handlers. -/
inductive Session.Alike (s : Session) : Session → Prop where
  | intro {delivery : Option Delivery} (panic : Option String) {notes : List Note}
      (delivering : Option.Rel Delivery.Alike s.delivery delivery)
      (noted : List.Forall₂ Note.Alike s.notes notes) :
      Alike s { s with delivery := delivery, panic := panic, notes := notes }

/-- The devices behave alike in states that `D` relates, and come to such states. -/
structure Device.Matches (dev : Device σ) (dev' : Device τ) (D : σ → τ → Prop) : Prop where
  announce : ∀ {a b} h r, D a b →
    (dev'.announce h r b).1 = (dev.announce h r a).1 ∧ D (dev.announce h r a).2 (dev'.announce h r b).2
  answer : ∀ {a b} h r, D a b →
    (dev'.answer h r b).1 = (dev.answer h r a).1 ∧ D (dev.answer h r a).2 (dev'.answer h r b).2
  sent : ∀ {a b} h report heard, D a b → D (dev.sent h report heard a) (dev'.sent h report heard b)
  advance : ∀ {a b}, D a b →
    (dev'.advance b).1 = (dev.advance a).1 ∧ D (dev.advance a).2 (dev'.advance b).2
  holdsOn : ∀ {a b} h, D a b → dev'.holdsOn h b = dev.holdsOn h a

theorem Device.matches_self (dev : Device σ) : dev.Matches dev Eq where
  announce := by rintro a _ h r rfl; exact ⟨rfl, rfl⟩
  answer := by rintro a _ h r rfl; exact ⟨rfl, rfl⟩
  sent := by rintro a _ h report heard rfl; rfl
  advance := by rintro a _ rfl; exact ⟨rfl, rfl⟩
  holdsOn := by rintro a _ h rfl; rfl

namespace Reaction.Calms

variable {reactions reactions' : List Reaction}

theorem headD (calms : List.Forall₂ Calms reactions reactions') :
    (reactions.headD .nothing).Calms (reactions'.headD .nothing) := by
  cases calms with
  | nil => exact .same _
  | cons first _ => exact first

theorem tail (calms : List.Forall₂ Calms reactions reactions') :
    List.Forall₂ Calms reactions.tail reactions'.tail := by
  cases calms with
  | nil => exact .nil
  | cons _ rest => exact rest

theorem refl (reactions : List Reaction) : List.Forall₂ Calms reactions reactions :=
  List.forall₂_same.2 fun reaction _ => .same reaction

end Reaction.Calms

theorem Notice.Alike.phase {notice notice' : Notice} (alike : notice.Alike notice') :
    notice'.phase = notice.phase := by
  rw [alike.frame]

namespace Session

variable {s s' : Session}

namespace Alike

theorem refl (s : Session) : s.Alike s := by
  have delivering : Option.Rel Delivery.Alike s.delivery s.delivery := by
    cases s.delivery with
    | none => exact .none
    | some d => exact .some (.intro (Reaction.Calms.refl d.reactions))
  have noted : List.Forall₂ Note.Alike s.notes s.notes :=
    List.forall₂_same.2 fun note _ => ⟨⟨rfl, .inl rfl⟩, rfl⟩
  exact .intro s.panic delivering noted

theorem lifecycle (alike : s.Alike s') : s'.lifecycle = s.lifecycle := by cases alike; rfl
theorem phase (alike : s.Alike s') : s'.phase = s.phase := by cases alike; rfl
theorem handle (alike : s.Alike s') : s'.handle = s.handle := by cases alike; rfl
theorem options (alike : s.Alike s') : s'.options = s.options := by cases alike; rfl
theorem configuration (alike : s.Alike s') : s'.configuration = s.configuration := by cases alike; rfl
theorem tracked (alike : s.Alike s') : s'.tracked = s.tracked := by cases alike; rfl
theorem numbering (alike : s.Alike s') : s'.numbering = s.numbering := by cases alike; rfl
theorem notified (alike : s.Alike s') : s'.notified = s.notified := by cases alike; rfl
theorem live (alike : s.Alike s') : s'.live = s.live := by cases alike; rfl
theorem stalled (alike : s.Alike s') : s'.stalled = s.stalled := by cases alike; rfl

theorem delivery (alike : s.Alike s') : Option.Rel Delivery.Alike s.delivery s'.delivery := by
  cases alike with
  | intro _ delivering _ => exact delivering

theorem notes (alike : s.Alike s') : List.Forall₂ Note.Alike s.notes s'.notes := by
  cases alike with
  | intro _ _ noted => exact noted

theorem isSome_delivery (alike : s.Alike s') : s'.delivery.isSome = s.delivery.isSome := by
  have delivering := alike.delivery
  generalize s.delivery = delivery, s'.delivery = delivery' at delivering
  cases delivering <;> rfl

theorem failure (alike : s.Alike s') : Failure.Alike s.failure s'.failure := by
  cases alike with
  | intro panic _ _ =>
    simp only [Failure.Alike, Session.failure]
    cases s.lifecycle.cause <;> cases s.panic <;> cases panic <;> simp

theorem notice (alike : s.Alike s') (data : List Batch) (rows : List Row) (tag : Int) :
    (s.notice data rows tag).Alike (s'.notice data rows tag) :=
  ⟨by simp [Session.notice, alike.phase], alike.failure⟩

/-! ## Changes -/

theorem withLifecycle (alike : s.Alike s') (l : Lifecycle Failure) :
    Alike { s with lifecycle := l } { s' with lifecycle := l } := by
  cases alike with
  | intro panic delivering noted => exact .intro panic delivering noted

theorem fail (alike : s.Alike s') (f : Failure) : (s.fail f).Alike (s'.fail f) := by
  cases alike with
  | intro panic delivering noted => exact .intro panic delivering noted

theorem cancel (alike : s.Alike s') : s.cancel.Alike s'.cancel := by
  cases alike with
  | intro panic delivering noted => exact .intro panic delivering noted

theorem follow (alike : s.Alike s') (reported : Phase) (fault : Option DeviceFault) :
    (s.follow reported fault).Alike (s'.follow reported fault) := by
  simp only [Session.follow, alike.lifecycle, alike.phase]
  split
  next => exact alike.fail _
  next =>
    split
    next => exact alike.withLifecycle _
    next => exact alike.fail _

theorem checkData (alike : s.Alike s') (data : List Batch) : s'.checkData data = s.checkData data := by
  induction data with
  | nil => rfl
  | cons batch rest ih => simp only [Session.checkData, alike.tracked, ih]

theorem number (alike : s.Alike s') (data : List Batch) :
    (s'.number data).1 = (s.number data).1 ∧ (s.number data).2.Alike (s'.number data).2 := by
  cases alike with
  | intro panic delivering noted => exact ⟨rfl, .intro panic delivering noted⟩

theorem leave (alike : s.Alike s') : Alike { s with live := false } { s' with live := false } := by
  cases alike with
  | intro panic delivering noted => exact .intro panic delivering noted

theorem stall (alike : s.Alike s') : Alike { s with stalled := true } { s' with stalled := true } := by
  cases alike with
  | intro panic delivering noted => exact .intro panic delivering noted

theorem adopt (alike : s.Alike s') (c : Configuration) (l : Lifecycle Failure) :
    Alike
      { s with
        configuration := some c, lifecycle := l, tracked := c.tracked.length
        numbering := .start c.tracked.length, notified := false, panic := none }
      { s' with
        configuration := some c, lifecycle := l, tracked := c.tracked.length
        numbering := .start c.tracked.length, notified := false, panic := none } := by
  cases alike with
  | intro _ delivering noted => exact .intro none delivering noted

theorem openDelivery (alike : s.Alike s') {handler handler' : Option (List Reaction)}
    (calms : Option.Rel (List.Forall₂ Reaction.Calms) handler handler') (tag : Int) :
    Alike
      { s with
        notified := handler.isSome, delivery := handler.map fun reactions => ⟨tag, reactions, []⟩ }
      { s' with
        notified := handler'.isSome, delivery := handler'.map fun reactions => ⟨tag, reactions, []⟩ } := by
  cases alike with
  | intro panic _ noted =>
    cases calms with
    | none => exact .intro panic .none noted
    | some calms => exact .intro panic (.some (.intro calms)) noted

theorem deliver (alike : s.Alike s') {delivery delivery' : Option Delivery}
    (delivering : Option.Rel Delivery.Alike delivery delivery') :
    Alike { s with delivery := delivery } { s' with delivery := delivery' } := by
  cases alike with
  | intro panic _ noted => exact .intro panic delivering noted

theorem note (alike : s.Alike s') {notice notice' : Notice} (notices : notice.Alike notice')
    (outcome : Outcome) (panic panic' : Option String) :
    Alike { s with notes := s.notes ++ [⟨notice, outcome⟩], panic := panic }
      { s' with notes := s'.notes ++ [⟨notice', outcome⟩], panic := panic' } := by
  cases alike with
  | intro _ delivering noted =>
    exact .intro panic' delivering (List.rel_append noted (.cons ⟨notices, rfl⟩ .nil))

theorem accept (alike : s.Alike s') (report : Report) :
    (s.accept report).1.Alike (s'.accept report).1 ∧ (s'.accept report).2.1 = (s.accept report).2.1 ∧
      (s.accept report).2.2.Alike (s'.accept report).2.2 := by
  simp only [Session.accept, alike.checkData]
  cases s.checkData report.data with
  | error breach => exact ⟨(alike.fail _).notice .., rfl, alike.fail _⟩
  | ok _ =>
    obtain ⟨rows, numbered⟩ := alike.number report.data
    simp only
    generalize s.number report.data = outcome, s'.number report.data = outcome' at rows numbered ⊢
    obtain ⟨result, after⟩ := outcome
    obtain ⟨result', after'⟩ := outcome'
    obtain rfl : result' = result := rows
    cases result' with
    | error _ => exact ⟨numbered.notice .., rfl, numbered⟩
    | ok _ =>
      have followed := numbered.follow report.phase report.fault
      exact ⟨followed.notice .., rfl, followed⟩

end Alike

end Session

namespace Station

/-- The sessions are alike, and `D` relates the states of their devices. -/
structure Alike (D : σ → τ → Prop) (st : Station σ) (st' : Station τ) : Prop where
  session : st.session.Alike st'.session
  device : D st.device st'.device

/-- The results are the same, and the stations are alike. -/
inductive Concur (D : σ → τ → Prop) : α × Station σ → α × Station τ → Prop where
  | intro (result : α) {st : Station σ} {st' : Station τ} (alike : Alike D st st') :
      Concur D (result, st) (result, st')

/-- Requests on the two lines are answered alike. -/
def Line.Concur (D : σ → τ → Prop) (line : Line σ) (line' : Line τ) : Prop :=
  ∀ (r : Request) {st : Station σ} {st' : Station τ}, Alike D st st' →
    Station.Concur D (line r st) (line' r st')

variable {D : σ → τ → Prop}

namespace Concur

variable {outcome : α × Station σ} {outcome' : α × Station τ}

theorem map (concur : Concur D outcome outcome') (f : α → β) :
    Concur D (outcome.map f id) (outcome'.map f id) := by
  cases concur with
  | intro result alike => exact .intro (f result) alike

theorem result (concur : Concur D outcome outcome') : outcome'.1 = outcome.1 := by
  cases concur; rfl

theorem alike (concur : Concur D outcome outcome') : Alike D outcome.2 outcome'.2 := by
  cases concur with
  | intro _ alike => exact alike

theorem exists_eq {result : α} {st : Station σ} (concur : Concur D (result, st) outcome') :
    ∃ st', outcome' = (result, st') ∧ Alike D st st' := by
  cases concur with
  | intro _ alike => exact ⟨_, rfl, alike⟩

end Concur

namespace Alike

variable {dev : Device σ} {dev' : Device τ} {st : Station σ} {st' : Station τ}

theorem fail (alike : Alike D st st') (f : Failure) : Alike D (st.fail f) (st'.fail f) :=
  ⟨alike.session.fail f, alike.device⟩

/-! ## Operations that a handler may use -/

section

variable {line : Line σ} {line' : Line τ}

theorem stop (lines : line.Concur D line') (alike : Alike D st st') :
    Concur D (st.stop line) (st'.stop line') := by
  simp only [Station.stop, alike.session.phase]
  split
  next => exact .intro _ alike
  next =>
    split
    next => exact .intro _ ⟨alike.session.cancel, alike.device⟩
    next =>
      have asked := lines .stop alike
      generalize line .stop st = outcome, line' .stop st' = outcome' at asked ⊢
      cases asked with
      | intro answer asked =>
        cases answer with
        | error fault => exact .intro _ (asked.fail _)
        | ok _ => exact .intro _ ⟨asked.session.cancel, asked.device⟩

theorem refresh (lines : line.Concur D line') (alike : Alike D st st') :
    Concur D (st.refresh line) (st'.refresh line') := by
  simp only [Station.refresh]
  have asked := lines .phase alike
  generalize line .phase st = outcome, line' .phase st' = outcome' at asked ⊢
  cases asked with
  | @intro answer after after' asked =>
    cases answer with
    | error fault => exact .intro _ (asked.fail _)
    | ok reported =>
      have explained : Concur D (after.faultBehind line reported) (after'.faultBehind line' reported) := by
        simp only [faultBehind]
        split
        next => exact lines .fault asked
        next => exact .intro _ asked
      simp only
      generalize after.faultBehind line reported = outcome, after'.faultBehind line' reported = outcome'
        at explained ⊢
      cases explained with
      | intro fault explained =>
        have followed := explained.session.follow reported fault
        simp only [followed.phase]
        exact .intro _ ⟨followed, explained.device⟩

theorem fetch (lines : line.Concur D line') (alike : Alike D st st') :
    Concur D (st.fetch line) (st'.fetch line') := by
  simp only [Station.fetch]
  have asked := lines .data alike
  generalize line .data st = outcome, line' .data st' = outcome' at asked ⊢
  cases asked with
  | intro answer asked =>
    cases answer with
    | error fault => exact .intro _ (asked.fail _)
    | ok data =>
      simp only [asked.session.checkData]
      split
      next breach _ => exact .intro _ (lines .stop (asked.fail (.ofBreach breach))).alike
      next => exact .intro _ asked

theorem poll (lines : line.Concur D line') (alike : Alike D st st') :
    Concur D (st.poll line) (st'.poll line') := by
  simp only [Station.poll, alike.session.notified, alike.session.phase]
  split
  next => exact .intro _ alike
  next =>
    split
    next => exact .intro _ alike
    next =>
      have refreshed := alike.refresh lines
      generalize st.refresh line = outcome, st'.refresh line' = outcome' at refreshed ⊢
      cases refreshed with
      | intro result refreshed =>
        cases result with
        | error f => exact .intro _ refreshed
        | ok _ => exact refreshed.fetch lines

theorem release (lines : line.Concur D line') (alike : Alike D st st') :
    Alike D (st.release line) (st'.release line') := by
  have left : Alike D { st with session := { st.session with live := false } }
      { st' with session := { st'.session with live := false } } := ⟨alike.session.leave, alike.device⟩
  simp only [Station.release, left.session.phase]
  split
  next => exact (left.stop lines).alike
  next => exact left

end

/-! ## The delivery of reports -/

theorem announce (matching : dev.Matches dev' D) (alike : Alike D st st') (r : Request) :
    (dev'.announce st'.session.handle r st'.device).1 = (dev.announce st.session.handle r st.device).1 ∧
      Alike D { st with device := (dev.announce st.session.handle r st.device).2 }
        { st' with device := (dev'.announce st'.session.handle r st'.device).2 } := by
  rw [alike.session.handle]
  have announced := matching.announce st.session.handle r alike.device
  exact ⟨announced.1, alike.session, announced.2⟩

theorem answer (matching : dev.Matches dev' D) (alike : Alike D st st') (r : Request) :
    (dev'.answer st'.session.handle r st'.device).1 = (dev.answer st.session.handle r st.device).1 ∧
      Alike D { st with device := (dev.answer st.session.handle r st.device).2 }
        { st' with device := (dev'.answer st'.session.handle r st'.device).2 } := by
  rw [alike.session.handle]
  have answered := matching.answer st.session.handle r alike.device
  exact ⟨answered.1, alike.session, answered.2⟩

theorem enqueue (matching : dev.Matches dev' D) (alike : Alike D st st') (report : Report) :
    Alike D (st.enqueue dev report) (st'.enqueue dev' report) := by
  have sent := matching.sent st.session.handle report st.session.delivery.isSome alike.device
  obtain ⟨session, device⟩ := st
  obtain ⟨session', device'⟩ := st'
  obtain ⟨same, _⟩ := alike
  cases same with
  | intro panic delivering noted =>
    cases session with
    | mk _ _ _ _ _ _ _ delivery =>
      simp only at delivering sent noted
      cases delivering with
      | none => exact ⟨.intro panic .none noted, sent⟩
      | some same =>
        cases same with
        | intro calms => exact ⟨.intro panic (.some (.intro calms)) noted, sent⟩

theorem foldl_enqueue (matching : dev.Matches dev' D) (reports : List Report) :
    ∀ {st : Station σ} {st' : Station τ}, Alike D st st' →
      Alike D (reports.foldl (Station.enqueue dev) st) (reports.foldl (Station.enqueue dev') st') := by
  induction reports with
  | nil => exact fun alike => alike
  | cons report rest ih => exact fun alike => ih (alike.enqueue matching report)

theorem lineInside (matching : dev.Matches dev' D) :
    (Station.lineInside dev).Concur D (Station.lineInside dev') := by
  intro r st st' alike
  obtain ⟨reports, announced⟩ := alike.announce matching r
  have queued := foldl_enqueue matching (dev.announce st.session.handle r st.device).1 announced
  obtain ⟨answer, answered⟩ := queued.answer matching r
  simp only [Station.lineInside]
  rw [reports, answer]
  exact .intro _ answered

theorem react (matching : dev.Matches dev' D) {reaction reaction' : Reaction} (calms : reaction.Calms reaction')
    (alike : Alike D st st') : Concur D (st.react dev reaction) (st'.react dev' reaction') := by
  cases calms with
  | calmed => exact .intro _ alike
  | same =>
    cases reaction with
    | nothing => exact .intro _ alike
    | stop => exact (alike.stop (lineInside matching)).map Outcome.finished
    | configure _ =>
      simp only [Station.react, alike.session.live]
      exact .intro _ alike
    | start _ =>
      simp only [Station.react, alike.session.live]
      exact .intro _ alike
    | poll =>
      simp only [Station.react, alike.session.live]
      split
      next => exact (alike.poll (lineInside matching)).map Outcome.polled
      next => exact .intro _ alike
    | drop =>
      simp only [Station.react, alike.session.live]
      split
      next => exact .intro _ (alike.release (lineInside matching))
      next => exact .intro _ alike
    | panic _ => exact .intro _ alike

theorem nextReaction (alike : Alike D st st') :
    st.nextReaction.1.Calms st'.nextReaction.1 ∧ Alike D st.nextReaction.2 st'.nextReaction.2 := by
  obtain ⟨session, device⟩ := st
  obtain ⟨session', device'⟩ := st'
  obtain ⟨same, devices⟩ := alike
  cases same with
  | intro panic delivering noted =>
    cases session with
    | mk _ _ _ _ _ _ _ delivery =>
      simp only at delivering noted
      cases delivering with
      | none => exact ⟨.same _, .intro panic .none noted, devices⟩
      | some same =>
        cases same with
        | intro calms =>
          exact ⟨Reaction.Calms.headD calms, .intro panic (.some (.intro (Reaction.Calms.tail calms))) noted,
            devices⟩

theorem notify (matching : dev.Matches dev' D) (alike : Alike D st st') {notice notice' : Notice}
    (notices : notice.Alike notice') : Alike D (st.notify dev notice) (st'.notify dev' notice') := by
  obtain ⟨calms, next⟩ := alike.nextReaction
  have reacted := next.react matching calms
  simp only [Station.notify]
  generalize st.nextReaction = choice, st'.nextReaction = choice' at calms reacted ⊢
  generalize choice.2.react dev choice.1 = outcome, choice'.2.react dev' choice'.1 = outcome' at reacted ⊢
  cases reacted with
  | intro outcome reacted => exact ⟨reacted.session.note notices outcome _ _, reacted.device⟩

theorem endDelivery (alike : Alike D st st') : Alike D st.endDelivery st'.endDelivery :=
  ⟨alike.session.deliver .none, alike.device⟩

theorem present (matching : dev.Matches dev' D) (alike : Alike D st st') {notice notice' : Notice}
    (notices : notice.Alike notice') : Alike D (st.present dev notice) (st'.present dev' notice') := by
  have notified := alike.notify matching notices
  simp only [Station.present, notices.phase]
  split
  next => exact notified.endDelivery
  next => exact notified

theorem deliver (matching : dev.Matches dev' D) (alike : Alike D st st') (report : Report) :
    Alike D (st.deliver dev report) (st'.deliver dev' report) := by
  obtain ⟨notices, malformed, accepted⟩ := alike.session.accept report
  have taken : Alike D ⟨(st.session.accept report).2.2, st.device⟩
      ⟨(st'.session.accept report).2.2, st'.device⟩ := ⟨accepted, alike.device⟩
  simp only [Station.deliver, malformed]
  split
  next => exact (lineInside matching .stop taken).alike.present matching notices
  next => exact taken.present matching notices

theorem dequeue (alike : Alike D st st') : Option.Rel (Concur D) st.dequeue st'.dequeue := by
  obtain ⟨session, device⟩ := st
  obtain ⟨session', device'⟩ := st'
  obtain ⟨same, devices⟩ := alike
  cases same with
  | intro panic delivering noted =>
    cases session with
    | mk _ _ _ _ _ _ _ delivery =>
      simp only at delivering noted
      cases delivering with
      | none => exact .none
      | @some d _ same =>
        cases same with
        | intro calms =>
          obtain ⟨_, _, queue⟩ := d
          cases queue with
          | nil => exact .none
          | cons report rest => exact .some (.intro report ⟨.intro panic (.some (.intro calms)) noted, devices⟩)

theorem queued (alike : Alike D st st') : st'.queued = st.queued := by
  have delivering := alike.session.delivery
  simp only [Station.queued]
  generalize st.session.delivery = delivery, st'.session.delivery = delivery' at delivering ⊢
  cases delivering with
  | none => rfl
  | some same => cases same; rfl

theorem drain (matching : dev.Matches dev' D) (rounds : Nat) :
    ∀ {st : Station σ} {st' : Station τ}, Alike D st st' →
      Alike D (st.drain dev rounds) (st'.drain dev' rounds) := by
  induction rounds with
  | zero => exact fun alike => alike
  | succ rounds ih =>
    intro st st' alike
    have dequeued := alike.dequeue
    simp only [Station.drain]
    generalize st.dequeue = first, st'.dequeue = first' at dequeued ⊢
    cases dequeued with
    | none => exact alike
    | some same =>
      cases same with
      | intro report rest => exact ih (rest.deliver matching report)

theorem drainAll (matching : dev.Matches dev' D) (alike : Alike D st st') :
    Alike D (st.drainAll dev) (st'.drainAll dev') := by
  simp only [Station.drainAll, alike.queued]
  exact drain matching _ alike

theorem receive (matching : dev.Matches dev' D) (alike : Alike D st st') (report : Report) :
    Alike D (st.receive dev report) (st'.receive dev' report) :=
  (alike.enqueue matching report).drainAll matching

theorem close (matching : dev.Matches dev' D) (alike : Alike D st st') :
    Alike D (st.close dev) (st'.close dev') := by
  have delivering := alike.session.delivery
  simp only [Station.close, alike.session.phase]
  generalize st.session.delivery = delivery, st'.session.delivery = delivery' at delivering ⊢
  cases delivering with
  | none => exact alike
  | some same =>
    cases same with
    | intro _ =>
      simp only
      split
      next => exact alike.present matching (alike.session.notice ..)
      next => exact alike

end Alike

end Station

end TriggeredSampler
