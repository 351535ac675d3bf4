import TriggeredSampler.Proofs.Session.Calls
import TriggeredSampler.Proofs.Session.Notices

/-! # What a failing call does to a session

A call that is refused, because of its configuration or of how the session is used, does nothing. Any
other failure of a call is that of the first request that failed: it ends the run, and it is the failure
that the session keeps, unless the run was over when the request returned.

* `Explained` — a result, and the moments that lead to it.
* `Station.Observes` — watching a call explains its result.
* `Station.failure_of_call` — the failures of all calls.
-/

namespace TriggeredSampler

variable {σ α : Type}

/-- The fault that a request was answered with. -/
def Request.fault? : (r : Request) → r.Answer → Option DeviceFault
  | .write .., .error reason => some reason
  | .configure _, .error reason => some reason
  | .configuration, .error reason => some reason
  | .start .., .error reason => some reason
  | .stop, .error reason => some reason
  | .phase, .error reason => some reason
  | .data, .error reason => some reason
  | _, _ => none

/-- The breach of the data that a request was answered with. -/
def Session.breach? (s : Session) : (r : Request) → r.Answer → Option Breach
  | .data, .ok data =>
    match s.checkData data with
    | .error breach => some breach
    | .ok () => none
  | _, _ => none

/-- How a request failed: with a fault, or with malformed data. -/
def Moment.failure? (m : Moment) : Option Failure :=
  (m.request.fault? m.answer).map .device <|>
    (m.session.breach? m.request m.answer).map .ofBreach

/-- The failure is about how the session is used; the device has nothing to do with it. -/
def Failure.isRefusal : Failure → Bool
  | .configuration _ => true
  | .misuse _ => true
  | _ => false

/-- The moments of a call explain its result and the session behind it. It succeeds if no request failed.
Otherwise it fails as the first one that did, and the run is over, by this failure unless it was over at
that moment. -/
inductive Explained (session : Session) : List Moment → Except Failure α → Prop where
  | done (a : α) {moments : List Moment} (quiet : ∀ m ∈ moments, m.failure? = none) :
      Explained session moments (.ok a)
  | failed {before : List Moment} {m : Moment} {f : Failure} (after : List Moment)
      (quiet : ∀ m ∈ before, m.failure? = none) (fails : m.failure? = some f)
      (onward : (m.session.fail f).lifecycle.Onward session.lifecycle) :
      Explained session (before ++ m :: after) (.error f)

namespace Explained

variable {session : Session} {moments before : List Moment} {result : Except Failure α}

theorem prepend (explained : Explained session moments result)
    (quiet : ∀ m ∈ before, m.failure? = none) : Explained session (before ++ moments) result := by
  cases explained with
  | done a quiet' =>
    apply Explained.done
    intro m member
    cases List.mem_append.1 member with
    | inl early => exact quiet m early
    | inr late => exact quiet' m late
  | failed after quiet' fails onward =>
    rw [← List.append_assoc]
    refine .failed after ?_ fails onward
    intro m member
    cases List.mem_append.1 member with
    | inl early => exact quiet m early
    | inr late => exact quiet' m late

/-- The failure is known as soon as the request returns. -/
theorem fault {m : Moment} {f : Failure} (after : List Moment) (fails : m.failure? = some f)
    (onward : (m.session.fail f).lifecycle.Onward session.lifecycle) :
    Explained session (m :: after) (.error f : Except Failure α) :=
  have quiet : ∀ m ∈ ([] : List Moment), m.failure? = none := by simp
  .failed after quiet fails onward

end Explained

namespace Station

/-- Watching a call changes nothing but the moments, and these explain the outcome. -/
def Observes (moments : List Moment) (outcome : Except Failure α × Station σ)
    (watched : Except Failure α × Station (Watched σ)) : Prop :=
  ∃ added, watched = (outcome.1, outcome.2.watching (moments ++ added)) ∧
    Explained outcome.2.session added outcome.1

/-- A call is refused and does nothing, or it is explained. -/
def Accounts (st : Station σ) (moments : List Moment) (outcome : Except Failure α × Station σ)
    (watched : Except Failure α × Station (Watched σ)) : Prop :=
  (∃ f, f.isRefusal = true ∧ outcome = (.error f, st) ∧ watched = (.error f, st.watching moments)) ∨
    Observes moments outcome watched

theorem quiet_singleton {m : Moment} (quiet : m.failure? = none) :
    ∀ other ∈ [m], other.failure? = none := by
  intro other member
  rw [List.mem_singleton.1 member, quiet]

/-- A call that would need a thread fails without having changed the session, for no request failed. -/
def Unheard (st : Station σ) (moments : List Moment) (fault : DeviceFault)
    (outcome : Except Failure α × Station σ) (watched : Except Failure α × Station (Watched σ)) : Prop :=
  ∃ added after, outcome = (.error (.device fault), after) ∧ after.session = st.session ∧
    watched = (.error (.device fault), after.watching (moments ++ added)) ∧ ∀ m ∈ added, m.failure? = none

/-! ## Operations through any line -/

theorem stop_observes (line : Line σ) (st : Station σ) (moments : List Moment) :
    Observes moments (st.stop line) ((st.watching moments).stop (watched line)) := by
  by_cases ended : st.session.phase.isTerminal = true
  · simp only [stop, session_watching, ended, if_true]
    exact ⟨[], by simp, .done () (by simp)⟩
  · by_cases unconfigured : st.session.phase = .unconfigured
    · simp only [stop, session_watching, unconfigured, if_true]
      exact ⟨[], by simp [watching, Phase.isTerminal], .done () (by simp)⟩
    · simp only [stop, session_watching, ended, unconfigured, if_false, watched_line]
      generalize line .stop st = outcome
      obtain ⟨result, after⟩ := outcome
      cases result with
      | error reason =>
        exact ⟨[⟨.stop, .error reason, after.session⟩], rfl, .fault [] rfl (.refl _)⟩
      | ok _ => exact ⟨[⟨.stop, .ok (), after.session⟩], rfl, .done () (quiet_singleton rfl)⟩

theorem refresh_observes (line : Line σ) (st : Station σ) (moments : List Moment) :
    Observes moments (st.refresh line) ((st.watching moments).refresh (watched line)) := by
  unfold refresh
  simp only [watched_line]
  generalize line .phase st = outcome
  obtain ⟨result, after⟩ := outcome
  cases result with
  | error reason =>
    exact ⟨[⟨.phase, .error reason, after.session⟩], rfl, .fault [] rfl (.refl _)⟩
  | ok reported =>
    simp only [faultBehind, watched_line]
    by_cases failed : reported = .failed
    · rw [if_pos failed, if_pos failed]
      generalize line .fault after = explained
      obtain ⟨fault, told⟩ := explained
      refine ⟨[⟨.phase, .ok reported, after.session⟩, ⟨.fault, fault, told.session⟩], ?_, .done _ ?_⟩
      · simp [watching]
      · intro m member
        cases member with
        | head => rfl
        | tail _ member => exact quiet_singleton rfl m member
    · rw [if_neg failed, if_neg failed]
      exact ⟨[⟨.phase, .ok reported, after.session⟩], rfl, .done _ (quiet_singleton rfl)⟩

/-! ## Operations of the owner -/

variable (dev : Device σ) {st : Station (Journal σ)} {gone : Bool}

/-- Malformed data fails the run before the device is asked to stop, and the failure stays. -/
theorem fetch_observes (calm : Calm none gone st) (moments : List Moment) :
    Observes moments (st.fetch (line dev.journaled))
      ((st.watching moments).fetch (watched (line dev.journaled))) := by
  unfold fetch
  simp only [watched_line]
  have calm := (calm.line dev (r := .data) rfl).1
  generalize line dev.journaled .data st = outcome at calm ⊢
  obtain ⟨result, after⟩ := outcome
  cases result with
  | error reason =>
    exact ⟨[⟨.data, .error reason, after.session⟩], rfl, .fault [] rfl (.refl _)⟩
  | ok data =>
    simp only [session_watching, fail_watching, watched_line] at calm ⊢
    cases checked : after.session.checkData data with
    | error breach =>
      have failed : Calm none gone (after.fail (.ofBreach breach)) := calm.onward (.fail _ _)
      have stopped := (failed.line dev (r := .stop) rfl).2.onward
      have fails : (⟨.data, .ok data, after.session⟩ : Moment).failure? = some (.ofBreach breach) := by
        simp [Moment.failure?, Request.fault?, Session.breach?, checked]
      simp only
      generalize line dev.journaled .stop (after.fail (.ofBreach breach)) = halted at stopped ⊢
      exact ⟨[⟨.data, .ok data, after.session⟩, ⟨.stop, halted.1, halted.2.session⟩],
        by simp, .fault _ fails stopped⟩
    | ok _ =>
      have quiet : (⟨.data, .ok data, after.session⟩ : Moment).failure? = none := by
        simp [Moment.failure?, Request.fault?, Session.breach?, checked]
      exact ⟨[⟨.data, .ok data, after.session⟩], rfl, .done _ (quiet_singleton quiet)⟩

theorem poll_accounts (calm : Calm none gone st) (moments : List Moment) :
    Accounts st moments (st.poll (line dev.journaled))
      ((st.watching moments).poll (watched (line dev.journaled))) := by
  by_cases notified : st.session.notified = true
  · simp only [poll, session_watching, notified, if_true]
    exact .inl ⟨.misuse .pollWithHandler, rfl, rfl, rfl⟩
  · by_cases unconfigured : st.session.phase = .unconfigured
    · simp only [poll, session_watching, notified, unconfigured, if_true]
      exact .inl ⟨.misuse .notConfigured, rfl, rfl, rfl⟩
    · simp only [poll, session_watching, notified, unconfigured, if_false]
      right
      obtain ⟨added, same, explained⟩ := refresh_observes (line dev.journaled) st moments
      have calm := (calm.refresh dev).1
      rw [same]
      generalize st.refresh (line dev.journaled) = outcome at calm explained ⊢
      obtain ⟨result, after⟩ := outcome
      cases explained with
      | failed after quiet fails onward => exact ⟨_, rfl, .failed after quiet fails onward⟩
      | done _ quiet =>
        obtain ⟨more, same, explained⟩ := fetch_observes dev calm (moments ++ added)
        refine ⟨added ++ more, ?_, explained.prepend quiet⟩
        rw [← List.append_assoc]
        exact same

theorem pollRows_accounts (calm : Calm none gone st) (moments : List Moment) :
    Accounts st moments (st.pollRowsAt (line dev.journaled))
      ((st.watching moments).pollRowsAt (watched (line dev.journaled))) := by
  have polled := poll_accounts dev calm moments
  have sound := (calm.poll dev).1.sound
  have whole : ∀ data, (st.poll (line dev.journaled)).1 = .ok data →
      (st.poll (line dev.journaled)).2.session.checkData data = .ok () := fun data =>
    Upholds.checkData_of_poll
  unfold pollRowsAt
  generalize st.poll (line dev.journaled) = outcome at polled sound whole ⊢
  obtain ⟨result, after⟩ := outcome
  cases polled with
  | inl refused =>
    obtain ⟨f, refusal, same, same'⟩ := refused
    cases same
    rw [same']
    exact .inl ⟨f, refusal, rfl, rfl⟩
  | inr observed =>
    right
    obtain ⟨added, same, explained⟩ := observed
    rw [same]
    cases explained with
    | failed later quiet fails onward => exact ⟨_, rfl, .failed later quiet fails onward⟩
    | done data quiet =>
      -- what was checked can be numbered
      have checked := whole data rfl
      rw [Session.checkData_eq_ok_iff, ← sound.numbering] at checked
      obtain ⟨rows, numbered⟩ := after.session.numbering.number_of_whole checked
      have rowed : (after.session.number data).1 = .ok rows := numbered
      simp only [session_watching, rowed]
      exact ⟨added, rfl, .done rows quiet⟩

/-! ## Configuring and starting -/

theorem configure_accounts (settled : Settled none gone st) (c : Configuration)
    (moments : List Moment) :
    Accounts st moments (st.configureAt (.owner dev.journaled) c)
      ((st.watching moments).configureAt (Port.owner dev.journaled).watched c) := by
  simp only [configureAt, Port.inside_watched, Port.inside_owner, Port.line_watched, Port.join_watched,
    Port.line_owner, Port.join_owner, Bool.false_eq_true, if_false, watched_line]
  cases valid : c.validate with
  | error defect => exact .inl ⟨.configuration defect, rfl, rfl, rfl⟩
  | ok _ =>
    by_cases active : st.session.phase.isActive = true
    · simp only [session_watching, active, if_true]
      exact .inl ⟨.misuse .alreadyActive, rfl, rfl, rfl⟩
    · simp only [session_watching, active]
      right
      -- an idle session stays idle while its delivery is closed and the device is asked
      have idle : st.session.phase.isActive = false := by simpa using active
      obtain ⟨closed, keeps⟩ := settled.close dev
      rw [join_eq_close dev.journaled settled.sound settled.idle idle]
      obtain ⟨_, keeps'⟩ := closed.line dev (r := .configure c) rfl
      have idle := (keeps.trans keeps').onward.idle idle
      generalize line dev.journaled (.configure c) (st.close dev.journaled) = outcome at idle ⊢
      obtain ⟨result, after⟩ := outcome
      cases result with
      | error reason =>
        exact ⟨[⟨.configure c, .error reason, after.session⟩], rfl, .fault [] rfl (.refl _)⟩
      | ok _ =>
        simp only [session_watching, Lifecycle.configure_of_idle idle]
        exact ⟨[⟨.configure c, .ok (), after.session⟩], rfl, .done () (quiet_singleton rfl)⟩

/-- The write around a start, watched. -/
inductive Writes (moments : List Moment) : Except DeviceFault Unit × Station σ →
    Except DeviceFault Unit × Station (Watched σ) → Prop where
  | done (after : Station σ) {added : List Moment} (quiet : ∀ m ∈ added, m.failure? = none) :
      Writes moments (.ok (), after) (.ok (), after.watching (moments ++ added))
  | failed (reason : DeviceFault) {after : Station σ} {m : Moment}
      (fails : m.failure? = some (.device reason)) (session : m.session = after.session) :
      Writes moments (.error reason, after) (.error reason, after.watching (moments ++ [m]))

theorem writeTrigger_writes (line : Line σ) (st : Station σ) (trigger : Trigger) (offset : Int)
    (moments : List Moment) :
    Writes moments (st.writeTriggerAt line trigger offset)
      ((st.watching moments).writeTriggerAt (watched line) trigger offset) := by
  by_cases drives : (st.session.options.armsTrigger && trigger.condition.readsAddress) = true
  · simp only [writeTriggerAt, session_watching, drives, if_true, watched_line]
    generalize line (.write trigger.address (trigger.value.toNat + offset)
      st.session.options.triggerBits) st = outcome
    obtain ⟨result, after⟩ := outcome
    cases result with
    | error reason => exact .failed reason rfl rfl
    | ok _ => exact .done after (quiet_singleton rfl)
  · simp only [writeTriggerAt, session_watching, drives]
    have silent := @Writes.done _ moments st [] (by simp)
    rwa [List.append_nil] at silent

/-- A sampler whose trigger cannot be activated is stopped, and the fault of the write stays. -/
theorem activate_observes (settled : Settled none gone st) (trigger : Trigger) (moments : List Moment) :
    Observes moments (st.activateAt (.owner dev.journaled) trigger)
      ((st.watching moments).activateAt (Port.owner dev.journaled).watched trigger) := by
  simp only [activateAt, Port.line_watched, Port.line_owner]
  have writes := writeTrigger_writes (line dev.journaled) st trigger 1 moments
  have calm := (settled.writeTrigger dev trigger 1).1
  rw [← show st.writeTriggerAt (line dev.journaled) trigger 1 = st.writeTrigger dev.journaled trigger 1
    from rfl] at calm
  generalize st.writeTriggerAt (line dev.journaled) trigger 1 = written at writes calm ⊢
  generalize (st.watching moments).writeTriggerAt (watched (line dev.journaled)) trigger 1 = observed
    at writes ⊢
  cases writes with
  | done after quiet => exact ⟨_, rfl, .done () quiet⟩
  | @failed reason after m fails session =>
    simp only [fail_watching, watched_line, Port.join_watched, Port.join_owner] at calm ⊢
    have failed : Calm none gone (after.fail (.device reason)) := calm.onward (.fail _ _)
    obtain ⟨stopped, keeps⟩ := failed.line dev (r := .stop) rfl
    have ended : (after.fail (.device reason)).session.phase.isTerminal = true :=
      Lifecycle.isTerminal_fail _ _
    rw [join_eq_close dev.journaled stopped.sound stopped.idle
      (keeps.onward.idle (Phase.isActive_of_isTerminal ended))]
    have onward := (keeps.trans (stopped.close dev).2).onward
    generalize line dev.journaled .stop (after.fail (.device reason)) = halted at onward ⊢
    refine ⟨[m, ⟨.stop, halted.1, halted.2.session⟩], by simp, .fault _ fails ?_⟩
    rw [session]
    exact onward

theorem launch_observes (configured : st.session.lifecycle = .configured) (trigger : Trigger)
    {handler : Option (List Reaction)} {tag : Int}
    (asking : ∀ raised, Calm none gone
      ((st.armed handler tag).entered raised (.asked (.start handler.isSome tag))))
    (live : st.session.live = true) (moments : List Moment) :
    Observes moments ((st.openDelivery handler tag).launchAt (.owner dev.journaled) trigger handler tag)
      (((st.watching moments).openDelivery handler tag).launchAt (Port.owner dev.journaled).watched
        trigger handler tag) := by
  simp only [launchAt, openDelivery, session_watching, configured, Lifecycle.arm, Port.line_watched,
    Port.line_owner, mk_watching, watched_line]
  obtain ⟨a, running, eq, started, _⟩ := Calm.startLine dev asking live
  simp only [armed] at eq
  rw [eq]
  cases a with
  | error reason =>
    have onward := (refused_keeps dev started.sound reason).1.onward
    exact ⟨[⟨.start handler.isSome tag, .error reason, running.session⟩], rfl, .fault [] rfl onward⟩
  | ok _ =>
    obtain ⟨added, same, explained⟩ := activate_observes dev started trigger
      (moments ++ [⟨.start handler.isSome tag, .ok (), running.session⟩])
    refine ⟨⟨.start handler.isSome tag, .ok (), running.session⟩ :: added, ?_,
      explained.prepend (quiet_singleton rfl)⟩
    rw [List.append_assoc] at same
    exact same

theorem start_accounts (settled : Settled none gone st) (live : st.session.live = true)
    (handler : Option (List Reaction)) (tag : Int) (refusal : Option String) (moments : List Moment) :
    Accounts st moments (st.startAt (.owner dev.journaled) handler tag refusal)
        ((st.watching moments).startAt (Port.owner dev.journaled).watched handler tag refusal) ∨
      ∃ fault ∈ threadFault handler refusal,
        Unheard st moments fault (st.startAt (.owner dev.journaled) handler tag refusal)
          ((st.watching moments).startAt (Port.owner dev.journaled).watched handler tag refusal) := by
  have trigger : (st.watching moments).startTrigger = st.startTrigger := rfl
  simp only [startAt, Port.inside_watched, Port.inside_owner, Port.line_watched, Port.line_owner,
    Bool.false_eq_true, if_false, trigger]
  cases startable : st.startTrigger with
  | error m => exact .inl (.inl ⟨.misuse m, rfl, rfl, rfl⟩)
  | ok trigger =>
    obtain ⟨configured, _⟩ := start_eq dev settled.sound startable handler tag refusal
    have closed := settled.sound.delivery_of_configured configured
    have same : (st.writeTriggerAt (line dev.journaled) trigger 0).2.session = st.session :=
      writeTrigger_closed dev closed trigger 0
    have calm : Calm none gone (st.writeTriggerAt (line dev.journaled) trigger 0).2 :=
      (settled.writeTrigger dev trigger 0).1
    have writes := writeTrigger_writes (line dev.journaled) st trigger 0 moments
    simp only
    generalize st.writeTriggerAt (line dev.journaled) trigger 0 = written at same calm writes ⊢
    generalize (st.watching moments).writeTriggerAt (watched (line dev.journaled)) trigger 0 = observed
      at writes ⊢
    cases writes with
    | @failed reason after m fails session =>
      refine .inl (.inr ⟨[m], rfl, .fault [] fails ?_⟩)
      rw [session]
      exact .refl _
    | @done after added quiet =>
      simp only at same calm ⊢
      -- nothing is delivered before the start, so the session waits for nothing
      simp only [Port.join_watched, Port.join_owner, join_of_closed dev.journaled (same ▸ closed)]
      cases thread : threadFault handler refusal with
      | some fault => exact .inr ⟨fault, rfl, added, after, rfl, same, rfl, quiet⟩
      | none =>
        have ready : after.session.lifecycle = .configured := by
          rw [same, Session.lifecycle_of_configured configured]
        obtain ⟨more, observed, explained⟩ := launch_observes dev ready trigger
          (calm.asking handler tag) (same ▸ live) (moments ++ added)
        refine .inl (.inr ⟨added ++ more, ?_, explained.prepend quiet⟩)
        rw [List.append_assoc] at observed
        exact observed

/-! ## Calls -/

/-- The first request that failed is to blame: the run is over, and if it was not over by then, it has
failed by this failure. -/
structure Ends (moments : List Moment) (f : Failure) (after : Station σ) : Prop where
  ended : after.session.phase.isTerminal = true
  first : ∃ m, (moments.find? fun m => m.failure?.isSome) = some m ∧ m.failure? = some f ∧
    (m.session.phase.isTerminal = false →
      after.session.lifecycle = .failed f ∧ after.session.failure = some f)

/-- A failing call either was refused and did nothing, or blames the first request that failed. Without the
thread it needs it may fail although no request did; then the session is what it was. -/
structure Blames (st : Station σ) (moments : List Moment) (thread : Option DeviceFault) (f : Failure)
    (after : Station σ) : Prop where
  refused : f.isRefusal = true → moments = [] ∧ after = st
  failed : f.isRefusal = false → thread = none → Ends moments f after
  unheard : f.isRefusal = false → ∀ fault, thread = some fault → Ends moments f after ∨
    f = .device fault ∧ (∀ m ∈ moments, m.failure? = none) ∧ after.session = st.session

theorem isRefusal_of_failure {m : Moment} {f : Failure} (fails : m.failure? = some f) :
    f.isRefusal = false := by
  unfold Moment.failure? at fails
  cases fault : m.request.fault? m.answer with
  | some reason =>
    simp [fault] at fails
    rw [← fails]
    rfl
  | none =>
    simp [fault] at fails
    obtain ⟨breach, _, rfl⟩ := fails
    rfl

theorem ends_of_explained {after : Station σ} {moments : List Moment} {f : Failure}
    (explained : Explained after.session moments (.error f : Except Failure α)) :
    f.isRefusal = false ∧ Ends moments f after := by
  cases explained with
  | @failed before m _ later quiet fails onward =>
    refine ⟨isRefusal_of_failure fails, ?_, m, ?_, fails, ?_⟩
    · exact onward.isTerminal (Lifecycle.isTerminal_fail _ _)
    · have none : (before.find? fun m => m.failure?.isSome) = none := by
        rw [List.find?_eq_none]
        intro m member
        simp [quiet m member]
      rw [List.find?_append, none, List.find?_cons_of_pos (by simp [fails])]
      rfl
    · intro going
      -- the run was going on, so this failure ended it, and nothing behind it changes that
      have failed : (m.session.fail f).lifecycle = .failed f := by
        rw [Session.fail, Lifecycle.fail_of_not_isTerminal going]
      have same := onward.ended (by rw [failed]; rfl)
      rw [failed] at same
      exact ⟨same, by simp [Session.failure, same, Lifecycle.cause]⟩

/-- What is accounted for as a result is accounted for as a reply. -/
theorem Accounts.reply {outcome : Except Failure α × Station σ}
    {observed : Except Failure α × Station (Watched σ)} {wrap : Except Failure α → Reply} {st : Station σ}
    (accounts : Accounts st [] outcome observed) (silent : ∀ a, (wrap (.ok a)).failure? = none)
    (loud : ∀ f, (wrap (.error f)).failure? = some f) (thread : Option DeviceFault) :
    ∃ moments, observed.map wrap id =
        ((outcome.map wrap id).1, (outcome.map wrap id).2.watching moments) ∧
      ∀ f, (outcome.map wrap id).1.failure? = some f →
        Blames st moments thread f (outcome.map wrap id).2 := by
  rcases accounts with ⟨g, refusal, rfl, rfl⟩ | ⟨moments, rfl, explained⟩
  · refine ⟨[], rfl, fun f fails => ?_⟩
    obtain rfl : g = f := by simpa [loud] using fails
    exact ⟨fun _ => ⟨rfl, rfl⟩, fun failure => absurd refusal (by simp [failure]),
      fun failure => absurd refusal (by simp [failure])⟩
  · obtain ⟨result, after⟩ := outcome
    refine ⟨moments, rfl, fun f fails => ?_⟩
    cases result with
    | ok a => simp [silent] at fails
    | error g =>
      obtain rfl : g = f := by simpa [loud] using fails
      obtain ⟨failure, ends⟩ := ends_of_explained explained
      exact ⟨fun refusal => by simp [failure] at refusal, fun _ _ => ends, fun _ _ _ => .inl ends⟩

/-- Without its thread a start changes nothing in the session. -/
theorem Unheard.reply {outcome : Except Failure Unit × Station σ}
    {observed : Except Failure Unit × Station (Watched σ)} {st : Station σ} {fault : DeviceFault}
    (unheard : Unheard st [] fault outcome observed) :
    ∃ moments, observed.map Reply.finished id =
        ((outcome.map Reply.finished id).1, (outcome.map Reply.finished id).2.watching moments) ∧
      ∀ f, (outcome.map Reply.finished id).1.failure? = some f →
        Blames st moments (some fault) f (outcome.map Reply.finished id).2 := by
  obtain ⟨added, after, rfl, same, rfl, quiet⟩ := unheard
  refine ⟨added, rfl, fun f fails => ?_⟩
  cases fails
  constructor
  case refused => exact fun refusal => by cases refusal
  case failed => exact fun _ thread => by cases thread
  case unheard =>
    rintro _ _ ⟨⟩
    exact .inr ⟨rfl, quiet, same⟩

/-- A caller is the owner of a session that something happened to, or a handler, which runs only while its
session is notified. -/
inductive Calls (dev : Device σ) : Port (Journal σ) → Station (Journal σ) → Prop where
  | owner (handle : Handle) (options : Options) (device : σ) (moves : List (Move σ))
      {st : Station (Journal σ)} (reached : st = course dev moves ⟨.bind handle options, ⟨device, []⟩⟩)
      (live : st.session.live = true) : Calls dev (.owner dev.journaled) st
  | handler {st : Station (Journal σ)} (notified : st.session.notified = true) :
      Calls dev (.handler dev.journaled) st

theorem call_accounts {port : Port (Journal σ)} (calls : Calls dev port st) (call : Operation) :
    ∃ moments, (st.watching []).call port.watched call =
        ((st.call port call).1, (st.call port call).2.watching moments) ∧
      ∀ f, (st.call port call).1.failure? = some f →
        Blames st moments call.threadFault f (st.call port call).2 := by
  cases calls with
  | owner handle options device moves reached live =>
    have bound : Settled none false (⟨.bind handle options, ⟨device, []⟩⟩ : Station (Journal σ)) :=
      settled_bind handle options _
    have settled := bound.course dev moves
    rw [← reached] at settled
    cases call with
    | configure c => exact (configure_accounts dev settled c []).reply (fun _ => rfl) (fun _ => rfl) none
    | start handler tag refusal =>
      obtain accounts | ⟨fault, thread, unheard⟩ := start_accounts dev settled live handler tag refusal []
      · exact accounts.reply (fun _ => rfl) (fun _ => rfl) (threadFault handler refusal)
      · rw [Operation.threadFault, Option.mem_def.1 thread]
        exact unheard.reply
    | stop => exact Accounts.reply (.inr (stop_observes _ st [])) (fun _ => rfl) (fun _ => rfl) none
    | poll => exact (poll_accounts dev settled.toCalm []).reply (fun _ => rfl) (fun _ => rfl) none
    | pollRows => exact (pollRows_accounts dev settled.toCalm []).reply (fun _ => rfl) (fun _ => rfl) none
    | refresh => exact Accounts.reply (.inr (refresh_observes _ st [])) (fun _ => rfl) (fun _ => rfl) none
  | handler notified =>
    cases call with
    | configure c =>
      exact Accounts.reply (.inl ⟨.misuse .reentrantCall, rfl, rfl, rfl⟩) (fun _ => rfl) (fun _ => rfl) none
    | start handler tag refusal =>
      exact Accounts.reply (.inl ⟨.misuse .reentrantCall, rfl, rfl, rfl⟩) (fun _ => rfl) (fun _ => rfl)
        (threadFault handler refusal)
    | stop => exact Accounts.reply (.inr (stop_observes _ st [])) (fun _ => rfl) (fun _ => rfl) none
    | poll =>
      exact Accounts.reply (.inl ⟨.misuse .pollWithHandler, rfl, poll_of_notified _ notified,
        poll_of_notified _ notified⟩) (fun _ => rfl) (fun _ => rfl) none
    | pollRows =>
      exact Accounts.reply (.inl ⟨.misuse .pollWithHandler, rfl, pollRows_of_notified _ notified,
        pollRows_of_notified _ notified⟩) (fun _ => rfl) (fun _ => rfl) none
    | refresh => exact Accounts.reply (.inr (refresh_observes _ st [])) (fun _ => rfl) (fun _ => rfl) none

end Station

end TriggeredSampler
