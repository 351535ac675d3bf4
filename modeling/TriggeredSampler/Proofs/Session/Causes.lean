import TriggeredSampler.Proofs.Session.Moments

/-! # The end of a run and its cause

Until it accepts another configuration, a session ends at most once, and it keeps the failure that ended it.
Panics of its handler are remembered beside it and never take its place.

* `Station.over_run` — a session that is over stays as it is.
* `Station.Latches` — what a call of the owner leaves for good.
* `Session.Recounts` — what the handler was told, and what it did, is what the session says.
* `Station.failure_of_run` — the failure that a session shows, and those that its notices show.
-/

namespace TriggeredSampler

variable {σ : Type}

/-! ## The failure of a session -/

namespace Session

variable {s : Session} {f : Failure}

theorem exists_cause (failed : s.phase = .failed) : ∃ f, s.lifecycle = .failed f := by
  rw [phase] at failed
  cases lifecycle : s.lifecycle with
  | failed f => exact ⟨f, rfl⟩
  | _ => rw [lifecycle] at failed; cases failed

theorem failure_of_failed (failed : s.lifecycle = .failed f) : s.failure = some f := by
  rw [failure, failed]
  rfl

/-- Without a cause the last panic is all that is left. -/
theorem failure_of_not_failed (other : s.phase ≠ .failed) :
    s.failure = s.panic.map .handlerPanicked := by
  rw [phase] at other
  rw [failure]
  cases lifecycle : s.lifecycle with
  | failed f => rw [lifecycle] at other; exact absurd rfl other
  | _ => rfl

end Session

/-! ## Sessions that are over -/

/-- The session is over, and all notes from number `base` on say so. -/
structure Over (l : Lifecycle Failure) (base : Nat) (notes : List Note) (l' : Lifecycle Failure) : Prop where
  lifecycle : l' = l
  counted : base ≤ notes.length
  shown : ∀ note ∈ notes.drop base, note.notice.phase = l.phase

namespace Over

variable {l l' : Lifecycle Failure} {base : Nat} {notes : List Note} {notice : Notice}

theorem refl (l : Lifecycle Failure) (notes : List Note) : Over l notes.length notes l :=
  ⟨rfl, Nat.le_refl _, by simp⟩

theorem turn (stays : Over l base notes l') (ended : l.phase.isTerminal = true)
    {l'' : Lifecycle Failure} (turn : l'.Turn l'') : Over l base notes l'' := by
  obtain ⟨rfl, counted, shown⟩ := stays
  exact ⟨turn.onward.ended ended, counted, shown⟩

theorem concat (stays : Over l base notes l') (shows : notice.phase = l.phase) (outcome : Outcome) :
    Over l base (notes ++ [⟨notice, outcome⟩]) l' := by
  refine ⟨stays.lifecycle, ?_, fun note listed => ?_⟩
  · rw [List.length_append]
    exact Nat.le_add_right_of_le stays.counted
  · rw [List.drop_append_of_le_length stays.counted, List.mem_append, List.mem_singleton] at listed
    cases listed with
    | inl earlier => exact stays.shown note earlier
    | inr latest => rw [latest, shows]

end Over

theorem Session.lasting_over {l : Lifecycle Failure} (ended : l.phase.isTerminal = true) (base : Nat) :
    Lasting (fun s => Over l base s.notes s.lifecycle)
      fun notice _ s => ∀ outcome, Over l base (s.notes ++ [⟨notice, outcome⟩]) s.lifecycle where
  turn stays turn := stays.turn ended turn
  leave := id
  queue _ stays _ := stays
  reacting _ _ := ⟨fun stays turn outcome => (stays outcome).turn ended turn, id, fun _ stays _ => stays⟩
  shown {s s' d notice} _ _ gives stays outcome := by
    have notes : s'.notes = s.notes := by rw [gives.frame]
    have still := stays.turn ended gives.turn
    have shows : notice.phase = l.phase := by rw [gives.phase, phase, still.lifecycle]
    simp only [notes]
    exact still.concat shows outcome
  noted stays _ := stays _
  hush := id

namespace Station

variable (dev : Device σ) {st st₀ : Station (Journal σ)} {gone : Bool}

/-- Nothing but another configuration changes a session that is over. -/
theorem over_run (settled : Settled none gone st) {steps : List (Step σ)} {l : Lifecycle Failure}
    {base : Nat} (kept : acceptances dev steps st = []) (ended : l.phase.isTerminal = true)
    (stays : Over l base st.session.notes st.session.lifecycle) :
    Over l base (run dev steps st).session.notes (run dev steps st).session.lifecycle := by
  refine (Session.lasting_over ended base).run dev settled kept ?_ (fun _ stays => stays) stays
  intro after _ _ stays configured
  -- a session that is over cannot be started
  rw [Session.phase, stays.lifecycle] at configured
  rw [configured] at ended
  cases ended

/-- Behind a step that leaves the session over nothing changes, and all that is still told shows it over. -/
theorem over_behind (settled : Settled none gone st) {step : Step σ} {later : List (Step σ)}
    (kept : acceptances dev later (st.step dev step) = [])
    (ended : (st.act dev step).session.phase.isTerminal = true) :
    Over (st.act dev step).session.lifecycle (st.act dev step).session.notes.length
      (run dev later (st.step dev step)).session.notes (run dev later (st.step dev step)).session.lifecycle := by
  -- the step itself ends with the closing notice of a delivery that was under way
  have closing := (Session.lasting_over ended _).close dev (settled.act dev step).sound (.refl _ _)
  exact over_run dev (settled.step dev step) kept ended closing

/-- A session that is over ended in one of its steps. -/
theorem exists_ending {steps : List (Step σ)} (going : st.session.phase.isTerminal = false)
    (ended : (run dev steps st).session.phase.isTerminal = true) :
    ∃ earlier step later, steps = earlier ++ step :: later ∧
      (run dev earlier st).session.phase.isTerminal = false ∧
      (run dev (earlier ++ [step]) st).session.phase.isTerminal = true := by
  -- by induction on the steps
  induction steps generalizing st with
  | nil =>
    rw [run, List.foldl_nil, going] at ended
    cases ended
  | cons step rest ih =>
    cases after : (st.step dev step).session.phase.isTerminal with
    | true => exact ⟨[], step, rest, rfl, going, after⟩
    | false =>
      obtain ⟨earlier, last, later, rfl, before, ends⟩ := ih after ended
      exact ⟨step :: earlier, last, later, rfl, before, ends⟩

end Station

/-! ## Calls of the owner -/

namespace Station

variable (dev : Device σ) {st : Station (Journal σ)} {gone : Bool}

/-- What a call of the owner leaves for good. What ended the session by the time a request was answered stays
so. If the call fails, it was the first request that failed, and this is what failed the session, unless it
was over by then; or no request failed, but a handler got no thread. -/
structure Latches (call : Operation) (before st : Station (Journal σ)) (moments : List Moment) : Prop where
  watched : (before.watching []).call (Port.owner dev.journaled).watched call =
    ((before.call (.owner dev.journaled) call).1,
      (before.call (.owner dev.journaled) call).2.watching moments)
  kept : ∀ m ∈ moments, m.session.phase.isTerminal = true →
    st.session.lifecycle = m.session.lifecycle
  first : ∀ f, (before.call (.owner dev.journaled) call).1.failure? = some f → f.isRefusal = false →
    (∃ m, (moments.find? fun m => m.failure?.isSome) = some m ∧ m.failure? = some f ∧
      (m.session.phase.isTerminal = false → st.session.lifecycle = .failed f)) ∨
    ∃ fault ∈ call.threadFault, f = .device fault ∧ ∀ m ∈ moments, m.failure? = none

theorem latches_of_call (calls : Calls dev (.owner dev.journaled) st) (settled : Settled none gone st)
    (live : st.session.live = true) {call : Operation} {later : List (Step σ)}
    (kept : acceptances dev (.perform call.command :: later) st = []) :
    ∃ moments, Latches dev call st (run dev (.perform call.command :: later) st) moments := by
  obtain ⟨moments, watched, blames⟩ := call_accounts dev calls call
  obtain ⟨none, rest⟩ := (acceptances_cons dev).1 kept
  have latched := call_latched dev settled live call none
  rw [watched] at latched
  have stays : (st.call (.owner dev.journaled) call).2.session.phase.isTerminal = true →
      (run dev (.perform call.command :: later) st).session.lifecycle =
        (st.call (.owner dev.journaled) call).2.session.lifecycle := by
    have acts : st.act dev (.perform call.command) = (st.call (.owner dev.journaled) call).2 := by
      rw [act, if_pos live, call_owner]
    rw [← acts]
    exact fun ended => (over_behind dev settled rest ended).lifecycle
  refine ⟨moments, watched, fun m member ended => ?_, fun f fails other => ?_⟩
  · have same : (st.call (.owner dev.journaled) call).2.session.lifecycle = m.session.lifecycle :=
      latched.kept m member ended
    rw [stays (by rw [Session.phase, same]; exact ended), same]
  · have lasts : Ends moments f (st.call (.owner dev.journaled) call).2 →
        ∃ m, (moments.find? fun m => m.failure?.isSome) = some m ∧ m.failure? = some f ∧
          (m.session.phase.isTerminal = false →
            (run dev (.perform call.command :: later) st).session.lifecycle = .failed f) := by
      rintro ⟨ended, m, first, fault, cause⟩
      exact ⟨m, first, fault, fun going => (stays ended).trans (cause going).1⟩
    cases thread : call.threadFault with
    | none => exact .inl (lasts ((blames f fails).failed other thread))
    | some fault =>
      obtain ends | ⟨same, quiet, _⟩ := (blames f fails).unheard other fault thread
      · exact .inl (lasts ends)
      · exact .inr ⟨fault, rfl, same, quiet⟩

end Station

/-! ## Handlers -/

/-- The last panic among some reactions. -/
def lastPanic (reactions : List Reaction) : Option String :=
  (reactions.filterMap Station.panicOf).getLast?

/-- The reaction to a notice; behind the last one the handler does nothing. -/
def reactionAt (reactions : List Reaction) (i : Nat) : Reaction := reactions[i]?.getD .nothing

theorem headD_drop (reactions : List Reaction) (i : Nat) :
    (reactions.drop i).headD .nothing = reactionAt reactions i := by
  rw [List.headD_eq_head?_getD, List.head?_drop, reactionAt]

theorem reactionAt_of_getElem? {reactions : List Reaction} {i : Nat} {reaction : Reaction}
    (reacts : reactions[i]? = some reaction) : reactionAt reactions i = reaction := by
  rw [reactionAt, reacts, Option.getD_some]

theorem lastPanic_take_succ (reactions : List Reaction) (i : Nat) :
    lastPanic (reactions.take (i + 1)) =
      (Station.panicOf (reactionAt reactions i) <|> lastPanic (reactions.take i)) := by
  rw [List.take_add_one, reactionAt]
  cases reactions[i]? with
  | none => simp [Station.panicOf]
  | some reaction =>
    cases panics : Station.panicOf reaction with
    | none => simp [lastPanic, panics]
    | some text => simp [lastPanic, panics]

/-- Notice number `i` of a handler tells the truth about a session whose lifecycle is `l` by now. -/
structure Truthful (reactions : List Reaction) (i : Nat) (l : Lifecycle Failure) (notice : Notice) :
    Prop where
  latched : notice.phase.isTerminal = true → l.phase = notice.phase
  cause : notice.phase = .failed → notice.failure = l.cause
  panic : notice.phase ≠ .failed →
    notice.failure = (lastPanic (reactions.take i)).map .handlerPanicked
  stopped : ∀ j < i, reactions[j]? = some .stop → notice.phase.isTerminal = true

theorem Truthful.onward {reactions : List Reaction} {i : Nat} {l l' : Lifecycle Failure} {notice : Notice}
    (told : Truthful reactions i l notice) (onward : l.Onward l') : Truthful reactions i l' notice := by
  have same : notice.phase.isTerminal = true → l' = l := fun ended =>
    onward.ended (by rw [told.latched ended, ended])
  refine ⟨fun ended => ?_, fun failed => ?_, told.panic, told.stopped⟩
  · rw [same ended, told.latched ended]
  · rw [same (by rw [failed]; rfl), told.cause failed]

/-- What is known of a handler's notes. -/
structure Recalls (reactions : List Reaction) (notes : List Note) (panic : Option String)
    (l : Lifecycle Failure) : Prop where
  cause : ∀ f, l = .failed f → f.endsRun = true
  panic : panic = lastPanic (reactions.take notes.length)
  stopped : ∀ i < notes.length, reactions[i]? = some .stop → l.phase.isTerminal = true
  told : ∀ i note, notes[i]? = some note → Truthful reactions i l note.notice ∧
    (reactions[i]? = some .stop → note.notice.phase.isTerminal = true → note.outcome = .finished (.ok ()))

namespace Recalls

variable {reactions : List Reaction} {notes : List Note} {panic : Option String}
  {l l' : Lifecycle Failure} {notice : Notice} {outcome : Outcome}

/-- Nothing was told, and nobody panicked. -/
theorem nil (cause : ∀ f, l = .failed f → f.endsRun = true) (reactions : List Reaction) :
    Recalls reactions [] none l :=
  ⟨cause, rfl, by simp, by simp⟩

theorem turn (recalls : Recalls reactions notes panic l) (turn : l.Turn l') :
    Recalls reactions notes panic l' where
  cause := turn.endsRun recalls.cause
  panic := recalls.panic
  stopped i shown stops := turn.onward.isTerminal (recalls.stopped i shown stops)
  told i note listed := by
    obtain ⟨told, again⟩ := recalls.told i note listed
    exact ⟨told.onward turn.onward, again⟩

theorem concat (recalls : Recalls reactions notes panic l) (told : Truthful reactions notes.length l notice)
    (stopped : reactionAt reactions notes.length = .stop → l.phase.isTerminal = true)
    (again : reactionAt reactions notes.length = .stop → notice.phase.isTerminal = true →
      outcome = .finished (.ok ())) :
    Recalls reactions (notes ++ [⟨notice, outcome⟩])
      (Station.panicOf (reactionAt reactions notes.length) <|> panic) l where
  cause := recalls.cause
  panic := by rw [List.length_append, List.length_singleton, lastPanic_take_succ, recalls.panic]
  stopped i shown stops := by
    rw [List.length_append, List.length_singleton] at shown
    cases Nat.lt_succ_iff_lt_or_eq.1 shown with
    | inl earlier => exact recalls.stopped i earlier stops
    | inr latest =>
      subst latest
      exact stopped (reactionAt_of_getElem? stops)
  told i note listed := by
    by_cases earlier : i < notes.length
    · rw [List.getElem?_append_left earlier] at listed
      exact recalls.told i note listed
    · -- the latest note
      obtain rfl : i = notes.length := by
        have shown := (List.getElem?_eq_some_iff.1 listed).1
        rw [List.length_append, List.length_singleton] at shown
        omega
      rw [List.getElem?_concat_length] at listed
      cases listed
      exact ⟨told, fun stops => again (reactionAt_of_getElem? stops)⟩

/-- A notice shows the phase of its session, with the cause of its failure or else the last panic. -/
theorem shown {s s' : Session}
    (recalls : Recalls reactions notes s.panic s.lifecycle) (gives : s.Gives notice s') :
    Truthful reactions notes.length s'.lifecycle notice where
  latched _ := gives.phase.symm
  cause failed := by
    rw [gives.phase] at failed
    obtain ⟨f, failed⟩ := Session.exists_cause failed
    rw [gives.failure, Session.failure_of_failed failed, failed]
    rfl
  panic other := by
    have panic : s'.panic = s.panic := by rw [gives.frame]
    rw [gives.phase] at other
    rw [gives.failure, Session.failure_of_not_failed other, panic, recalls.panic]
  stopped j earlier stops := by
    rw [gives.phase]
    exact gives.turn.onward.isTerminal (recalls.stopped j earlier stops)

end Recalls

/-! ## What a session recounts -/

namespace Session

variable {reactions : List Reaction} {base : Nat}

/-- The session tells the truth about the handler that reacts as given, whose first note is number
`base`. -/
structure Recounts (reactions : List Reaction) (base : Nat) (s : Session) : Prop where
  counted : base ≤ s.notes.length
  fresh : s.phase.begun = false → s.notes.length = base
  recalls : Recalls reactions (s.notes.drop base) s.panic s.lifecycle
  awaits : ∀ d, s.delivery = some d → d.reactions = reactions.drop (s.notes.drop base).length

/-- It does so while the handler reacts to its next notice. -/
structure Recounting (reactions : List Reaction) (base : Nat) (notice : Notice) (reaction : Reaction)
    (s : Session) : Prop where
  counted : base ≤ s.notes.length
  begun : s.phase.begun = true
  recalls : Recalls reactions (s.notes.drop base) s.panic s.lifecycle
  told : Truthful reactions (s.notes.drop base).length s.lifecycle notice
  reacts : reaction = reactionAt reactions (s.notes.drop base).length
  awaits : ∀ d, s.delivery = some d → d.reactions = reactions.drop ((s.notes.drop base).length + 1)

theorem steady_recounts : Steady (Recounts reactions base) where
  turn {s l} recounts turn := by
    refine ⟨recounts.counted, fun fresh => recounts.fresh ?_, recounts.recalls.turn turn, recounts.awaits⟩
    cases begun : s.phase.begun with
    | false => rfl
    | true => cases (turn.onward.begun begun).symm.trans fresh
  leave recounts := ⟨recounts.counted, recounts.fresh, recounts.recalls, recounts.awaits⟩
  queue {s d} queue recounts delivery := by
    refine ⟨recounts.counted, recounts.fresh, recounts.recalls, ?_⟩
    rintro _ ⟨⟩
    exact recounts.awaits d delivery

theorem steady_recounting (notice : Notice) (reaction : Reaction) :
    Steady (Recounting reactions base notice reaction) where
  turn recounts turn := ⟨recounts.counted, turn.onward.begun recounts.begun,
    recounts.recalls.turn turn, recounts.told.onward turn.onward, recounts.reacts, recounts.awaits⟩
  leave recounts := ⟨recounts.counted, recounts.begun, recounts.recalls, recounts.told,
    recounts.reacts, recounts.awaits⟩
  queue {s d} queue recounts delivery := by
    refine ⟨recounts.counted, recounts.begun, recounts.recalls, recounts.told, recounts.reacts, ?_⟩
    rintro _ ⟨⟩
    exact recounts.awaits d delivery

theorem lasting_recounts : Lasting (Recounts reactions base) (Recounting reactions base) where
  toSteady := steady_recounts
  reacting := steady_recounting
  shown {s s' d notice} sound delivery gives recounts := by
    have notes : s'.notes = s.notes := by rw [gives.frame]
    have panic : s'.panic = s.panic := by rw [gives.frame]
    have counted := recounts.counted
    have told := recounts.recalls.shown gives
    have recalls := recounts.recalls.turn gives.turn
    have awaits := recounts.awaits d delivery
    rw [← notes] at counted told recalls awaits
    rw [← panic] at recalls
    refine ⟨counted, gives.turn.onward.begun (sound.begun delivery), recalls, told, ?_, ?_⟩
    · rw [awaits, headD_drop]
    · rintro _ ⟨⟩
      simp only [awaits, List.tail_drop]
  noted {s notice reaction outcome} recounting reacts := by
    have stopped := reacts.stopped
    have again := reacts.again
    rw [recounting.reacts] at stopped again
    have recalls := recounting.recalls.concat recounting.told stopped again
    rw [← recounting.reacts, ← List.drop_append_of_le_length recounting.counted] at recalls
    refine ⟨?_, ?_, recalls, ?_⟩
    · simp only [List.length_append]
      exact Nat.le_add_right_of_le recounting.counted
    · intro fresh
      cases recounting.begun.symm.trans fresh
    · intro d delivery
      rw [recounting.awaits d delivery, List.drop_append_of_le_length recounting.counted,
        List.length_append, List.length_singleton]
  hush recounts := ⟨recounts.counted, recounts.fresh, recounts.recalls, by rintro _ ⟨⟩⟩

/-- Before a run begins nobody is told anything. -/
theorem Recounts.untold {s : Session} (recounts : Recounts reactions base s)
    (fresh : s.phase.begun = false) : s.notes.drop base = [] ∧ s.panic = none := by
  have none : s.notes.drop base = [] := by rw [← recounts.fresh fresh, List.drop_length]
  have panic := recounts.recalls.panic
  rw [none] at panic
  exact ⟨none, panic⟩

theorem Recounts.enlist {s : Session} (recounts : Recounts reactions base s)
    (fresh : s.phase.begun = false) (closed : s.delivery = none) (others : List Reaction) :
    Recounts others base s := by
  obtain ⟨none, calm⟩ := recounts.untold fresh
  refine ⟨recounts.counted, recounts.fresh, ?_, by simp [closed]⟩
  rw [none, calm]
  exact .nil recounts.recalls.cause others

end Session

namespace Station

variable (dev : Device σ) {st st₀ : Station (Journal σ)} {gone : Bool} {reactions : List Reaction}
  {base : Nat}

/-- The handler that a step gives to a session which can be started, if it gets a thread. -/
def enlisted? (step : Step σ) (st : Station (Journal σ)) : Option (List Reaction) :=
  match step with
  | .perform (.startNotified reactions _ none) =>
    if st.session.live && st.session.phase == .configured then some reactions else none
  | _ => none

/-- The reactions of the handler that the session has behind some steps. -/
def handlerBehind : List (Step σ) → List Reaction → Station (Journal σ) → List Reaction
  | [], reactions, _ => reactions
  | step :: rest, reactions, st =>
    handlerBehind rest ((st.enlisted? step).getD reactions) (st.step dev step)

theorem enlisted_of_start {step : Step σ} {tag : Int} (starts : step.start? = some (some reactions, tag))
    (live : st.session.live = true) (configured : st.session.phase = .configured) :
    st.enlisted? step = some reactions := by
  cases step with
  | perform command =>
    cases command with
    | startNotified others other refusal =>
      cases refusal with
      | none =>
        cases starts
        simp [enlisted?, live, configured]
      | some _ => cases starts
    | _ => cases starts
  | _ => cases starts

theorem configured_of_enlisted {step : Step σ} {others : List Reaction}
    (enlisted : st.enlisted? step = some others) : st.session.phase = .configured := by
  simp only [enlisted?] at enlisted
  split at enlisted
  next =>
    split at enlisted
    next ready => simp_all
    next => cases enlisted
  next => cases enlisted

theorem recounts_step (settled : Settled none gone st) {step : Step σ}
    (kept : accepted? dev step st = none) (recounts : st.session.Recounts reactions base) :
    (st.step dev step).session.Recounts ((st.enlisted? step).getD reactions) base := by
  have enlists : st.session.Recounts ((st.enlisted? step).getD reactions) base := by
    cases enlisted : st.enlisted? step with
    | none => exact recounts
    | some others =>
      have configured := configured_of_enlisted enlisted
      exact recounts.enlist (by rw [configured]; rfl) (settled.sound.delivery_of_configured configured) _
  refine Session.lasting_recounts.step dev settled kept ?_ ?_ enlists
  · intro handler tag starts live configured
    obtain ⟨none, calm⟩ := enlists.untold (by rw [configured]; rfl)
    refine ⟨enlists.counted, by rintro ⟨⟩, ?_, ?_⟩
    · simp only [Station.armed, none, calm]
      exact .nil (by simp) _
    · intro d delivery
      cases handler with
      | none => cases delivery
      | some others =>
        rw [enlisted_of_start starts live configured]
        cases delivery
        simp only [Station.armed, none]
        rfl
  · rintro - s data recounts
    exact ⟨recounts.counted, recounts.fresh, recounts.recalls, recounts.awaits⟩

theorem recounts_run (settled : Settled none gone st) {steps : List (Step σ)}
    (kept : acceptances dev steps st = []) (recounts : st.session.Recounts reactions base) :
    (run dev steps st).session.Recounts (handlerBehind dev steps reactions st) base := by
  -- by induction on the steps
  induction steps generalizing st gone reactions with
  | nil => exact recounts
  | cons step rest ih =>
    obtain ⟨none, later⟩ := (acceptances_cons dev).1 kept
    exact ih (settled.step dev step) later (recounts_step dev settled none recounts)

theorem Fresh.recounts (fresh : Fresh st) : st.session.Recounts [] st.session.notes.length where
  counted := Nat.le_refl _
  fresh _ := rfl
  recalls := by
    rw [List.drop_length, fresh.panic]
    refine .nil ?_ []
    intro f failed
    have idle := fresh.idle
    rw [Session.phase, failed] at idle
    cases idle
  awaits d delivery := by
    rw [fresh.closed] at delivery
    cases delivery

/-- **The end of a run is latched, and its cause is kept.** Take a session that was just bound or has just
accepted a configuration, and steps in which it accepts no other one. Once it is over, neither its phase
nor the cause of its failure changes. A failed session shows the failure that the step in which it ended
came up with, a fault of the device or a breach of the protocol; within a call this is the first one, and
nothing that ended the session by the time a request was answered is undone. In every other phase the
session shows the last panic of its handler, if there was one. Each notice shows the same as the session did
at that time. -/
theorem failure_of_run (anew : Anew dev st₀) (since : List (Step σ)) (kept : acceptances dev since st₀ = [])
    (course : st = run dev since st₀) {notes : List Note} {handler : List Reaction}
    (told : notes = st.session.notes.drop st₀.session.notes.length)
    (reacts : handler = handlerBehind dev since [] st₀) :
    (∀ earlier later, since = earlier ++ later →
        (run dev earlier st₀).session.phase.isTerminal = true →
        st.session.phase = (run dev earlier st₀).session.phase ∧
          (st.session.phase = .failed → st.session.failure = (run dev earlier st₀).session.failure)) ∧
      (st.session.phase = .failed → ∃ f earlier step later,
        st.session.failure = some f ∧ f.endsRun = true ∧ since = earlier ++ step :: later ∧
          (run dev earlier st₀).session.phase.isTerminal = false ∧
          (run dev (earlier ++ [step]) st₀).session.failure = some f) ∧
      (∀ earlier call later, since = earlier ++ .perform (Operation.command call) :: later →
        (run dev earlier st₀).session.live = true →
        ∃ moments, Latches dev call (run dev earlier st₀) st moments) ∧
      (st.session.phase ≠ .failed →
        st.session.failure = (lastPanic (handler.take notes.length)).map .handlerPanicked) ∧
      ∀ i note, notes[i]? = some note → Truthful handler i st.session.lifecycle note.notice := by
  obtain ⟨gone, settled⟩ := anew.settled
  have recounts := recounts_run dev settled kept anew.fresh.recounts
  rw [← course, ← reacts] at recounts
  have recalls := recounts.recalls
  rw [← told] at recalls
  have latched : ∀ earlier later, since = earlier ++ later →
      (run dev earlier st₀).session.phase.isTerminal = true →
      st.session.lifecycle = (run dev earlier st₀).session.lifecycle := by
    rintro earlier later rfl ended
    have rest : acceptances dev later (run dev earlier st₀) = [] := by
      rw [acceptances_append, List.append_eq_nil_iff] at kept
      exact kept.2
    rw [course, run_append]
    exact (over_run dev (settled.run dev earlier) rest ended (.refl _ _)).lifecycle
  refine ⟨?_, ?_, ?_, ?_, fun i note listed => (recalls.told i note listed).1⟩
  · intro earlier later split ended
    have same := latched earlier later split ended
    refine ⟨by rw [Session.phase, same, Session.phase], fun failed => ?_⟩
    obtain ⟨f, failed⟩ := Session.exists_cause failed
    rw [Session.failure_of_failed failed, Session.failure_of_failed (same ▸ failed)]
  · intro failed
    have ended : st.session.phase.isTerminal = true := by rw [failed]; rfl
    have going : st₀.session.phase.isTerminal = false := by
      have idle := anew.fresh.idle
      simp_all [Phase.begun]
    obtain ⟨f, failed⟩ := Session.exists_cause failed
    obtain ⟨earlier, step, later, split, before, ends⟩ := exists_ending dev going (course ▸ ended)
    have same := latched (earlier ++ [step]) later (by rw [split, List.append_assoc]; rfl) ends
    exact ⟨f, earlier, step, later, Session.failure_of_failed failed, recalls.cause f failed, split, before,
      Session.failure_of_failed (same ▸ failed)⟩
  · rintro earlier call later rfl live
    obtain ⟨handle, options, device, before, origin⟩ := anew.exists_run
    have owner : Calls dev (.owner dev.journaled) (run dev earlier st₀) :=
      .owner handle options device _ (by rw [← run_eq_course, run_append, ← origin]) live
    rw [acceptances_append, List.append_eq_nil_iff] at kept
    rw [course, run_append]
    exact latches_of_call dev owner (settled.run dev earlier) live kept.2
  · intro other
    rw [Session.failure_of_not_failed other, recalls.panic]

/-- A handler panics, then the device fails, then the handler panics again. -/
theorem failure_of_panickingHandler :
    let fault : DeviceFault := ⟨.timeout, 0, "no answer"⟩
    let reactions : List Reaction := [.panic (some "first"), .panic none]
    let first : List (Step Playback) := [.perform (.startNotified reactions 5),
      .receive ⟨.running, none, [⟨0, [⟨7, 0⟩]⟩], 5⟩]
    let rest : List (Step Playback) := [.receive ⟨.failed, some fault, [], 5⟩, .halt]
    let bound : Station (Journal Playback) := ⟨.bind ⟨0⟩ .standard, ⟨.blank, []⟩⟩
    let st₀ := step Playback.device (.perform (.configure oneAddress)) bound
    let st := run Playback.device (first ++ rest) st₀
    acceptances Playback.device (first ++ rest) st₀ = [] ∧
      (run Playback.device first st₀).session.failure = some (.handlerPanicked "first") ∧
      st.session.panic = some "unknown panic payload" ∧
      (∃ f, st.session.failure = some f ∧ f.endsRun = true) ∧
      ∀ note, st.session.notes[1]? = some note → note.notice.phase = .failed →
        note.notice.failure = st.session.lifecycle.cause := by
  intro fault reactions first rest bound st₀ st
  have anew : Anew Playback.device st₀ := .configured ⟨0⟩ .standard .blank [] rfl (by decide +kernel)
  have kept : acceptances Playback.device (first ++ rest) st₀ = [] := by decide +kernel
  have begun : acceptances Playback.device first st₀ = [] := by decide +kernel
  have silent : st₀.session.notes.length = 0 := by decide +kernel
  obtain ⟨_, _, _, panicked, _⟩ := failure_of_run Playback.device anew first begun rfl rfl rfl
  have course : st = run Playback.device (first ++ rest) st₀ := rfl
  obtain ⟨_, failed, _, _, told⟩ := failure_of_run Playback.device anew (first ++ rest) kept course
    (show st.session.notes = _ by rw [silent, List.drop_zero]) rfl
  have other : (run Playback.device first st₀).session.phase ≠ .failed := by decide +kernel
  have text : (lastPanic ((handlerBehind Playback.device first [] st₀).take
      ((run Playback.device first st₀).session.notes.drop st₀.session.notes.length).length)).map
        Failure.handlerPanicked = some (.handlerPanicked "first") := by decide +kernel
  obtain ⟨f, _, _, _, failure, ends, _⟩ := failed (by decide +kernel)
  exact ⟨kept, (panicked other).trans text, by decide +kernel, ⟨f, failure, ends⟩,
    fun note listed => (told 1 note listed).cause⟩

end Station

end TriggeredSampler
