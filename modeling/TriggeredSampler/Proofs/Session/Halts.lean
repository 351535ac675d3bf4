import TriggeredSampler.Proofs.Session.Calls
import TriggeredSampler.Proofs.Session.Causes

/-! # Stops, and stops behind them

Whoever stops a session finds it over when the stop returns, and it stays so: until another configuration is
accepted every further stop succeeds, asks the device for nothing and changes nothing.

* `Station.Halts`, `Station.halts_stop` — one stop, in whatever state the session is.
* `Station.Spent` — nothing is left for further stops to do.
* `Station.stop_of_run` — the stops of a run.
-/

namespace TriggeredSampler

variable {σ : Type}

/-- The session behind the answer to a stop. -/
def Session.stopped (s : Session) : Except DeviceFault Unit → Session
  | .error fault => s.fail (.device fault)
  | .ok _ => s.cancel

namespace Session

variable (s : Session) (answer : Except DeviceFault Unit)

theorem isTerminal_stopped : (s.stopped answer).phase.isTerminal = true := by
  cases answer with
  | error fault => exact Lifecycle.isTerminal_fail _ _
  | ok _ => exact Lifecycle.isTerminal_cancel _

theorem stopped_onward : s.lifecycle.Onward (s.stopped answer).lifecycle := by
  cases answer with
  | error fault => exact .fail _ _
  | ok _ => exact .cancel _

end Session

namespace Station

/-! ## One stop -/

/-- What a stop does; the moments are those at which the device answered it. -/
structure Halts (line : Line σ) (st : Station σ) (moments : List Moment) : Prop where
  watched : (st.watching []).stop (watched line) =
    ((st.stop line).1, (st.stop line).2.watching moments)
  ended : (st.stop line).2.session.phase.isTerminal = true
  again : st.session.phase.isTerminal = true → st.stop line = (.ok (), st)
  silent : st.session.phase.isTerminal = true ∨ st.session.phase = .unconfigured →
    moments = [] ∧ (st.stop line).2.device = st.device
  /-- Whoever ended the run while the device was asked ended it for good. -/
  latched : ∀ m ∈ moments, m.session.phase.isTerminal = true →
    (st.stop line).2.session.lifecycle = m.session.lifecycle
  cancelled : (st.stop line).1 = .ok () → st.session.phase.isTerminal = false →
    (∀ m ∈ moments, m.session.phase.isTerminal = false) →
    (st.stop line).2.session.phase = .cancelled

variable {line : Line σ} {st after : Station σ}

theorem stop_of_isTerminal (ended : st.session.phase.isTerminal = true) :
    st.stop line = (.ok (), st) :=
  if_pos ended

theorem stop_of_unconfigured (unconfigured : st.session.phase = .unconfigured) :
    st.stop line = (.ok (), { st with session := st.session.cancel }) := by
  rw [stop, unconfigured]
  rfl

/-- The device is asked only if there is a run that it could stop. -/
theorem stop_of_answer {answer : Except DeviceFault Unit} (going : st.session.phase.isTerminal = false)
    (known : st.session.phase ≠ .unconfigured) (answers : line .stop st = (answer, after)) :
    st.stop line =
      (answer.mapError .device, { after with session := after.session.stopped answer }) := by
  rw [stop, if_neg (by simp [going]), if_neg known, answers]
  cases answer <;> rfl

theorem halts_of_isTerminal (line : Line σ) (ended : st.session.phase.isTerminal = true) :
    Halts line st [] := by
  have stops : st.stop line = (.ok (), st) := stop_of_isTerminal ended
  constructor
  case watched => rw [stops, stop_of_isTerminal (by exact ended)]
  case ended => rw [stops, ended]
  case again => exact fun _ => stops
  case silent => exact fun _ => ⟨rfl, by rw [stops]⟩
  case latched => simp
  case cancelled => simp [ended]

theorem halts_of_unconfigured (line : Line σ) (unconfigured : st.session.phase = .unconfigured) :
    Halts line st [] := by
  have going : st.session.phase.isTerminal = false := by rw [unconfigured]; rfl
  have stops : st.stop line = (.ok (), { st with session := st.session.cancel }) :=
    stop_of_unconfigured unconfigured
  have cancels : st.session.cancel.phase = .cancelled := by
    rw [Session.phase, Session.cancel, Lifecycle.cancel_of_not_isTerminal going]
    rfl
  constructor
  case watched =>
    rw [stops, stop_of_unconfigured (by exact unconfigured)]
    rfl
  case ended => rw [stops, cancels]; rfl
  case again => simp [going]
  case silent => exact fun _ => ⟨rfl, by rw [stops]⟩
  case latched => simp
  case cancelled => exact fun _ _ _ => by rw [stops, cancels]

/-- The device is asked, and what happens until it has answered happens first. -/
theorem halts_of_answer {answer : Except DeviceFault Unit} (going : st.session.phase.isTerminal = false)
    (known : st.session.phase ≠ .unconfigured) (answers : line .stop st = (answer, after)) :
    Halts line st [⟨.stop, answer, after.session⟩] := by
  have stops := stop_of_answer going known answers
  have asked : watched line .stop (st.watching []) =
      (answer, after.watching [⟨.stop, answer, after.session⟩]) := by
    rw [watched_line, answers]
    rfl
  constructor
  case watched =>
    rw [stops, stop_of_answer (by exact going) (by exact known) asked]
    rfl
  case ended => rw [stops]; exact after.session.isTerminal_stopped answer
  case again => simp [going]
  case silent => simp [going, known]
  case latched =>
    intro m member ended
    rw [List.mem_singleton] at member
    subst member
    rw [stops]
    exact (after.session.stopped_onward answer).ended ended
  case cancelled =>
    intro ok _ going
    rw [stops] at ok ⊢
    cases answer with
    | error fault => cases ok
    | ok _ =>
      have going : after.session.lifecycle.phase.isTerminal = false := going _ (List.mem_singleton_self _)
      simp only [Session.stopped, Session.phase, Session.cancel, Lifecycle.cancel_of_not_isTerminal going]
      rfl

theorem halts_stop (line : Line σ) (st : Station σ) : ∃ moments, Halts line st moments := by
  cases ended : st.session.phase.isTerminal with
  | true => exact ⟨_, halts_of_isTerminal line ended⟩
  | false =>
    by_cases unconfigured : st.session.phase = .unconfigured
    · exact ⟨_, halts_of_unconfigured line unconfigured⟩
    · exact ⟨_, halts_of_answer ended unconfigured rfl⟩

/-! ## The stops of a run -/

theorem mem_drop_of_getElem? {α : Type} {xs : List α} {x : α} {m n i : Nat}
    (listed : (xs.drop m)[i]? = some x) (late : n - m ≤ i) : x ∈ xs.drop n := by
  rw [List.getElem?_drop] at listed
  have within : n + (m + i - n) = m + i := by omega
  exact List.mem_of_getElem? (by rw [List.getElem?_drop, within, listed])

variable (dev : Device σ) {st₀ st : Station (Journal σ)} {gone : Bool}

/-- The step is a stop that is carried out. -/
def stops (step : Step σ) (st : Station (Journal σ)) : Bool :=
  match step with
  | .halt => true
  | .perform .stop => st.session.live
  | _ => false

theorem act_of_stops {step : Step σ} (halts : st.stops step = true) :
    st.act dev step = (st.stop (Station.line dev.journaled)).2 := by
  cases step with
  | halt => rfl
  | perform command =>
    cases command with
    | stop => exact if_pos halts
    | _ => cases halts
  | _ => cases halts

/-- Nothing is left for stops to do, and from note number `i` on the handler's stops had nothing to do. -/
structure Spent (handler : List Reaction) (notes : List Note) (i : Nat) (st : Station (Journal σ)) :
    Prop where
  stop : ∀ line : Line (Journal σ), st.stop line = (.ok (), st)
  inside : ∀ j note, i ≤ j → notes[j]? = some note → note.notice.phase.isTerminal = true ∧
    (handler[j]? = some .stop → note.outcome = .finished (.ok ()))

/-- **Stopping ends a session, and once is enough.** However a stop reaches the device and whatever state
the session is in, the session is over when the stop returns. A session that is over already is left
alone, and nothing is asked of the device for one that was never configured. A stop that succeeds cancels
the session, unless something else ended it while the device was asked. Take then a session that was just
bound or has just accepted a configuration, and steps in which it accepts no other one. Behind the first
stop that returns, of its owner or of its handler, every stop succeeds, asks nothing and changes nothing. -/
theorem stop_of_run (anew : Anew dev st₀) (since : List (Step σ)) (kept : acceptances dev since st₀ = [])
    (course : st = run dev since st₀) {notes : List Note} {handler : List Reaction}
    (told : notes = st.session.notes.drop st₀.session.notes.length)
    (reacts : handler = handlerBehind dev since [] st₀) :
    (∀ (line : Line (Journal σ)) (any : Station (Journal σ)), ∃ moments, Halts line any moments) ∧
      (∀ earlier step later, since = earlier ++ step :: later →
        (run dev earlier st₀).stops step = true →
        Spent handler notes (((run dev earlier st₀).act dev step).session.notes.drop
          st₀.session.notes.length).length st) ∧
      ∀ i < notes.length, handler[i]? = some .stop → Spent handler notes (i + 1) st := by
  obtain ⟨gone, settled⟩ := anew.settled
  have recounts := recounts_run dev settled kept anew.fresh.recounts
  rw [← course, ← reacts] at recounts
  have recalls := recounts.recalls
  rw [← told] at recalls
  refine ⟨halts_stop, ?_, ?_⟩
  · rintro earlier step later rfl halts
    have before := settled.run dev earlier
    have ended : ((run dev earlier st₀).act dev step).session.phase.isTerminal = true := by
      obtain ⟨_, halting⟩ := halts_stop (Station.line dev.journaled) (run dev earlier st₀)
      rw [act_of_stops dev halts, halting.ended]
    have rest : acceptances dev later ((run dev earlier st₀).step dev step) = [] := by
      rw [acceptances_append, List.append_eq_nil_iff] at kept
      exact ((acceptances_cons dev).1 kept.2).2
    rw [run_append] at course
    have stays := over_behind dev before rest ended
    rw [show run dev later _ = st from course.symm] at stays
    refine ⟨fun line => stop_of_isTerminal ?_, fun j note behind listed => ?_⟩
    · rw [Session.phase, stays.lifecycle]
      exact ended
    · rw [List.length_drop] at behind
      have late := mem_drop_of_getElem? (told ▸ listed) behind
      have terminal : note.notice.phase.isTerminal = true := by rw [stays.shown note late]; exact ended
      exact ⟨terminal, fun stops => (recalls.told j note listed).2 stops terminal⟩
  · intro i shown stops
    refine ⟨fun line => stop_of_isTerminal (recalls.stopped i shown stops), fun j note behind listed => ?_⟩
    obtain ⟨truthful, again⟩ := recalls.told j note listed
    have ended := truthful.stopped i behind stops
    exact ⟨ended, fun stops => again stops ended⟩

/-- The device fails the stop of a handler, and while it is asked it sends a report, at which the handler
stops once more. -/
theorem stop_of_failingStop :
    let fault : DeviceFault := ⟨.timeout, 0, "no answer"⟩
    let prepared : Playback := { Playback.blank with
      stops := [some fault], onStop := [⟨.running, none, [⟨0, [⟨8, 10⟩]⟩], 5⟩] }
    let since : List (Step Playback) := [.perform (.startNotified [.stop, .stop] 5),
      .receive ⟨.running, none, [⟨0, [⟨7, 0⟩]⟩], 5⟩, .halt]
    let st₀ := step Playback.device (.perform (.configure oneAddress))
      ⟨.bind ⟨0⟩ .standard, ⟨prepared, []⟩⟩
    let st := run Playback.device since st₀
    acceptances Playback.device since st₀ = [] ∧ st.session.phase = .failed ∧
      st.session.notes.length = 2 ∧
      (∀ note, st.session.notes[1]? = some note → note.outcome = .finished (.ok ())) ∧
      ∀ line : Line (Journal Playback), st.stop line = (.ok (), st) := by
  intro fault prepared since st₀ st
  have anew : Anew Playback.device st₀ := .configured ⟨0⟩ .standard prepared [] rfl (by decide +kernel)
  have kept : acceptances Playback.device since st₀ = [] := by decide +kernel
  have silent : st₀.session.notes.length = 0 := by decide +kernel
  have course : st = run Playback.device since st₀ := rfl
  have shown : st.session.notes.length = 2 := by decide +kernel
  have handler : handlerBehind Playback.device since [] st₀ = [.stop, .stop] := by decide +kernel
  obtain ⟨_, _, inside⟩ := stop_of_run Playback.device anew since kept course
    (show st.session.notes = _ by rw [silent, List.drop_zero]) handler.symm
  have spent := inside 0 (by rw [shown]; decide) rfl
  exact ⟨kept, by decide +kernel, shown, fun note listed => (spent.inside 1 note (Nat.le_refl 1) listed).2 rfl,
    spent.stop⟩

end Station

end TriggeredSampler
