import TriggeredSampler.Proofs.Session.Acts
import TriggeredSampler.Proofs.Session.Draining
import TriggeredSampler.Proofs.Session.Resting

/-! # A session that is told

Once a run was started with a handler, the reports of the session go to the handler and polls are refused.
That lasts until another configuration is accepted, whatever happens meanwhile.

* `Session.Engaged` — a session whose reports go to a handler.
* `Session.Engaged.launched` — a start with a handler.
* `Session.Engaged.occur`, `Session.Engaged.occurAll` — one act, and several.
* `Act.handed_of_notified` — a poll that is refused hands out nothing.
-/

namespace TriggeredSampler

variable {σ : Type}

namespace Session

/-- The reports go to the handler of a run that has begun. -/
def Told (s : Session) : Prop := s.Polling fun _ => False

namespace Told

variable {s s' : Session}

theorem notified (told : s.Told) : s.notified = true := by
  cases told with
  | told notified _ => exact notified
  | polled _ never => cases never

theorem begun (told : s.Told) : s.phase.begun = true := by
  cases told with
  | told _ begun => exact begun
  | polled _ never => cases never

theorem of_alike (alike : s.Alike s') (told : s'.Told) : s.Told :=
  .told (alike.notified.symm.trans told.notified) (alike.phase ▸ told.begun)

end Told

/-- A session between two operations, whose reports go to a handler. -/
structure Engaged (s : Session) : Prop where
  rests : s.Resting
  told : s.Told

end Session

namespace Session.Engaged

open Station (Fares)

variable (dev : Device σ) {st : Station σ}

/-- A session that launches its sampler with a handler. -/
theorem launched (rests : st.session.Resting) (live : st.session.live = true)
    (configured : st.session.lifecycle = .configured) (trigger : Trigger) (reactions : List Reaction)
    (tag : Int) :
    (((st.join dev).openDelivery (some reactions) tag).launch dev trigger
      (some reactions) tag).2.session.Told := by
  have settled := rests.settled ⟨st.device, []⟩
  have closed := rests.sound.delivery_of_configured (congrArg Lifecycle.phase configured)
  have opened : Station.Alike (fun a j => j.device = a ∧ True)
      ((st.join dev).openDelivery (some reactions) tag)
      (((Fares.noted st).join dev.journaled).openDelivery (some reactions) tag) := by
    have joined : (Fares.noted st).join dev.journaled = Fares.noted st := Station.join_of_closed _ closed
    rw [Station.join_of_closed dev closed, joined]
    exact ⟨.refl _, rfl, trivial⟩
  have alike := (opened.launch (Device.Keeps.always dev).matches_journaled trigger
    (rfl : (some reactions).isSome = (some reactions).isSome) tag).alike
  have launches := Station.launch_eq dev (show (Fares.noted st).session.delivery = none from closed)
    configured trigger (some reactions) tag
  rw [launches] at alike
  exact .of_alike alike.session ((lasting_polling _).launched dev settled.toCalm live trigger
    (some reactions) tag (.told rfl rfl))

/-! ## The operations -/

theorem receive (engaged : st.session.Engaged) (report : Report) :
    (st.receive dev report).session.Engaged := by
  have settled := engaged.rests.settled ⟨st.device, []⟩
  have alike := (Fares.alike_noted (J := fun _ => True) st trivial).receive
    (Device.Keeps.always dev).matches_journaled report
  exact ⟨(Fares.receive dev engaged.rests report).rests,
    .of_alike alike.session ((lasting_polling _).receive dev settled.sound report engaged.told)⟩

theorem close (engaged : st.session.Engaged) : (st.close dev).session.Engaged := by
  have settled := engaged.rests.settled ⟨st.device, []⟩
  have alike := (Fares.alike_noted (J := fun _ => True) st trivial).close
    (Device.Keeps.always dev).matches_journaled
  exact ⟨(Fares.close dev engaged.rests).rests,
    .of_alike alike.session ((lasting_polling _).close dev settled.sound engaged.told)⟩

theorem halt (engaged : st.session.Engaged) : (st.halt dev).2.session.Engaged := by
  have settled := engaged.rests.settled ⟨st.device, []⟩
  have alike := ((Fares.alike_noted (J := fun _ => True) st trivial).halt
    (Device.Keeps.always dev).matches_journaled).alike
  exact ⟨(Fares.halt dev engaged.rests).rests,
    .of_alike alike.session ((lasting_polling _).halt dev settled.toCalm engaged.told)⟩

/-- A command, unless a configuration is accepted. A run that has begun cannot be started. -/
theorem perform (engaged : st.session.Engaged) (live : st.session.live = true) {command : Command}
    (refused : ∀ c, command = .configure c → (st.configure dev c).1 ≠ .ok ()) :
    (st.perform dev command).2.session.Engaged := by
  have settled := engaged.rests.settled ⟨st.device, []⟩
  have noted := Fares.alike_noted (J := fun _ => True) st trivial
  have matching := (Device.Keeps.always dev).matches_journaled
  have alike := (noted.perform matching (.same command)).alike
  refine ⟨(Fares.perform dev engaged.rests live command).rests, .of_alike alike.session ?_⟩
  refine (lasting_polling _).perform dev settled live engaged.told ?_ ?_ ?_
  · intro c configures accepted
    exact refused c configures ((noted.configure matching c).result.symm.trans accepted)
  · intro _ _ _ configured
    have begun := engaged.told.begun
    rw [configured] at begun
    cases begun
  · intro _ s data told
    exact .told (Told.notified (s := s) told) (Told.begun (s := s) told)

theorem foldl_overhear (engaged : st.session.Engaged) (reports : List (Handle × Report)) :
    (reports.foldl (Station.overhear dev) st).session.Engaged := by
  -- by induction on the reports
  induction reports generalizing st with
  | nil => exact engaged
  | cons report rest ih =>
    have heard : (st.overhear dev report).session.Engaged := by
      unfold Station.overhear
      split
      next => exact engaged.receive dev report.2
      next => exact engaged
    exact ih heard

theorem elapse (engaged : st.session.Engaged) (milliseconds : Nat) :
    (st.elapse dev milliseconds).session.Engaged := by
  induction milliseconds generalizing st with
  | zero => exact engaged
  | succ milliseconds ih =>
    have moved : (⟨st.session, (dev.advance st.device).2⟩ : Station σ).session.Engaged := engaged
    exact ih (moved.foldl_overhear dev (dev.advance st.device).1)

end Session.Engaged

/-! ## Acts -/

namespace Act

variable {w : World σ} {st : Station σ}

theorem handed_of_notified (act : Act) (notified : st.session.notified = true) (width : Nat) :
    (act.occur w st).1.bind (Reply.handed? width) = none := by
  cases act with
  | pollHalted numbered =>
    simp only [occur, Station.pollHalted, Station.poll_of_notified _ notified,
      Station.pollRows_of_notified _ notified]
    split <;> cases numbered <;> rfl
  | turn turn =>
    cases turn with
    | perform command =>
      simp only [occur]
      split
      next =>
        cases command with
        | poll =>
          simp only [Station.perform, Station.pollData, Station.poll_of_notified _ notified]
          rfl
        | pollRows =>
          have refused := Station.pollRows_of_notified (Station.line w.device) notified
          rw [show st.perform w.device .pollRows = (.rows (.error (.misuse .pollWithHandler)), st) from
            congrArg (Prod.map Reply.rows id) refused]
          rfl
        | _ => rfl
      next => rfl
    | _ => rfl

end Act

namespace Session.Engaged

variable {w : World σ} {st : Station σ}

/-- An act that does not bring another configuration. -/
theorem occur (engaged : st.session.Engaged) (act : Act)
    (kept : ∀ r ∈ (act.occur w st).1, act.renews r = false) :
    (act.occur w st).2.session.Engaged := by
  cases act with
  | pollHalted numbered =>
    have notified := engaged.told.notified
    simp only [Act.occur, Station.pollHalted, Station.poll_of_notified _ notified,
      Station.pollRows_of_notified _ notified]
    split <;> cases numbered <;> exact engaged
  | turn turn =>
    cases turn with
    | perform command =>
      simp only [Act.occur] at kept ⊢
      split
      next live =>
        refine engaged.perform w.device live ?_
        rintro c rfl accepted
        simp [live, Station.perform, accepted, Act.renews] at kept
      next => exact engaged
    | halt => exact engaged.halt w.device
    | pass milliseconds => exact engaged.elapse w.device milliseconds
    | befall incidents =>
      have moved : (⟨st.session, (w.befall incidents st.device).2⟩ : Station σ).session.Engaged := engaged
      exact moved.foldl_overhear w.device (w.befall incidents st.device).1
    | close => exact engaged.close w.device

theorem occurAll (engaged : st.session.Engaged) (acts : List Act)
    (kept : ∀ entry ∈ (Act.occurAll w acts st).1, entry.1.renews entry.2 = false) :
    (Act.occurAll w acts st).2.session.Engaged := by
  induction acts generalizing st with
  | nil => exact engaged
  | cons act rest ih =>
    simp only [Act.occurAll, List.forall_mem_append, Act.forall_mem_reply] at kept ⊢
    exact ih (engaged.occur act kept.1) kept.2

end Session.Engaged

end TriggeredSampler
