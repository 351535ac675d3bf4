import TriggeredSampler.Proofs.Session.Alike.Operations
import TriggeredSampler.Proofs.Session.Notices

/-! # Panicking handlers

A panic of a handler is remembered as what failed the session, if nothing else did. It changes nothing
else: a session whose handlers panic goes the same way as one whose handlers do nothing there.

* `Station.run_alike` — two histories that differ in panics only.
* `Station.run_of_calmerHandlers` — what both histories have in common, step by step.
-/

namespace TriggeredSampler

variable {σ : Type}

/-- The second step is the first one, or its handler is calmer. -/
inductive Step.Calms : Step σ → Step σ → Prop where
  | same (step : Step σ) : Calms step step
  | perform {command command' : Command} (calms : command.Calms command') :
      Calms (.perform command) (.perform command')

namespace Station

variable (dev : Device σ) {st st' : Station (Journal σ)} {step step' : Step σ} {steps steps' : List (Step σ)}

theorem perform_alike {command command' : Command} (calms : command.Calms command')
    (alike : Alike Eq st st') :
    st'.reply? dev (.perform command') = st.reply? dev (.perform command) ∧
      Alike Eq (st.act dev (.perform command)) (st'.act dev (.perform command')) := by
  have performed := alike.perform dev.journaled.matches_self calms
  simp only [reply?, act, alike.session.live]
  split
  next => exact ⟨congrArg some performed.result, performed.alike⟩
  next => exact ⟨rfl, alike⟩

theorem act_alike (calms : step.Calms step') (alike : Alike Eq st st') :
    st'.reply? dev step' = st.reply? dev step ∧ Alike Eq (st.act dev step) (st'.act dev step') := by
  cases calms with
  | perform calms => exact perform_alike dev calms alike
  | same =>
    cases step with
    | perform command => exact perform_alike dev (.same command) alike
    | halt =>
      have halted := alike.halt dev.journaled.matches_self
      exact ⟨congrArg (some ∘ Reply.finished) halted.result, halted.alike⟩
    | receive report => exact ⟨rfl, alike.receive dev.journaled.matches_self report⟩
    | pass milliseconds => exact ⟨rfl, Alike.elapse dev.journaled.matches_self milliseconds alike⟩
    | disturb change =>
      have changed : (st'.act dev (.disturb change)).device = (st.act dev (.disturb change)).device := by
        simp only [act, alike.device]
      exact ⟨rfl, alike.session, changed.symm⟩
    | hangUp => exact ⟨rfl, alike.endDelivery⟩

theorem run_alike (calms : List.Forall₂ Step.Calms steps steps') (alike : Alike Eq st st') :
    Alike Eq (st.run dev steps) (st'.run dev steps') := by
  -- by induction on the steps
  induction calms generalizing st st' with
  | nil => exact alike
  | cons first _ ih =>
    have acted := (act_alike dev first alike).2
    exact ih (acted.close dev.journaled.matches_self)

/-- **Panics stay with the handler.** In a history of a session let some of the handlers' panics be
replaced by doing nothing. Then each step returns the same as before, the device is asked the same and is in
the same state, and the handlers are told the same. The sessions differ at most in what their handlers will
do and in what failed them, and there only if it is a panic for one of them. -/
theorem run_of_calmerHandlers (st : Station (Journal σ)) (calms : List.Forall₂ Step.Calms steps steps')
    (n : Nat) :
    let earlier := st.run dev (steps.take n)
    let earlier' := st.run dev (steps'.take n)
    (steps'[n]?.map fun step => earlier'.reply? dev step) =
        (steps[n]?.map fun step => earlier.reply? dev step) ∧
      earlier'.device = earlier.device ∧
      earlier.session.Alike earlier'.session ∧
      List.Forall₂ Note.Alike earlier.session.notes earlier'.session.notes ∧
      Failure.Alike earlier.session.failure earlier'.session.failure := by
  intro earlier earlier'
  have begun : Alike Eq st st := ⟨.refl st.session, rfl⟩
  have alike : Alike Eq earlier earlier' := run_alike dev (List.forall₂_take n calms) begun
  refine ⟨?_, alike.device.symm, alike.session, alike.session.notes, alike.session.failure⟩
  by_cases inside : n < steps.length
  · have inside' : n < steps'.length := calms.length_eq ▸ inside
    rw [List.getElem?_eq_getElem inside, List.getElem?_eq_getElem inside']
    exact congrArg some (act_alike dev (calms.get inside inside') alike).1
  · have outside' : steps'.length ≤ n := calms.length_eq ▸ Nat.le_of_not_lt inside
    rw [List.getElem?_eq_none (Nat.le_of_not_lt inside), List.getElem?_eq_none outside']
    rfl

/-- Of two handlers that are told the same, one panics at its first notice. -/
theorem run_of_panickingHandler :
    let history (reactions : List Reaction) : List (Step Playback) :=
      [.perform (.configure oneAddress), .perform (.startNotified reactions 5),
        .receive ⟨.running, none, [⟨0, [⟨7, 0⟩]⟩], 5⟩,
        .receive ⟨.completed, none, [⟨0, [⟨8, 10⟩]⟩], 5⟩]
    let bound : Station (Journal Playback) := ⟨.bind ⟨0⟩ .standard, ⟨.blank, []⟩⟩
    let notes := (bound.run Playback.device (history [.panic (some "overrun")])).session.notes
    let notes' := (bound.run Playback.device (history [.nothing])).session.notes
    List.Forall₂ Step.Calms (history [.panic (some "overrun")]) (history [.nothing]) ∧
      List.Forall₂ Note.Alike notes notes' ∧
      notes.map (fun note => note.notice.failure) = [none, some (.handlerPanicked "overrun")] ∧
      notes'.map (fun note => note.notice.failure) = [none, none] := by
  intro history bound notes notes'
  have calms : List.Forall₂ Step.Calms (history [.panic (some "overrun")]) (history [.nothing]) :=
    .cons (.same _) (.cons (.perform (.startNotified (.cons (.calmed _) .nil) 5))
      (.cons (.same _) (.cons (.same _) .nil)))
  obtain ⟨_, _, _, noted, _⟩ := run_of_calmerHandlers Playback.device bound calms 4
  have all (reactions : List Reaction) : (history reactions).take 4 = history reactions := rfl
  rw [all, all] at noted
  exact ⟨calms, noted, by decide +kernel, by decide +kernel⟩

end Station

end TriggeredSampler
