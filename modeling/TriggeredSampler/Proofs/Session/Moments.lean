import TriggeredSampler.Proofs.Session.Configuring
import TriggeredSampler.Proofs.Session.Failures
import TriggeredSampler.Proofs.Session.Nested

/-! # What ends a session within a call

A call makes several requests, and reports arrive while they are answered. Whatever ended the session by the
time a request was answered is what the session keeps when the call returns.

* `Station.Latched` — no moment of a call is undone.
* `Station.call_latched` — the calls of the owner.
-/

namespace TriggeredSampler

variable {σ : Type}

namespace Station

/-- A session that was over at some moment is still as it was then. -/
structure Latched (w : Station (Watched (Journal σ))) : Prop where
  sound : w.session.Sound
  kept : ∀ m ∈ w.device.moments, m.session.phase.isTerminal = true →
    w.session.lifecycle = m.session.lifecycle

variable (dev : Device σ) {w : Station (Watched (Journal σ))} {st : Station (Journal σ)} {gone : Bool}

namespace Latched

/-- Whatever leaves a session alone that is over undoes nothing. -/
theorem still (latched : Latched w) {l : Lifecycle Failure}
    (kept : w.session.phase.isTerminal = true → l = w.session.lifecycle) :
    ∀ m ∈ w.device.moments, m.session.phase.isTerminal = true → l = m.session.lifecycle := by
  intro m member ended
  have same := latched.kept m member ended
  rw [kept (by rw [Session.phase, same]; exact ended), same]

theorem change (latched : Latched w) {s : Session} (sound : s.Sound)
    (kept : w.session.phase.isTerminal = true → s.lifecycle = w.session.lifecycle) :
    Latched { w with session := s } :=
  ⟨sound, latched.still kept⟩

theorem onward (latched : Latched w) {l : Lifecycle Failure} (onward : w.session.lifecycle.Onward l) :
    Latched { w with session := { w.session with lifecycle := l } } := by
  refine latched.change ⟨latched.sound.numbering, fun delivering => ?_, latched.sound.stalled⟩ onward.ended
  obtain ⟨notified, begun⟩ := latched.sound.delivering delivering
  exact ⟨notified, onward.begun begun⟩

theorem line (latched : Latched w) (r : Request) :
    Latched (watched (line dev.journaled) r w).2 ∧
      w.session.lifecycle.Onward (watched (Station.line dev.journaled) r w).2.session.lifecycle := by
  obtain ⟨a, after, answers, answered⟩ := @answered_line _ dev ⟨w.session, w.device.device⟩ latched.sound r
  simp only [watched, answers]
  refine ⟨⟨answered.sound, fun m member ended => ?_⟩, answered.onward⟩
  cases List.mem_append.1 member with
  | inl earlier => exact latched.still answered.onward.ended m earlier ended
  | inr latest =>
    rw [List.mem_singleton.1 latest]
    rfl

/-- What is waited for once a session is idle is at most the rest of a delivery. -/
theorem join (latched : Latched w) (idle : w.session.phase.isActive = false) :
    Latched ((Port.owner dev.journaled).watched.join w) := by
  have keeps := @join_keeps _ dev ⟨w.session, w.device.device⟩ latched.sound idle
  simp only [Port.watched, Port.join_owner]
  exact ⟨keeps.sound latched.sound, latched.still keeps.onward.ended⟩

theorem dismiss (latched : Latched w) : Latched ((Port.owner dev.journaled).watched.dismiss w) := by
  simp only [Port.watched, Port.dismiss_owner, Station.dismiss]
  split
  next => exact latched
  next => exact latched.change ⟨latched.sound.numbering, by rintro ⟨⟩, latched.sound.stalled⟩ fun _ => rfl

/-! ## The operations -/

theorem stop (latched : Latched w) : Latched (w.stop (watched (Station.line dev.journaled))).2 := by
  rw [Station.stop]
  split
  next => exact latched
  next =>
    split
    next => exact latched.onward (.cancel _)
    next =>
      have asked := (latched.line dev .stop).1
      generalize watched (Station.line dev.journaled) .stop w = outcome at asked ⊢
      obtain ⟨result, after⟩ := outcome
      cases result with
      | error fault => exact asked.onward (.fail _ _)
      | ok _ => exact asked.onward (.cancel _)

theorem refresh (latched : Latched w) : Latched (w.refresh (watched (Station.line dev.journaled))).2 := by
  rw [Station.refresh]
  have asked := (latched.line dev .phase).1
  generalize watched (Station.line dev.journaled) .phase w = outcome at asked ⊢
  obtain ⟨result, after⟩ := outcome
  cases result with
  | error fault => exact asked.onward (.fail _ _)
  | ok reported =>
    have explained : Latched (after.faultBehind (watched (Station.line dev.journaled)) reported).2 := by
      rw [faultBehind]
      split
      next => exact (asked.line dev .fault).1
      next => exact asked
    simp only
    rw [Session.follow_eq]
    exact explained.onward (Session.follow_onward _ _ _)

theorem fetch (latched : Latched w) : Latched (w.fetch (watched (Station.line dev.journaled))).2 := by
  rw [Station.fetch]
  have asked := (latched.line dev .data).1
  generalize watched (Station.line dev.journaled) .data w = outcome at asked ⊢
  obtain ⟨result, after⟩ := outcome
  cases result with
  | error fault => exact asked.onward (.fail _ _)
  | ok data =>
    simp only
    split
    next breach _ => exact (Latched.line dev (asked.onward (.fail _ (.ofBreach breach))) .stop).1
    next => exact asked

theorem poll (latched : Latched w) : Latched (w.poll (watched (Station.line dev.journaled))).2 := by
  rw [Station.poll]
  split
  next => exact latched
  next =>
    split
    next => exact latched
    next =>
      have refreshed := latched.refresh dev
      generalize w.refresh (watched (Station.line dev.journaled)) = outcome at refreshed ⊢
      obtain ⟨result, after⟩ := outcome
      cases result with
      | error f => exact refreshed
      | ok _ => exact refreshed.fetch dev

theorem pollRows (latched : Latched w) :
    Latched (w.pollRowsAt (watched (Station.line dev.journaled))).2 := by
  rw [pollRowsAt]
  have polled := latched.poll dev
  generalize w.poll (watched (Station.line dev.journaled)) = outcome at polled ⊢
  obtain ⟨result, after⟩ := outcome
  cases result with
  | error f => exact polled
  | ok data =>
    have tracked := (after.session.numbering.tracked_number data).trans polled.sound.numbering
    exact polled.change ⟨tracked, polled.sound.delivering, polled.sound.stalled⟩ fun _ => rfl

/-- A configuration that is not accepted undoes nothing either. -/
theorem configure (latched : Latched w) {c : Configuration}
    (fails : (w.configureAt (Port.owner dev.journaled).watched c).1 ≠ .ok ()) :
    Latched (w.configureAt (Port.owner dev.journaled).watched c).2 := by
  simp only [configureAt, Port.inside_watched, Port.inside_owner, Bool.false_eq_true, if_false] at fails ⊢
  split at fails
  next => exact latched
  next =>
    split at fails
    next active => rw [if_pos active]; exact latched
    next idle =>
      rw [if_neg idle]
      have joined := latched.join dev (by simpa using idle)
      have asked := (joined.line dev (.configure c)).1
      simp only [Port.line_watched, Port.line_owner] at fails ⊢
      generalize watched (Station.line dev.journaled) (.configure c) _ = outcome at fails asked ⊢
      obtain ⟨result, after⟩ := outcome
      cases result with
      | error fault => exact asked.onward (.fail _ _)
      | ok _ =>
        simp only at fails ⊢
        split at fails
        next => exact asked
        next => exact absurd rfl fails

theorem writeTrigger (latched : Latched w) (t : Trigger) (offset : Int) :
    Latched (w.writeTriggerAt (watched (Station.line dev.journaled)) t offset).2 := by
  rw [writeTriggerAt]
  split
  next => exact (latched.line dev _).1
  next => exact latched

theorem activate (latched : Latched w) (t : Trigger) :
    Latched (w.activateAt (Port.owner dev.journaled).watched t).2 := by
  simp only [activateAt, Port.line_watched, Port.line_owner]
  have written := latched.writeTrigger dev t 1
  generalize w.writeTriggerAt (watched (Station.line dev.journaled)) t 1 = outcome at written ⊢
  obtain ⟨result, after⟩ := outcome
  cases result with
  | ok _ => exact written
  | error fault =>
    have failed : Latched (after.fail (.device fault)) := written.onward (.fail _ _)
    have ended : (after.fail (.device fault)).session.phase.isTerminal = true :=
      Lifecycle.isTerminal_fail _ _
    obtain ⟨stopped, onward⟩ := failed.line dev .stop
    exact stopped.join dev (Phase.isActive_of_isTerminal (onward.isTerminal ended))

theorem launch (latched : Latched w) (configured : w.session.lifecycle = .configured) (t : Trigger)
    (handler : Option (List Reaction)) (tag : Int) : Latched
      ((w.openDelivery handler tag).launchAt (Port.owner dev.journaled).watched t handler tag).2 := by
  have sound := @sound_armed _ ⟨w.session, w.device.device⟩ latched.sound handler tag
  -- arming takes the session from one phase that is not over to another
  have going : w.session.phase.isTerminal = false := by rw [Session.phase, configured]; rfl
  have armed := latched.change sound (by simp [going])
  have asked := (armed.line dev (.start handler.isSome tag)).1
  simp only [launchAt, openDelivery, configured, Lifecycle.arm, Port.line_watched, Port.line_owner]
  simp only [Station.armed] at asked
  generalize watched (Station.line dev.journaled) (.start handler.isSome tag) _ = outcome at asked ⊢
  obtain ⟨result, after⟩ := outcome
  cases result with
  | error fault =>
    have failed : Latched (after.fail (.device fault)) := asked.onward (.fail _ _)
    have idle : (after.fail (.device fault)).session.phase.isActive = false :=
      Phase.isActive_of_isTerminal (Lifecycle.isTerminal_fail _ _)
    refine (failed.dismiss dev).join dev ?_
    simp only [Port.watched, Port.dismiss_owner, Station.dismiss]
    split <;> exact idle
  | ok _ => exact asked.activate dev t

theorem start (latched : Latched w) (handler : Option (List Reaction)) (tag : Int) (refusal : Option String) :
    Latched (w.startAt (Port.owner dev.journaled).watched handler tag refusal).2 := by
  simp only [startAt, Port.inside_watched, Port.inside_owner, Bool.false_eq_true, if_false,
    Port.line_watched, Port.line_owner]
  cases startable : w.startTrigger with
  | error m => exact latched
  | ok t =>
    have configured : w.session.phase = .configured := by
      rw [startTrigger] at startable
      cases phase : w.session.phase <;> simp [phase] at startable ⊢
    have closed := latched.sound.delivery_of_configured configured
    have written := latched.writeTrigger dev t 0
    have same : (w.writeTriggerAt (watched (Station.line dev.journaled)) t 0).2.session = w.session := by
      rw [writeTriggerAt]
      split
      next => exact @line_closed _ dev.journaled ⟨w.session, w.device.device⟩ closed _
      next => rfl
    simp only
    generalize w.writeTriggerAt (watched (Station.line dev.journaled)) t 0 = outcome at written same ⊢
    obtain ⟨result, after⟩ := outcome
    cases result with
    | error fault => exact written.onward (.fail _ _)
    | ok _ =>
      -- nothing is delivered before the start, so it waits for nothing
      have closed : after.session.delivery = none := by rw [show after.session = _ from same, closed]
      have waits : (Port.owner dev.journaled).watched.join after = after := by
        simp only [Port.watched, Port.join_owner]
        rw [join_of_closed dev.journaled (by exact closed)]
        rfl
      have ready : after.session.lifecycle = .configured := by
        rw [show after.session = _ from same, Session.lifecycle_of_configured configured]
      simp only [waits]
      cases threadFault handler refusal with
      | some fault => exact written
      | none => exact written.launch dev ready t handler tag

end Latched

/-- A call of the owner that is not an accepted configuration undoes nothing. -/
theorem call_latched (settled : Settled none gone st) (live : st.session.live = true) (call : Operation)
    (kept : accepted? dev (.perform call.command) st = none) :
    Latched ((st.watching []).call (Port.owner dev.journaled).watched call).2 := by
  have latched : Latched (st.watching []) := ⟨settled.sound, by simp [watching]⟩
  cases call with
  | configure c =>
    -- watching a configuration does not change its result
    have same : ((st.watching []).configureAt (Port.owner dev.journaled).watched c).1 =
        (st.configure dev.journaled c).1 := by
      rcases configure_accounts dev settled c [] with ⟨f, _, outcome, watched⟩ | ⟨added, watched, _⟩
      · rw [watched, show st.configure dev.journaled c = _ from outcome]
      · rw [watched]
        rfl
    refine latched.configure dev ?_
    rw [same]
    exact not_accepted_configure dev kept live
  | start handler tag refusal => exact latched.start dev handler tag refusal
  | stop => exact latched.stop dev
  | poll => exact latched.poll dev
  | pollRows => exact latched.pollRows dev
  | refresh => exact latched.refresh dev

end Station

end TriggeredSampler
