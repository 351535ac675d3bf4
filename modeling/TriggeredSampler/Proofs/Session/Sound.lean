import TriggeredSampler.Proofs.Lifecycle
import TriggeredSampler.Session.Operations

/-! # Sound sessions

What holds of a session at all times, and how its handler is shown a notice, whatever the device is.

* `Session.Sound` — the session by itself.
* `Station.notify_eq_noting` — a notice is shown.
* `Station.join_eq`, `Station.join_of_closed`, `Station.join_eq_close`, `Station.delivery_close` — the end
  of a delivery.
-/

namespace TriggeredSampler

variable {σ : Type}

/-- The numbering cuts samples as the session does, reports go to a run with a handler that was started,
and nothing waits for a delivery that will not end. -/
structure Session.Sound (s : Session) : Prop where
  numbering : s.numbering.tracked = s.tracked
  delivering : s.delivery.isSome = true → s.notified = true ∧ s.phase.begun = true
  stalled : s.stalled = false

namespace Session.Sound

variable {s : Session} {d : Delivery}

theorem notified (sound : s.Sound) (delivery : s.delivery = some d) : s.notified = true := by
  have delivering : s.delivery.isSome = true := by rw [delivery]; rfl
  exact (sound.delivering delivering).1

theorem begun (sound : s.Sound) (delivery : s.delivery = some d) : s.phase.begun = true := by
  have delivering : s.delivery.isSome = true := by rw [delivery]; rfl
  exact (sound.delivering delivering).2

/-- A session without a run has no delivery under way. -/
theorem delivery_of_configured (sound : s.Sound) (configured : s.phase = .configured) : s.delivery = none := by
  cases delivery : s.delivery with
  | none => rfl
  | some d =>
    have begun := sound.begun delivery
    rw [configured] at begun
    cases begun

/-- A session that can be polled has no delivery under way. -/
theorem delivery_of_unnotified (sound : s.Sound) (unnotified : s.notified = false) : s.delivery = none := by
  cases delivery : s.delivery with
  | none => rfl
  | some d => cases unnotified.symm.trans (sound.notified delivery)

/-- A delivery that is open while the session is idle is that of a run which is over. -/
theorem ended (sound : s.Sound) (delivery : s.delivery = some d) (idle : s.phase.isActive = false) :
    s.phase.isTerminal = true := by
  have begun := sound.begun delivery
  simpa [Phase.begun, idle] using begun

end Session.Sound

theorem Session.lifecycle_of_configured {s : Session} (configured : s.phase = .configured) :
    s.lifecycle = .configured := by
  rw [phase] at configured
  cases lifecycle : s.lifecycle with
  | configured => rfl
  | _ => rw [lifecycle] at configured; cases configured

namespace Station

variable (dev : Device σ) {st : Station σ} {d : Delivery}

/-- The station with another state of its delivery. -/
def awaiting (st : Station σ) (d : Delivery) : Station σ :=
  { st with session := { st.session with delivery := some d } }

/-- The station with another note and with the latest panic. -/
def noting (st : Station σ) (notes : List Note) (panic : Option String) : Station σ :=
  { st with session := { st.session with notes := notes, panic := panic } }

/-- A notice is shown: the handler takes its next reaction, and the note is kept. -/
theorem notify_eq_noting (delivery : st.session.delivery = some d) (notice : Notice) {outcome : Outcome}
    {reacted : Station σ}
    (reaction : (st.awaiting { d with reactions := d.reactions.tail }).react dev
      (d.reactions.headD .nothing) = (outcome, reacted)) :
    st.notify dev notice = reacted.noting (reacted.session.notes ++ [⟨notice, outcome⟩])
      (panicOf (d.reactions.headD .nothing) <|> reacted.session.panic) := by
  have next : st.nextReaction =
      (d.reactions.headD .nothing, st.awaiting { d with reactions := d.reactions.tail }) := by
    simp only [nextReaction, delivery, awaiting]
  simp only [notify, next, reaction, noting]

theorem notify_react (delivery : st.session.delivery = some d) (notice : Notice) :
    ∃ reacted outcome panic, (st.awaiting { d with reactions := d.reactions.tail }).react dev
        (d.reactions.headD .nothing) = (outcome, reacted) ∧
      st.notify dev notice = reacted.noting (reacted.session.notes ++ [⟨notice, outcome⟩]) panic :=
  ⟨_, _, _, rfl, notify_eq_noting dev delivery notice rfl⟩

/-- Only a configured session can be started. -/
theorem lifecycle_of_startTrigger {trigger : Trigger} (startable : st.startTrigger = .ok trigger) :
    st.session.lifecycle = .configured := by
  unfold startTrigger Session.phase at startable
  cases lifecycle : st.session.lifecycle <;> simp [lifecycle] at startable
  rfl

theorem queued_of_closed (closed : st.session.delivery = none) : st.queued = 0 := by
  simp only [queued, closed]

/-- If nothing is queued there is nothing to deliver. -/
theorem drainAll_of_queued (empty : st.queued = 0) : st.drainAll dev = st := by
  unfold queued at empty
  rw [drainAll, drain, dequeue]
  cases delivery : st.session.delivery with
  | none => rfl
  | some d =>
    rw [delivery] at empty
    simp only [List.eq_nil_of_length_eq_zero empty]

theorem drain_of_closed (closed : st.session.delivery = none) (rounds : Nat) : st.drain dev rounds = st := by
  cases rounds with
  | zero => rfl
  | succ rounds => simp only [drain, dequeue, closed]

/-- Without a delivery there is nothing to wait for. -/
theorem join_of_closed (closed : st.session.delivery = none) : st.join dev = st := by
  unfold join
  simp only [closed]

theorem close_of_closed (closed : st.session.delivery = none) : st.close dev = st := by
  unfold close
  simp only [closed]

/-- Once a run is over, the wait for its delivery is the rest of the delivery. -/
theorem join_eq (sound : st.session.Sound) (idle : st.session.phase.isActive = false) :
    st.join dev = (st.drainAll dev).close dev := by
  cases delivery : st.session.delivery with
  | none =>
    rw [join_of_closed dev delivery, drainAll_of_queued dev (queued_of_closed delivery),
      close_of_closed dev delivery]
  | some d =>
    unfold join
    simp only [delivery, if_pos (sound.ended delivery idle)]

/-- If all its reports are delivered, its delivery is closed without waiting. -/
theorem join_eq_close (sound : st.session.Sound) (empty : st.queued = 0)
    (idle : st.session.phase.isActive = false) : st.join dev = st.close dev := by
  rw [join_eq dev sound idle, drainAll_of_queued dev empty]

/-- Without the sender a refused start leaves no delivery to wait for. -/
theorem join_dismiss_of_dropped (dropped : dev.holdsOn st.session.handle st.device = false) :
    (st.dismiss dev).join dev = st.endDelivery := by
  rw [dismiss, if_neg (by simp [dropped])]
  exact join_of_closed dev rfl

/-- What a refused start waits for is a delivery whose sender the device holds on to. -/
theorem join_dismiss (st : Station σ) :
    (st.dismiss dev).join dev = st.endDelivery ∨ (st.dismiss dev).join dev = st.join dev := by
  by_cases held : dev.holdsOn st.session.handle st.device = true
  · exact .inr (by rw [dismiss, if_pos held])
  · exact .inl (join_dismiss_of_dropped dev (by simpa using held))

/-- Nothing is delivered behind the close of a run that is over. -/
theorem delivery_close (sound : st.session.Sound) (idle : st.session.phase.isActive = false) :
    (st.close dev).session.delivery = none := by
  unfold close
  split
  next closed => exact closed
  next d delivery =>
    have ended := sound.ended delivery idle
    have terminal : (st.session.closing d).phase.isTerminal = true := ended
    rw [if_pos ended, present, if_pos terminal]
    rfl

end Station

end TriggeredSampler
