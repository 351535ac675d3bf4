import Mathlib.Data.List.Forall2
import TriggeredSampler.Proofs.Session.Delivery

/-! # What a handler has been told

A `Run` begins when a start is asked for. While its delivery is under way, what the handler was shown are
the reports delivered so far (`Station.Telling`); afterwards it was shown some of the reports that were
sent, and perhaps a closing notice (`Station.Told`).

* `Station.Tells.drain` — the delivery of the reports that wait.
* `Station.Tells.close` — the closing notice.
-/

namespace TriggeredSampler

variable {σ : Type}

/-- A run whose reports go to a handler. -/
structure Run where
  /-- The number of readings in a sample. -/
  tracked : Nat
  /-- The tag of the start. -/
  tag : Int
  /-- The number of notes kept before the run. -/
  noted : Nat
  /-- The journal up to the request of the start. -/
  prior : List Entry

namespace Station

/-- The notices shown since the first `noted` ones. -/
def noticesFrom (noted : Nat) (st : Station (Journal σ)) : List Notice :=
  (st.session.notes.drop noted).map Note.notice

/-- The delivery `d` of a run is under way: the reports `delivered` were shown and none of the notices
was terminal; `held` are delivered right now, and the others wait. -/
structure Telling (run : Run) (held : List Report) (d : Delivery) (delivered : List Report)
    (since : List Entry) (st : Station (Journal σ)) : Prop where
  delivery : st.session.delivery = some d
  tag : d.tag = run.tag
  tracked : st.session.tracked = run.tracked
  journal : st.device.entries = run.prior ++ since
  quiet : startsIn since = 0
  sent : sentReports since = delivered ++ held ++ d.queue
  noted : run.noted ≤ st.session.notes.length
  shown : List.Forall₂ (Shows run.tracked) delivered (st.noticesFrom run.noted)
  going : ∀ notice ∈ st.noticesFrom run.noted, notice.phase.isTerminal = false

/-- The delivery of a run is over: the reports `delivered` were shown, and perhaps a closing notice.
Unless the device hung up the last notice was terminal. -/
structure Told (run : Run) (gone : Bool) (delivered rest : List Report) (front closing : List Notice)
    (since : List Entry) (st : Station (Journal σ)) : Prop where
  delivery : st.session.delivery = none
  journal : st.device.entries = run.prior ++ since
  quiet : startsIn since = 0
  sent : sentReports since = delivered ++ rest
  notices : st.noticesFrom run.noted = front ++ closing
  shown : List.Forall₂ (Shows run.tracked) delivered front
  closes : closing = [] ∨ ∃ notice, closing = [notice] ∧ notice.tag = run.tag ∧ notice.data = []
  going : ∀ notice ∈ (front ++ closing).dropLast, notice.phase.isTerminal = false
  ended : gone = false → ∃ notice ∈ (front ++ closing).getLast?, notice.phase.isTerminal = true

/-- The delivery of a run is under way or over. -/
def Tells (run : Run) (gone : Bool) (st : Station (Journal σ)) : Prop :=
  (∃ d delivered since, Telling run [] d delivered since st) ∨
    ∃ delivered rest front closing since, Told run gone delivered rest front closing since st

variable {run : Run} {gone : Bool} {st st' : Station (Journal σ)} {d : Delivery} {held : List Report}
  {delivered : List Report} {since : List Entry}

theorem Telling.same_delivery {d' : Delivery} (telling : Telling run held d delivered since st)
    (delivery : st.session.delivery = some d') : d = d' := by
  rw [telling.delivery] at delivery
  exact Option.some.inj delivery

theorem noticesFrom_of_notes {noted : Nat} (same : st'.session.notes = st.session.notes) :
    st'.noticesFrom noted = st.noticesFrom noted := by
  rw [noticesFrom, noticesFrom, same]

theorem noticesFrom_concat {noted : Nat} {note : Note} (within : noted ≤ st.session.notes.length)
    (more : st'.session.notes = st.session.notes ++ [note]) :
    st'.noticesFrom noted = st.noticesFrom noted ++ [note.notice] := by
  rw [noticesFrom, noticesFrom, more, List.drop_append_of_le_length within, List.map_append,
    List.map_singleton]

/-- Whatever leaves the delivery and the notes alone tells the handler nothing. -/
theorem Tells.unchanged (tells : Tells run gone st)
    (delivery : st'.session.delivery = st.session.delivery)
    (notes : st'.session.notes = st.session.notes)
    (tracked : st.session.delivery.isSome = true → st'.session.tracked = st.session.tracked)
    (silent : Silent st.device.entries st'.device.entries) : Tells run gone st' := by
  obtain ⟨added, journal, starts, silent⟩ := silent
  rcases tells with ⟨d, delivered, since, telling⟩ | ⟨delivered, rest, front, closing, since, told⟩
  · refine .inl ⟨d, delivered, since ++ added, ?_, telling.tag, ?_, ?_, ?_, ?_, ?_, ?_, ?_⟩
    · rw [delivery, telling.delivery]
    · rw [tracked (by rw [telling.delivery]; rfl), telling.tracked]
    · rw [journal, telling.journal, List.append_assoc]
    · rw [startsIn_append, telling.quiet, starts]
    · rw [sentReports_append, silent, List.append_nil, telling.sent]
    · rw [notes]
      exact telling.noted
    · rw [noticesFrom_of_notes notes]
      exact telling.shown
    · rw [noticesFrom_of_notes notes]
      exact telling.going
  · refine .inr ⟨delivered, rest, front, closing, since ++ added, ?_, ?_, ?_, ?_, ?_, told.shown,
      told.closes, told.going, told.ended⟩
    · rw [delivery, told.delivery]
    · rw [journal, told.journal, List.append_assoc]
    · rw [startsIn_append, told.quiet, starts]
    · rw [sentReports_append, silent, List.append_nil, told.sent]
    · rw [noticesFrom_of_notes notes, told.notices]

/-! ## Reports -/

theorem Tells.enqueue (dev : Device σ) (tells : Tells run gone st) (report : Report) :
    Tells run gone (st.enqueue dev.journaled report) := by
  obtain ⟨device, eq⟩ := enqueue_eq dev report st
  rw [eq]
  rcases tells with ⟨d, delivered, since, telling⟩ | ⟨delivered, rest, front, closing, since, told⟩
  · -- the report joins those that wait
    refine .inl ⟨d.arrive [report], delivered, since ++ [.sent report st.session.delivery.isSome], ?_,
      telling.tag, telling.tracked, ?_, ?_, ?_, telling.noted, telling.shown, telling.going⟩
    · simp [Session.arrive, telling.delivery]
    · simp [telling.journal]
    · rw [startsIn_append, telling.quiet]
      rfl
    · rw [sentReports_append, telling.sent]
      simp [sentReports, Entry.report?, Delivery.arrive]
  · -- nobody is there to be shown the report
    refine .inr ⟨delivered, rest ++ [report], front, closing,
      since ++ [.sent report st.session.delivery.isSome], ?_, ?_, ?_, ?_, told.notices, told.shown,
      told.closes, told.going, told.ended⟩
    · simp [Session.arrive, told.delivery]
    · simp [told.journal]
    · rw [startsIn_append, told.quiet]
      rfl
    · rw [sentReports_append, told.sent]
      simp [sentReports, Entry.report?]

/-- A report that was delivered was shown; a terminal notice is the last one. -/
theorem Telling.delivers {report : Report} {notice : Notice} {arrived : List Report}
    (telling : Telling run [report] d delivered since st)
    (delivers : Delivers report d st st' notice arrived) : Tells run gone st' := by
  obtain ⟨added, journal, quiet, sent⟩ := delivers.adds
  have starts : startsIn added = 0 :=
    startsIn_eq_zero.2 fun entry member => Entry.asksStart_of_ofStart (quiet entry member)
  obtain ⟨outcome, notes⟩ := delivers.notes
  have notices := noticesFrom_concat telling.noted notes
  have shows : Shows run.tracked report notice := telling.tracked ▸ delivers.shows
  have shown : List.Forall₂ (Shows run.tracked) (delivered ++ [report]) (st'.noticesFrom run.noted) := by
    rw [notices]
    exact List.rel_append telling.shown (.cons shows .nil)
  have delivery := delivers.delivery
  by_cases terminal : notice.phase.isTerminal = true
  · rw [if_pos terminal] at delivery
    -- what waits behind a terminal notice is never shown
    refine .inr ⟨delivered ++ [report], d.queue ++ arrived, st'.noticesFrom run.noted, [],
      since ++ added, delivery, ?_, ?_, ?_, (List.append_nil _).symm, shown, .inl rfl, ?_, ?_⟩
    · rw [journal, telling.journal, List.append_assoc]
    · rw [startsIn_append, telling.quiet, starts]
    · rw [sentReports_append, telling.sent, sent]
      simp
    · rw [List.append_nil, notices, List.dropLast_concat]
      exact telling.going
    · intro _
      rw [List.append_nil, notices, List.getLast?_concat]
      exact ⟨notice, rfl, terminal⟩
  · rw [if_neg terminal] at delivery
    refine .inl ⟨_, delivered ++ [report], since ++ added, delivery, telling.tag, ?_, ?_, ?_, ?_, ?_,
      shown, ?_⟩
    · rw [delivers.keeps.tracked, telling.tracked]
    · rw [journal, telling.journal, List.append_assoc]
    · rw [startsIn_append, telling.quiet, starts]
    · rw [sentReports_append, telling.sent, sent]
      simp
    · rw [notes, List.length_append]
      exact Nat.le_add_right_of_le telling.noted
    · intro other member
      rw [notices] at member
      cases List.mem_append.1 member with
      | inl old => exact telling.going other old
      | inr new =>
        rw [List.mem_singleton.1 new]
        exact Bool.eq_false_iff.2 terminal

theorem Tells.drain (dev : Device σ) (sound : st.session.Sound) (tells : Tells run gone st)
    (rounds : Nat) : Tells run gone (st.drain dev.journaled rounds) := by
  -- by induction on the rounds: the reports that wait are shown in their order
  induction rounds generalizing st with
  | zero => exact tells
  | succ rounds ih =>
    unfold Station.drain
    split
    next => exact tells
    next report rest dequeue =>
      obtain ⟨d, notice, arrived, delivery, eq, keeps, delivers⟩ :=
        dequeue_delivers dev sound dequeue
      apply ih ((keeps.trans delivers.keeps).sound sound)
      rcases tells with ⟨d', delivered, since, telling⟩ | ⟨_, _, _, _, _, told⟩
      · obtain rfl := telling.same_delivery delivery
        have held : Telling run [report] d delivered since rest := by
          subst eq
          refine ⟨rfl, telling.tag, telling.tracked, telling.journal, telling.quiet, ?_, telling.noted,
            telling.shown, telling.going⟩
          rw [telling.sent]
          simp
        exact held.delivers delivers
      · rw [told.delivery] at delivery
        cases delivery

theorem enqueue_keeps (dev : Device σ) (report : Report) : Keeps st (st.enqueue dev.journaled report) := by
  obtain ⟨device, eq⟩ := enqueue_eq dev report st
  rw [eq]
  refine .ofInside ⟨rfl, ⟨[.sent report st.session.delivery.isSome], rfl, ?_, rfl⟩, .refl _, .inl rfl⟩
  intro entry member
  rw [List.mem_singleton.1 member]
  rfl

theorem Tells.receive (dev : Device σ) (sound : st.session.Sound) (tells : Tells run gone st)
    (report : Report) : Tells run gone (st.receive dev.journaled report) :=
  (tells.enqueue dev report).drain dev ((enqueue_keeps dev report).sound sound) _

/-! ## The end -/

/-- A run that the session ended by itself is closed with a last notice. -/
theorem Tells.close (dev : Device σ) (sound : st.session.Sound) (tells : Tells run gone st) :
    Tells run gone (st.close dev.journaled) := by
  unfold Station.close
  split
  next => exact tells
  next d delivery =>
    split
    next ended =>
      have notified := sound.notified delivery
      obtain ⟨arrived, presents⟩ := present_presents dev notified delivery
        (st.session.closing d)
      have terminal : (st.session.closing d).phase.isTerminal = true := ended
      obtain ⟨added, journal, quiet, sent⟩ := presents.adds
      have starts : startsIn added = 0 :=
        startsIn_eq_zero.2 fun entry member => Entry.asksStart_of_ofStart (quiet entry member)
      obtain ⟨outcome, notes⟩ := presents.notes
      rcases tells with ⟨d', delivered, since, telling⟩ | ⟨_, _, _, _, _, told⟩
      · obtain rfl := telling.same_delivery delivery
        have notices := noticesFrom_concat telling.noted notes
        -- no report ended the run, so the closing notice is its first terminal one
        refine .inr ⟨delivered, d'.queue ++ arrived, st.noticesFrom run.noted, [st.session.closing d'],
          since ++ added, ?_, ?_, ?_, ?_, notices, telling.shown, .inr ⟨_, rfl, telling.tag, rfl⟩, ?_,
          ?_⟩
        · rw [presents.delivery, if_pos terminal]
        · rw [journal, telling.journal, List.append_assoc]
        · rw [startsIn_append, telling.quiet, starts]
        · rw [sentReports_append, telling.sent, sent]
          simp
        · rw [List.dropLast_concat]
          exact telling.going
        · intro _
          rw [List.getLast?_concat]
          exact ⟨_, rfl, terminal⟩
      · rw [told.delivery] at delivery
        cases delivery
    next => exact tells

theorem Tells.hangUp (tells : Tells run gone st) : Tells run true st.endDelivery := by
  rcases tells with ⟨d, delivered, since, telling⟩ | ⟨delivered, rest, front, closing, since, told⟩
  · refine .inr ⟨delivered, d.queue, st.noticesFrom run.noted, [], since, rfl, telling.journal,
      telling.quiet, ?_, (List.append_nil _).symm, telling.shown, .inl rfl, ?_, by simp⟩
    · rw [telling.sent, List.append_nil]
    · intro notice member
      rw [List.append_nil] at member
      exact telling.going notice (List.dropLast_subset _ member)
  · exact .inr ⟨delivered, rest, front, closing, since, rfl, told.journal, told.quiet, told.sent,
      told.notices, told.shown, told.closes, told.going, by simp⟩

end Station

end TriggeredSampler
