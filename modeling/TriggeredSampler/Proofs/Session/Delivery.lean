import TriggeredSampler.Proofs.Session.Inside
import TriggeredSampler.Proofs.Session.Sound

/-! # The delivery of a report

`Station.Delivers` lists everything that the delivery of one report does. What holds of a drained queue
follows by induction over the deliveries.

* `Station.Keeps` — what a run under way cannot change.
* `Station.deliver_delivers` — the delivery of a report.
* `Station.receive_idle` — the queue is empty when a report was received.
-/

namespace TriggeredSampler

variable {σ : Type}

namespace Station

/-- A run under way keeps what the session was configured and started with, and the journal grows by no
start. -/
structure Keeps (st st' : Station (Journal σ)) : Prop where
  frame : st'.session = { st.session with
    lifecycle := st'.session.lifecycle, numbering := st'.session.numbering
    delivery := st'.session.delivery, panic := st'.session.panic
    live := st'.session.live, notes := st'.session.notes }
  numbering : st'.session.numbering.tracked = st.session.numbering.tracked
  closed : st.session.delivery = none → st'.session.delivery = none
  silent : st.session.delivery = none → st'.session.notes = st.session.notes
  onward : st.session.lifecycle.Onward st'.session.lifecycle
  live : st'.session.live = st.session.live ∨ st'.session.phase.isActive = false
  adds : ∃ sent, Adds st.device.entries st'.device.entries sent

namespace Keeps

variable {st st' st'' : Station (Journal σ)}

theorem refl (st : Station (Journal σ)) : Keeps st st :=
  ⟨rfl, rfl, id, fun _ => rfl, .refl _, .inl rfl, [], .refl _⟩

theorem trans (first : Keeps st st') (second : Keeps st' st'') : Keeps st st'' := by
  obtain ⟨sent, adds⟩ := first.adds
  obtain ⟨more, adds'⟩ := second.adds
  refine ⟨?_, second.numbering.trans first.numbering, fun closed => second.closed (first.closed closed),
    ?_, first.onward.trans second.onward, ?_, _, adds.trans adds'⟩
  · rw [second.frame, first.frame]
  · intro closed
    rw [second.silent (first.closed closed), first.silent closed]
  · rcases second.live with kept | idle
    · rcases first.live with kept' | idle
      · exact .inl (kept.trans kept')
      · exact .inr (second.onward.idle idle)
    · exact .inr idle

theorem ofInside {arrived : List Report} (inside : Inside st st' arrived) : Keeps st st' := by
  refine ⟨?_, ?_, ?_, ?_, inside.onward, inside.live, _, inside.adds⟩
  · rw [inside.frame]
    rfl
  · rw [inside.frame]
    rfl
  · intro closed
    rw [inside.frame]
    simp [Session.arrive, closed]
  · intro _
    rw [inside.frame]
    rfl

theorem tracked (keeps : Keeps st st') : st'.session.tracked = st.session.tracked := by
  rw [keeps.frame]

theorem sound (keeps : Keeps st st') (sound : st.session.Sound) : st'.session.Sound := by
  refine ⟨?_, ?_, ?_⟩
  · rw [keeps.numbering, keeps.tracked, sound.numbering]
  · intro delivering
    have open_ : st.session.delivery.isSome = true := by
      cases delivery : st.session.delivery with
      | none =>
        rw [keeps.closed delivery] at delivering
        cases delivering
      | some _ => rfl
    obtain ⟨notified, begun⟩ := sound.delivering open_
    refine ⟨?_, keeps.onward.begun begun⟩
    rw [keeps.frame]
    exact notified
  · rw [keeps.frame]
    exact sound.stalled

end Keeps

/-- A notice is shown to the handler of the delivery `d`; reports arrive while the handler reacts. The
delivery ends with a terminal notice. -/
structure Presents (notice : Notice) (d : Delivery) (st st' : Station (Journal σ))
    (arrived : List Report) : Prop where
  keeps : Keeps st st'
  notes : ∃ outcome, st'.session.notes = st.session.notes ++ [⟨notice, outcome⟩]
  adds : Adds st.device.entries st'.device.entries arrived
  raised : arrived = [] ∨ st'.session.phase.isTerminal = true
  delivery : st'.session.delivery =
    if notice.phase.isTerminal then none
    else some { d with reactions := d.reactions.tail, queue := d.queue ++ arrived }

/-- The delivery of a report: its notice is shown, in the phase that the session follows to. Once the
session is over the notice is terminal. -/
structure Delivers (report : Report) (d : Delivery) (st st' : Station (Journal σ)) (notice : Notice)
    (arrived : List Report) : Prop extends Presents notice d st st' arrived where
  shows : Shows st.session.tracked report notice
  followed : wholeSamples st.session.tracked report.data = true →
    notice.phase = (st.session.follow report.phase report.fault).phase
  ended : st.session.phase.isTerminal = true → notice.phase.isTerminal = true

variable (dev : Device σ) {st : Station (Journal σ)} {d : Delivery}

theorem notify_eq (notified : st.session.notified = true) (delivery : st.session.delivery = some d)
    (notice : Notice) :
    ∃ reacted arrived outcome panic,
      Inside (st.awaiting { d with reactions := d.reactions.tail }) reacted arrived ∧
      (arrived = [] ∨ reacted.session.phase.isTerminal = true) ∧
      st.notify dev.journaled notice =
        reacted.noting (st.session.notes ++ [⟨notice, outcome⟩]) panic := by
  obtain ⟨reacted, outcome, panic, reaction, eq⟩ := notify_react dev.journaled delivery notice
  obtain ⟨arrived, inside, raised⟩ :=
    react_inside dev (st.awaiting { d with reactions := d.reactions.tail }) notified
      (d.reactions.headD .nothing)
  rw [reaction] at inside raised
  have notes : reacted.session.notes = st.session.notes := by
    rw [inside.frame]
    rfl
  exact ⟨reacted, arrived, outcome, panic, inside, raised, by rw [eq, notes]⟩

theorem present_presents (notified : st.session.notified = true)
    (delivery : st.session.delivery = some d) (notice : Notice) :
    ∃ arrived, Presents notice d st (st.present dev.journaled notice) arrived := by
  obtain ⟨reacted, arrived, outcome, panic, inside, raised, eq⟩ :=
    notify_eq dev notified delivery notice
  have keeps : Keeps st (reacted.noting (st.session.notes ++ [⟨notice, outcome⟩]) panic) := by
    have delivering : st.session.delivery ≠ none := by simp [delivery]
    refine ⟨?_, ?_, fun closed => absurd closed delivering, fun closed => absurd closed delivering,
      inside.onward, inside.live, _, inside.adds⟩
    · simp only [noting]
      rw [inside.frame]
      rfl
    · simp only [noting]
      rw [inside.frame]
      rfl
  have waiting : (reacted.noting (st.session.notes ++ [⟨notice, outcome⟩]) panic).session.delivery =
      some { d with reactions := d.reactions.tail, queue := d.queue ++ arrived } := by
    simp only [noting]
    rw [inside.frame]
    rfl
  refine ⟨arrived, ?_⟩
  unfold present
  simp only [eq]
  by_cases terminal : notice.phase.isTerminal = true
  · -- what arrived while the handler reacted is dropped with the delivery
    rw [if_pos terminal]
    refine ⟨⟨?_, keeps.numbering, fun _ => rfl, keeps.silent, keeps.onward, keeps.live, keeps.adds⟩,
      ⟨outcome, rfl⟩, inside.adds, raised, ?_⟩
    · simp only [endDelivery]
      rw [keeps.frame]
    · rw [if_pos terminal]
      rfl
  · rw [if_neg terminal]
    refine ⟨keeps, ⟨outcome, rfl⟩, inside.adds, raised, ?_⟩
    rw [if_neg terminal, waiting]

theorem keeps_accepted {report : Report} {notice : Notice} {malformed : Bool} {session : Session}
    (accepted : st.session.Accepted report notice malformed session) :
    Keeps st { st with session := session } := by
  refine ⟨?_, accepted.tracked, ?_, ?_, accepted.onward, ?_, [], .refl _⟩
  · rw [accepted.frame]
  · intro closed
    rw [accepted.frame]
    exact closed
  · intro _
    rw [accepted.frame]
  · rw [accepted.frame]
    exact .inl rfl

/-- A sampler that sent malformed data is stopped. -/
theorem halt_inside {malformed : Bool} (failed : malformed = true → st.session.phase.isTerminal = true) :
    ∃ arrived, Inside st (if malformed then (lineInside dev.journaled .stop st).2 else st) arrived ∧
      (arrived = [] ∨ st.session.phase.isTerminal = true) := by
  cases malformed with
  | true =>
    obtain ⟨arrived, inside⟩ := lineInside_inside dev st (r := .stop) rfl
    exact ⟨arrived, inside, .inr (failed rfl)⟩
  | false => exact ⟨[], .refl _, .inl rfl⟩

/-- A session takes a report in; a sampler that sent malformed data is stopped. -/
theorem deliver_delivers (sound : st.session.Sound) (delivery : st.session.delivery = some d)
    (report : Report) :
    ∃ notice arrived, Delivers report d st (st.deliver dev.journaled report) notice arrived := by
  have accepted := st.session.accept_accepted sound.numbering report
  unfold deliver
  generalize st.session.accept report = result at accepted ⊢
  obtain ⟨notice, malformed, session⟩ := result
  simp only at accepted ⊢
  have keeps := keeps_accepted accepted
  obtain ⟨first, inside, broken⟩ :=
    @halt_inside _ dev { st with session := session } _ accepted.failed
  generalize (if malformed = true then (lineInside dev.journaled .stop { st with session := session }).2
    else { st with session := session }) = halted at inside ⊢
  have kept := keeps.trans (.ofInside inside)
  have waiting : halted.session.delivery = some (d.arrive first) := by
    rw [inside.frame, accepted.frame]
    simp [Session.arrive, delivery]
  have notified : halted.session.notified = true := by
    rw [kept.frame]
    exact sound.notified delivery
  obtain ⟨second, presents⟩ := present_presents dev notified waiting notice
  refine ⟨notice, first ++ second, ⟨kept.trans presents.keeps, ?_, ?_, ?_, ?_⟩, accepted.shows, ?_, ?_⟩
  · obtain ⟨outcome, notes⟩ := presents.notes
    refine ⟨outcome, ?_⟩
    rw [notes, inside.frame, accepted.frame]
    rfl
  · exact inside.adds.trans presents.adds
  · -- neither the stop nor the handler raises anything while the session is active
    cases presents.raised with
    | inl nothing =>
      cases broken with
      | inl nothing' => exact .inl (by rw [nothing, nothing']; rfl)
      | inr ended => exact .inr (presents.keeps.onward.isTerminal (inside.onward.isTerminal ended))
    | inr ended => exact .inr ended
  · rw [presents.delivery]
    simp [Delivery.arrive]
  · intro whole
    rw [accepted.phase, Session.phase, accepted.followed (by simpa [whole] using accepted.detected)]
    rfl
  · intro ended
    rw [accepted.phase]
    exact accepted.onward.isTerminal ended

/-! ## Draining the queue -/

theorem keeps_awaiting (delivering : st.session.delivery.isSome = true) (d : Delivery) :
    Keeps st (st.awaiting d) := by
  refine ⟨rfl, rfl, ?_, fun _ => rfl, .refl _, .inl rfl, [], .refl _⟩
  intro closed
  rw [closed] at delivering
  cases delivering

theorem dequeue_delivers (sound : st.session.Sound) {report : Report} {rest : Station (Journal σ)}
    (dequeue : st.dequeue = some (report, rest)) :
    ∃ d notice arrived, st.session.delivery = some { d with queue := report :: d.queue } ∧
      rest = st.awaiting d ∧ Keeps st rest ∧
      Delivers report d rest (rest.deliver dev.journaled report) notice arrived := by
  unfold Station.dequeue at dequeue
  split at dequeue
  next => cases dequeue
  next d delivery =>
    split at dequeue
    next => cases dequeue
    next first queue waiting =>
      simp only [Option.some.injEq, Prod.mk.injEq] at dequeue
      obtain ⟨rfl, rfl⟩ := dequeue
      have keeps : Keeps st (st.awaiting { d with queue := queue }) :=
        keeps_awaiting (by rw [delivery]; rfl) _
      obtain ⟨notice, arrived, delivers⟩ := deliver_delivers dev (keeps.sound sound) rfl first
      refine ⟨{ d with queue := queue }, notice, arrived, ?_, rfl, keeps, delivers⟩
      rw [delivery, ← waiting]

theorem drain_keeps (sound : st.session.Sound) (rounds : Nat) :
    Keeps st (st.drain dev.journaled rounds) := by
  -- by induction on the rounds: draining keeps what each delivery keeps
  induction rounds generalizing st with
  | zero => exact .refl st
  | succ rounds ih =>
    unfold drain
    split
    next => exact .refl st
    next report rest dequeue =>
      obtain ⟨d, notice, arrived, _, _, keeps, delivers⟩ := dequeue_delivers dev sound dequeue
      have first := keeps.trans delivers.keeps
      exact first.trans (ih (first.sound sound))

theorem queued_of_dequeue (nothing : st.dequeue = none) : st.queued = 0 := by
  unfold dequeue at nothing
  unfold queued
  split at nothing
  next => rfl
  next d _ =>
    split at nothing
    next waiting => simp [waiting]
    next => cases nothing

/-- Enough rounds empty the queue. -/
theorem drain_idle (sound : st.session.Sound) {rounds : Nat}
    (enough : st.queued < rounds ∨ (st.session.phase.isTerminal = true ∧ 0 < rounds)) :
    (st.drain dev.journaled rounds).queued = 0 := by
  -- the queue grows only when the run ends, and the next report is then the last one delivered
  induction rounds generalizing st with
  | zero => omega
  | succ rounds ih =>
    unfold drain
    split
    next nothing => exact queued_of_dequeue nothing
    next report rest dequeue =>
      obtain ⟨d, notice, arrived, delivery, _, keeps, delivers⟩ :=
        dequeue_delivers dev sound dequeue
      have first := keeps.trans delivers.keeps
      have waiting : st.queued = d.queue.length + 1 := by simp [queued, delivery]
      generalize rest.deliver dev.journaled report = delivered at delivers first ⊢
      by_cases terminal : notice.phase.isTerminal = true
      · -- the delivery is over, so nothing waits
        have closed : delivered.session.delivery = none := by rw [delivers.delivery, if_pos terminal]
        have nothing : delivered.dequeue = none := by simp [Station.dequeue, closed]
        have same : delivered.drain dev.journaled rounds = delivered := by
          cases rounds with
          | zero => rfl
          | succ rounds => simp [drain, nothing]
        rw [same]
        exact queued_of_dequeue nothing
      · have going : st.session.phase.isTerminal ≠ true := by
          intro ended
          exact terminal (delivers.ended (keeps.onward.isTerminal ended))
        have enough := enough.resolve_right fun ending => going ending.1
        have left : delivered.queued = (d.queue ++ arrived).length := by
          simp [queued, delivers.delivery, terminal]
        apply ih (first.sound sound)
        cases delivers.raised with
        | inl nothing =>
          rw [nothing, List.append_nil] at left
          omega
        | inr ended =>
          -- one round is left for the report behind the one that ended the run
          by_cases more : 0 < rounds
          · exact .inr ⟨ended, more⟩
          · omega

theorem drainAll_idle (sound : st.session.Sound) : (st.drainAll dev.journaled).queued = 0 :=
  drain_idle dev sound (.inl (Nat.lt_succ_self _))

/-! ## The end of a delivery -/

theorem close_keeps (sound : st.session.Sound) : Keeps st (st.close dev.journaled) := by
  unfold close
  split
  next => exact .refl st
  next d delivery =>
    split
    next =>
      obtain ⟨_, presents⟩ :=
        present_presents dev (sound.notified delivery) delivery (st.session.closing d)
      exact presents.keeps
    next => exact .refl st

theorem join_keeps (sound : st.session.Sound) (idle : st.session.phase.isActive = false) :
    Keeps st (st.join dev.journaled) := by
  rw [join_eq dev.journaled sound idle]
  have drains := drain_keeps dev sound (st.queued + 1)
  exact drains.trans (close_keeps dev (drains.sound sound))

/-- Whoever waits for the delivery of a run that is over waits until it has ended. -/
theorem delivery_join (sound : st.session.Sound) (idle : st.session.phase.isActive = false) :
    (st.join dev.journaled).session.delivery = none := by
  rw [join_eq dev.journaled sound idle]
  have drains := drain_keeps dev sound (st.queued + 1)
  exact delivery_close dev.journaled (drains.sound sound) (drains.onward.idle idle)

end Station

end TriggeredSampler
