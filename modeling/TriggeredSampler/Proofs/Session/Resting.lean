import TriggeredSampler.Proofs.Session.Alike.Operations
import TriggeredSampler.Proofs.Session.Lasting

/-! # A session on any device

What becomes of a session on a device with a journal becomes of it on every device. The operations of a
session leave it at rest, do not bring it back once it was dropped, and touch the device in no other way than
by its requests.

* `Session.Resting`, `Session.Outlives` — a session at rest, and what is left of a session.
* `Device.Keeps` — an invariant of a device.
* `Station.Fares` — an operation, from its beginning to its end.
-/

namespace TriggeredSampler

variable {σ : Type}

/-- A session between two operations: nothing waits to be delivered, and a dropped one is not active. -/
structure Session.Resting (s : Session) : Prop where
  sound : s.Sound
  idle : ∀ d, s.delivery = some d → d.queue = []
  dropped : s.live = false → s.phase.isActive = false

/-- The later session is the earlier one: it is not bound again, and once it was dropped it does not get
prepared for a run. -/
structure Session.Outlives (later earlier : Session) : Prop where
  handle : later.handle = earlier.handle
  live : later.live = true → earlier.live = true
  spent : earlier.live = false → earlier.phase.isPrepared = false → later.phase.isPrepared = false

/-- Whatever happens to the device keeps `J`. -/
structure Device.Keeps (dev : Device σ) (J : σ → Prop) : Prop where
  announce : ∀ {a} h r, J a → J (dev.announce h r a).2
  answer : ∀ {a} h r, J a → J (dev.answer h r a).2
  sent : ∀ {a} h report heard, J a → J (dev.sent h report heard a)
  advance : ∀ {a}, J a → J (dev.advance a).2

theorem Device.Keeps.matches_journaled {dev : Device σ} {J : σ → Prop} (keeps : dev.Keeps J) :
    dev.Matches dev.journaled fun a j => j.device = a ∧ J a where
  announce := by rintro a _ h r ⟨rfl, holds⟩; exact ⟨rfl, rfl, keeps.announce h r holds⟩
  answer := by rintro a _ h r ⟨rfl, holds⟩; exact ⟨rfl, rfl, keeps.answer h r holds⟩
  sent := by rintro a _ h report heard ⟨rfl, holds⟩; exact ⟨rfl, keeps.sent h report heard holds⟩
  advance := by rintro a _ ⟨rfl, holds⟩; exact ⟨rfl, rfl, keeps.advance holds⟩
  holdsOn := by rintro a _ h ⟨rfl, _⟩; rfl

theorem Device.Keeps.always (dev : Device σ) : dev.Keeps fun _ => True :=
  ⟨fun _ _ _ => trivial, fun _ _ _ => trivial, fun _ _ _ _ => trivial, fun _ => trivial⟩

namespace Session

variable {s s' s'' : Session}

/-! ## Sessions at rest -/

theorem Resting.settled (rests : s.Resting) (j : Journal σ) : Station.Settled none false ⟨s, j⟩ := by
  have idle : Station.queued ⟨s, j⟩ = 0 := by
    simp only [Station.queued]
    cases delivery : s.delivery with
    | none => rfl
    | some d => simp [rests.idle d delivery]
  exact ⟨⟨rests.sound, idle, by simp, by simp⟩, rests.dropped⟩

theorem resting_of_settled {st : Station (Journal σ)} {gone : Bool} (settled : Station.Settled none gone st) :
    st.session.Resting := by
  refine ⟨settled.sound, ?_, settled.dropped⟩
  intro d delivery
  have idle := settled.idle
  simp only [Station.queued, delivery] at idle
  exact List.eq_nil_of_length_eq_zero idle

theorem Alike.resting (alike : s.Alike s') (rests : s'.Resting) : s.Resting := by
  have sound := rests.sound
  refine ⟨⟨?_, ?_, ?_⟩, ?_, ?_⟩
  · rw [← alike.numbering, ← alike.tracked]
    exact sound.numbering
  · rw [← alike.isSome_delivery, ← alike.notified, ← alike.phase]
    exact sound.delivering
  · rw [← alike.stalled]
    exact sound.stalled
  · intro d delivery
    have delivering := alike.delivery
    rw [delivery] at delivering
    cases later : s'.delivery with
    | none =>
      rw [later] at delivering
      cases delivering
    | some d' =>
      rw [later] at delivering
      cases delivering with
      | some same =>
        have empty := rests.idle _ later
        cases same with
        | intro _ => exact empty
  · rw [← alike.live, ← alike.phase]
    exact rests.dropped

/-! ## What is left of a session -/

namespace Outlives

theorem refl (s : Session) : s.Outlives s := ⟨rfl, id, fun _ => id⟩

/-- A session that was dropped stays dropped. -/
theorem dropped (outlives : s'.Outlives s) (dropped : s.live = false) : s'.live = false := by
  cases live : s'.live with
  | false => rfl
  | true =>
    rw [outlives.live live] at dropped
    cases dropped

theorem trans (second : s''.Outlives s') (first : s'.Outlives s) : s''.Outlives s := by
  refine ⟨second.handle.trans first.handle, first.live ∘ second.live, ?_⟩
  intro dropped spent
  exact second.spent (first.dropped dropped) (first.spent dropped spent)

theorem congr (outlives : s'.Outlives s) (handle : s''.handle = s'.handle) (live : s''.live = s'.live)
    (phase : s''.phase = s'.phase) : s''.Outlives s := by
  refine ⟨handle.trans outlives.handle, ?_, ?_⟩
  · rw [live]
    exact outlives.live
  · rw [phase]
    exact outlives.spent

theorem turn (outlives : s'.Outlives s) {l : Lifecycle Failure} (turn : s'.lifecycle.Turn l) :
    Outlives { s' with lifecycle := l } s := by
  refine ⟨outlives.handle, outlives.live, ?_⟩
  intro dropped spent
  have before := outlives.spent dropped spent
  cases prepared : l.phase.isPrepared with
  | false => exact prepared
  | true =>
    have still : s'.phase.isPrepared = true := turn.isPrepared_of prepared
    rw [before] at still
    cases still

theorem steady (s : Session) : Steady fun later => later.Outlives s where
  turn outlives turns := outlives.turn turns
  leave outlives := ⟨outlives.handle, nofun, outlives.spent⟩
  queue _ outlives _ := outlives.congr rfl rfl rfl

theorem lasting (s : Session) : Lasting (fun later => later.Outlives s) fun _ _ later => later.Outlives s where
  toSteady := steady s
  reacting _ _ := steady s
  shown {s' s'' d notice} _ _ gives outlives := by
    have shown : s''.Outlives s :=
      (outlives.turn gives.turn).congr (by rw [gives.frame]) (by rw [gives.frame]) rfl
    exact shown.congr rfl rfl rfl
  noted outlives _ := outlives.congr rfl rfl rfl
  hush outlives := outlives.congr rfl rfl rfl

end Outlives

theorem Alike.outlives (alike : s'.Alike s'') (outlives : s''.Outlives s) : s'.Outlives s :=
  outlives.congr alike.handle.symm alike.live.symm alike.phase.symm

end Session

namespace Station

variable {dev : Device σ} {st st' : Station σ} {gone : Bool}

/-! ## Operations -/

/-- A live session whose configuration is accepted stays what it is. -/
theorem configure_outlives (dev : Device σ) {st : Station (Journal σ)} (settled : Settled none gone st)
    (live : st.session.live = true) (c : Configuration) :
    (st.configure dev.journaled c).2.session.Outlives st.session := by
  have lasting := Session.Outlives.lasting st.session
  rw [configure]
  cases c.validate with
  | error defect => exact .refl _
  | ok _ =>
    simp only
    split
    next => exact .refl _
    next idle =>
      have idle : st.session.phase.isActive = false := by simpa using idle
      rw [join_eq_close dev.journaled settled.sound settled.idle idle]
      have closed := lasting.close dev settled.sound (.refl _)
      have asked := lasting.line dev (settled.close dev).1 (r := .configure c) rfl closed
      generalize line dev.journaled (.configure c) (st.close dev.journaled) = outcome at asked ⊢
      obtain ⟨result, after⟩ := outcome
      cases result with
      | error reason => exact lasting.fail rfl asked
      | ok _ =>
        simp only
        split
        next => exact asked
        next =>
          refine ⟨asked.handle, asked.live, ?_⟩
          intro dropped
          rw [live] at dropped
          cases dropped

theorem perform_outlives (dev : Device σ) {st : Station (Journal σ)} (settled : Settled none gone st)
    (live : st.session.live = true) (command : Command) :
    (st.perform dev.journaled command).2.session.Outlives st.session := by
  cases command with
  | configure c => exact configure_outlives dev settled live c
  | _ =>
    refine (Session.Outlives.lasting st.session).perform dev settled live (.refl _) ?_ ?_ ?_
    · rintro c ⟨⟩
    · intro handler tag _ _
      refine ⟨rfl, id, ?_⟩
      intro dropped
      rw [live] at dropped
      cases dropped
    · intro _ s data outlives
      exact outlives.congr rfl rfl rfl

/-- A session that is dropped gets no further than without its owner. -/
theorem drop_outlives (dev : Device σ) {st : Station (Journal σ)} (calm : Calm none gone st) :
    (st.drop dev.journaled).session.Outlives { st.session with live := false } := by
  have lasting := Session.Outlives.lasting { st.session with live := false }
  rw [Station.drop]
  split
  next =>
    obtain ⟨released, idle⟩ := calm.release dev
    rw [join_eq_close dev.journaled released.sound released.idle idle]
    apply lasting.close dev released.sound
    simp only [Station.release]
    split
    next => exact lasting.halt dev calm.abandoned (.refl _)
    next => exact .refl _
  next dropped => exact ⟨rfl, fun live => absurd live dropped, fun _ => id⟩

/-! ## Handlers that drop their session -/

theorem steady_dropped : Session.Steady fun s => s.live = false where
  turn dropped _ := dropped
  leave _ := rfl
  queue _ dropped _ := dropped

theorem live_react_drop (dev : Device σ) (st : Station (Journal σ)) :
    (st.react dev.journaled .drop).2.session.live = false := by
  simp only [react]
  split
  next =>
    simp only [release]
    split
    next => exact steady_dropped.stop rfl (steady_dropped.lineInside dev rfl .stop)
    next => rfl
  next dropped => simpa using dropped

theorem live_present_drop (dev : Device σ) {st : Station (Journal σ)} {d : Delivery}
    (delivery : st.session.delivery = some d) (drops : d.reactions.head? = some .drop) (notice : Notice) :
    (st.present dev.journaled notice).session.live = false := by
  have reaction : d.reactions.headD .nothing = .drop := by
    rw [List.headD_eq_head?_getD, drops]
    rfl
  have notifies := notify_eq_noting dev.journaled delivery notice rfl
  have dropped := live_react_drop dev (st.awaiting { d with reactions := d.reactions.tail })
  rw [reaction] at notifies
  simp only [present, notifies]
  split <;> exact dropped

theorem live_deliver_drop (dev : Device σ) {st : Station (Journal σ)} {d : Delivery} (sound : st.session.Sound)
    (delivery : st.session.delivery = some d) (drops : d.reactions.head? = some .drop) (report : Report) :
    (st.deliver dev.journaled report).session.live = false := by
  have gives := Session.gives_accept sound.numbering report
  simp only [deliver]
  generalize st.session.accept report = result at gives ⊢
  obtain ⟨notice, malformed, session⟩ := result
  simp only at gives ⊢
  have waiting : session.delivery = some d := by
    rw [gives.frame]
    exact delivery
  cases malformed with
  | false => exact live_present_drop dev waiting drops notice
  | true =>
    -- what the stop raises waits behind the other reports
    obtain ⟨a, reports, device, eq⟩ := lineInside_eq dev .stop ⟨session, st.device⟩
    simp only [if_true, eq]
    exact live_present_drop dev (d := d.arrive reports) (by simp [Session.arrive, waiting]) drops notice

theorem live_receive_drop (dev : Device σ) {st : Station (Journal σ)} {d : Delivery}
    (rests : st.session.Resting) (delivery : st.session.delivery = some d)
    (drops : d.reactions.head? = some .drop) (report : Report) :
    (st.receive dev.journaled report).session.live = false := by
  have sound := (enqueue_keeps dev report).sound rests.sound
  have waiting : (st.enqueue dev.journaled report).session.delivery = some { d with queue := [report] } := by
    obtain ⟨device, enqueued⟩ := enqueue_eq dev report st
    simp [enqueued, Session.arrive, delivery, Delivery.arrive, rests.idle d delivery]
  simp only [receive, drainAll]
  generalize st.enqueue dev.journaled report = enqueued at sound waiting ⊢
  have first : enqueued.dequeue = some (report, enqueued.awaiting { d with queue := [] }) := by
    simp only [dequeue, waiting, awaiting]
  obtain ⟨_, _, _, _, _, keeps, delivers⟩ := dequeue_delivers dev sound first
  have sound := keeps.sound sound
  have dropped := live_deliver_drop dev sound rfl drops report
  have outlives := (Session.Outlives.lasting _).drain dev (delivers.keeps.sound sound) (.refl _) enqueued.queued
  simp only [drain, first]
  exact outlives.dropped dropped

/-- An operation leaves a session at rest, which is the same session; and it keeps what the device keeps. -/
structure Fares (dev : Device σ) (st st' : Station σ) : Prop where
  rests : st'.session.Resting
  outlives : st'.session.Outlives st.session
  device : ∀ {J : σ → Prop}, dev.Keeps J → J st.device → J st'.device

namespace Fares

/-- The station of the same session, its device with a journal. -/
def noted (st : Station σ) : Station (Journal σ) := ⟨st.session, ⟨st.device, []⟩⟩

theorem alike_noted (st : Station σ) {J : σ → Prop} (holds : J st.device) :
    Alike (fun a j => j.device = a ∧ J a) st (noted st) :=
  ⟨.refl _, rfl, holds⟩

theorem of_noted {after : Station (Journal σ)} (settled : Settled none gone after)
    (outlives : after.session.Outlives st.session)
    (alike : ∀ {J : σ → Prop}, dev.Keeps J → J st.device →
      Alike (fun a j => j.device = a ∧ J a) st' after) : Fares dev st st' := by
  have anyway := alike (Device.Keeps.always dev) trivial
  exact ⟨anyway.session.resting (Session.resting_of_settled settled), anyway.session.outlives outlives,
    fun keeps holds => (alike keeps holds).device.2⟩

variable (dev)

theorem receive (rests : st.session.Resting) (report : Report) : Fares dev st (st.receive dev report) := by
  have settled := rests.settled ⟨st.device, []⟩
  have after := settled.of_keeps (receive_keeps dev settled.sound report) (settled.receive dev report)
  exact of_noted after ((Session.Outlives.lasting st.session).receive dev settled.sound report (.refl _))
    fun keeps holds => (alike_noted st holds).receive keeps.matches_journaled report

theorem close (rests : st.session.Resting) : Fares dev st (st.close dev) := by
  have settled := rests.settled ⟨st.device, []⟩
  exact of_noted ((upholds_settled dev).close _ settled)
    ((Session.Outlives.lasting st.session).close dev settled.sound (.refl _))
    fun keeps holds => (alike_noted st holds).close keeps.matches_journaled

theorem halt (rests : st.session.Resting) : Fares dev st (st.halt dev).2 := by
  have settled := rests.settled ⟨st.device, []⟩
  exact of_noted ((upholds_settled dev).halt _ settled).holds
    ((Session.Outlives.lasting st.session).halt dev settled.toCalm (.refl _))
    fun keeps holds => ((alike_noted st holds).halt keeps.matches_journaled).alike

theorem drop (rests : st.session.Resting) : Fares dev st (st.drop dev) := by
  have settled := rests.settled ⟨st.device, []⟩
  exact of_noted (settled.drop dev) ((Session.Outlives.lasting st.session).drop dev settled.toCalm (.refl _))
    fun keeps holds => (alike_noted st holds).drop keeps.matches_journaled

theorem perform (rests : st.session.Resting) (live : st.session.live = true) (command : Command) :
    Fares dev st (st.perform dev command).2 := by
  have settled := rests.settled ⟨st.device, []⟩
  exact of_noted ((upholds_settled dev).perform settled live command).1
    (perform_outlives dev settled live command)
    fun keeps holds => ((alike_noted st holds).perform keeps.matches_journaled (.same command)).alike

theorem dropped (rests : st.session.Resting) :
    (st.drop dev).session.Outlives { st.session with live := false } := by
  have calm := (rests.settled ⟨st.device, []⟩).toCalm
  have alike := (alike_noted (J := fun _ => True) st trivial).drop
    (Device.Keeps.always dev).matches_journaled
  exact alike.session.outlives (drop_outlives dev calm)

theorem dropped_inside {d : Delivery} (rests : st.session.Resting) (delivery : st.session.delivery = some d)
    (drops : d.reactions.head? = some .drop) (report : Report) :
    (st.receive dev report).session.live = false := by
  have alike := (alike_noted (J := fun _ => True) st trivial).receive
    (Device.Keeps.always dev).matches_journaled report
  rw [← alike.session.live]
  exact live_receive_drop dev rests delivery drops report

end Fares

end Station

end TriggeredSampler
