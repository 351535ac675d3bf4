import TriggeredSampler.Proofs.Session.Operations
import TriggeredSampler.Proofs.Session.Telling

/-! # A session between two operations

Between two operations nothing waits to be delivered, a dropped session is not active, and the handler of
a run that is watched was told what `Station.Tells` says. Every operation brings the session back into
such a state.

* `Station.Settled` — the invariant.
* `Station.upholds_settled` — the operations keep it.
-/

namespace TriggeredSampler.Station

variable {σ : Type} (dev : Device σ) {st st' : Station (Journal σ)} {watch : Option Run} {gone : Bool}

/-! ## Requests -/

/-- Another state of the device, and another entry in its journal. -/
def entered (device : σ) (entry : Entry) (st : Station (Journal σ)) : Station (Journal σ) :=
  { st with device := ⟨device, st.device.entries ++ [entry]⟩ }

theorem adds_entered {device : σ} {entry : Entry} (other : entry.ofStart = false)
    (silent : entry.report? = none) :
    Adds st.device.entries (st.entered device entry).device.entries [] := by
  refine ⟨[entry], rfl, ?_, by simp [sentReports, silent]⟩
  intro e member
  rw [List.mem_singleton.1 member]
  exact other

theorem keeps_device {journal : Journal σ} {sent : List Report}
    (adds : Adds st.device.entries journal.entries sent) : Keeps st { st with device := journal } :=
  ⟨rfl, rfl, id, fun _ => rfl, .refl _, .inl rfl, _, adds⟩

theorem receive_keeps (sound : st.session.Sound) (report : Report) :
    Keeps st (st.receive dev.journaled report) :=
  (enqueue_keeps dev report).trans (drain_keeps dev ((enqueue_keeps dev report).sound sound) _)

/-- The reports are raised, and the handler is told, before the request is answered. -/
theorem line_eq (r : Request) (st : Station (Journal σ)) :
    ∃ (reports : List Report) (raised : σ) (a : r.Answer) (device : σ), line dev.journaled r st =
      (a, (reports.foldl (receive dev.journaled) (st.entered raised (.asked r))).entered device
        (.answered r a)) :=
  ⟨_, _, _, _, rfl⟩

/-- Without a delivery a request does not touch the session. -/
theorem receive_closed (dev : Device σ) {st : Station σ} (closed : st.session.delivery = none)
    (report : Report) : (st.receive dev report).session = st.session := by
  simp [receive, enqueue, closed, drainAll, drain, dequeue]

theorem foldl_receive_closed (dev : Device σ) {st : Station σ} (closed : st.session.delivery = none)
    (reports : List Report) : (reports.foldl (receive dev) st).session = st.session := by
  induction reports generalizing st with
  | nil => rfl
  | cons report rest ih =>
    have same := receive_closed dev closed report
    rw [List.foldl_cons, ih (by rw [same, closed]), same]

theorem line_closed (dev : Device σ) {st : Station σ} (closed : st.session.delivery = none)
    (r : Request) : (line dev r st).2.session = st.session := by
  have heard := @foldl_receive_closed _ dev
    { st with device := (dev.announce st.session.handle r st.device).2 } closed
  exact heard _

/-! ## The invariant -/

/-- Nothing waits to be delivered, and the handler of the watched run was told everything, as long as no
other start was asked for. -/
structure Calm (watch : Option Run) (gone : Bool) (st : Station (Journal σ)) : Prop where
  sound : st.session.Sound
  idle : st.queued = 0
  prior : ∀ run ∈ watch, startsIn run.prior ≤ startsIn st.device.entries
  tells : ∀ run ∈ watch, startsIn st.device.entries = startsIn run.prior → Tells run gone st

/-- A session between two operations. -/
structure Settled (watch : Option Run) (gone : Bool) (st : Station (Journal σ)) : Prop
    extends Calm watch gone st where
  dropped : st.session.live = false → st.session.phase.isActive = false

/-- An operation that keeps what a run under way keeps brings a settled session to a settled one. -/
theorem Settled.of_keeps (settled : Settled watch gone st) (keeps : Keeps st st')
    (calm : Calm watch gone st') : Settled watch gone st' := by
  refine ⟨calm, ?_⟩
  intro dropped
  cases keeps.live with
  | inl same => exact keeps.onward.idle (settled.dropped (same ▸ dropped))
  | inr idle => exact idle

/-- Whatever leaves the delivery and the notes alone, and sends nothing, keeps a session calm. -/
theorem Calm.unchanged (calm : Calm watch gone st) (keeps : Keeps st st')
    (delivery : st'.session.delivery = st.session.delivery)
    (notes : st'.session.notes = st.session.notes)
    (adds : Adds st.device.entries st'.device.entries []) : Calm watch gone st' := by
  refine ⟨keeps.sound calm.sound, ?_, ?_, ?_⟩
  · have idle := calm.idle
    unfold queued at idle ⊢
    rw [delivery]
    exact idle
  · rw [adds.startsIn]
    exact calm.prior
  · intro run member same
    rw [adds.startsIn] at same
    exact (calm.tells run member same).unchanged delivery notes (fun _ => keeps.tracked) adds.silent

theorem Calm.onward (calm : Calm watch gone st) {l : Lifecycle Failure}
    (onward : st.session.lifecycle.Onward l) :
    Calm watch gone { st with session := { st.session with lifecycle := l } } :=
  calm.unchanged (.ofInside (.ofLifecycle onward)) rfl rfl (.refl _)

theorem Calm.entered (calm : Calm watch gone st) (device : σ) {entry : Entry}
    (other : entry.ofStart = false) (silent : entry.report? = none) :
    Calm watch gone (st.entered device entry) ∧ Keeps st (st.entered device entry) := by
  have adds : Adds st.device.entries (st.entered device entry).device.entries [] :=
    adds_entered other silent
  exact ⟨calm.unchanged (keeps_device adds) rfl rfl adds, keeps_device adds⟩

theorem Calm.receive (calm : Calm watch gone st) (report : Report) :
    Calm watch gone (st.receive dev.journaled report) := by
  have keeps := receive_keeps dev calm.sound report
  obtain ⟨_, adds⟩ := keeps.adds
  refine ⟨keeps.sound calm.sound, drainAll_idle dev ((enqueue_keeps dev report).sound calm.sound), ?_, ?_⟩
  · rw [adds.startsIn]
    exact calm.prior
  · intro run member same
    rw [adds.startsIn] at same
    exact (calm.tells run member same).receive dev calm.sound report

theorem Calm.foldl_receive (calm : Calm watch gone st) (reports : List Report) :
    Calm watch gone (reports.foldl (Station.receive dev.journaled) st) ∧
      Keeps st (reports.foldl (Station.receive dev.journaled) st) := by
  -- by induction on the reports
  induction reports generalizing st with
  | nil => exact ⟨calm, .refl st⟩
  | cons report rest ih =>
    obtain ⟨after, keeps⟩ := ih (calm.receive dev report)
    exact ⟨after, (receive_keeps dev calm.sound report).trans keeps⟩

/-- A request, unless it asks for a start. -/
theorem Calm.line (calm : Calm watch gone st) {r : Request} (other : (Entry.asked r).ofStart = false) :
    Calm watch gone (line dev.journaled r st).2 ∧ Keeps st (line dev.journaled r st).2 := by
  obtain ⟨reports, raised, a, device, eq⟩ := line_eq dev r st
  rw [eq]
  have answer : (Entry.answered r a).ofStart = false := by
    cases r <;> simp_all [Entry.ofStart]
  obtain ⟨asking, asked⟩ := calm.entered raised other rfl
  obtain ⟨told, heard⟩ := asking.foldl_receive dev reports
  obtain ⟨done, answered⟩ := told.entered device answer rfl
  exact ⟨done, (asked.trans heard).trans answered⟩

/-! ## Operations -/

/-- The closing notice, if it is due. -/
theorem Calm.close (calm : Calm watch gone st) :
    Calm watch gone (st.close dev.journaled) ∧ Keeps st (st.close dev.journaled) := by
  have tells : ∀ run ∈ watch, startsIn st.device.entries = startsIn run.prior →
      Tells run gone (st.close dev.journaled) := fun run member same =>
    (calm.tells run member same).close dev calm.sound
  unfold Station.close at tells ⊢
  split
  next closed =>
    simp only [closed] at tells
    exact ⟨calm, .refl st⟩
  next d delivery =>
    simp only [delivery] at tells
    split
    next ended =>
      -- the closing notice is terminal, so nothing is left to be delivered
      rw [if_pos ended] at tells
      have notified := calm.sound.notified delivery
      obtain ⟨arrived, presents⟩ := present_presents dev notified delivery (st.session.closing d)
      have terminal : (st.session.closing d).phase.isTerminal = true := ended
      have closed := presents.delivery
      rw [if_pos terminal] at closed
      refine ⟨⟨presents.keeps.sound calm.sound, by rw [queued, closed], ?_, ?_⟩, presents.keeps⟩
      · rw [presents.adds.startsIn]
        exact calm.prior
      · intro run member same
        rw [presents.adds.startsIn] at same
        exact tells run member same
    next => exact ⟨calm, .refl st⟩

theorem keeps_lifecycle {l : Lifecycle Failure} (onward : st.session.lifecycle.Onward l) :
    Keeps st { st with session := { st.session with lifecycle := l } } :=
  .ofInside (.ofLifecycle onward)

theorem Calm.halt (calm : Calm watch gone st) :
    Calm watch gone (st.halt dev.journaled).2 ∧ Keeps st (st.halt dev.journaled).2 ∧
      (st.halt dev.journaled).2.session.phase.isTerminal = true := by
  unfold Station.halt stop
  split
  next ended => exact ⟨calm, .refl st, ended⟩
  next =>
    split
    next =>
      exact ⟨calm.onward (.cancel _), keeps_lifecycle (.cancel _), Lifecycle.isTerminal_cancel _⟩
    next =>
      obtain ⟨asked, keeps⟩ := calm.line dev (r := .stop) rfl
      generalize Station.line dev.journaled .stop st = outcome at asked keeps ⊢
      obtain ⟨result, after⟩ := outcome
      cases result with
      | error _ =>
        exact ⟨asked.onward (.fail _ _), keeps.trans (keeps_lifecycle (.fail _ _)),
          Lifecycle.isTerminal_fail _ _⟩
      | ok _ =>
        exact ⟨asked.onward (.cancel _), keeps.trans (keeps_lifecycle (.cancel _)),
          Lifecycle.isTerminal_cancel _⟩

theorem Calm.follow (calm : Calm watch gone st) (reported : Phase) (fault : Option DeviceFault) :
    Calm watch gone { st with session := st.session.follow reported fault } ∧
      Keeps st { st with session := st.session.follow reported fault } := by
  have onward := st.session.follow_onward reported fault
  rw [Session.follow_eq]
  exact ⟨calm.onward onward, keeps_lifecycle onward⟩

theorem Calm.refresh (calm : Calm watch gone st) :
    Calm watch gone (st.refresh (Station.line dev.journaled)).2 ∧
      Keeps st (st.refresh (Station.line dev.journaled)).2 := by
  unfold Station.refresh
  obtain ⟨asked, keeps⟩ := calm.line dev (r := .phase) rfl
  generalize Station.line dev.journaled .phase st = outcome at asked keeps ⊢
  obtain ⟨result, after⟩ := outcome
  cases result with
  | error _ => exact ⟨asked.onward (.fail _ _), keeps.trans (keeps_lifecycle (.fail _ _))⟩
  | ok reported =>
    simp only [faultBehind]
    split
    next =>
      obtain ⟨asked', keeps'⟩ := asked.line dev (r := .fault) rfl
      generalize Station.line dev.journaled .fault after = outcome at asked' keeps' ⊢
      obtain ⟨followed, onward⟩ := asked'.follow reported outcome.1
      exact ⟨followed, (keeps.trans keeps').trans onward⟩
    next =>
      obtain ⟨followed, onward⟩ := asked.follow reported none
      exact ⟨followed, keeps.trans onward⟩

theorem Calm.fetch (calm : Calm watch gone st) :
    Calm watch gone (st.fetch (Station.line dev.journaled)).2 ∧
      Keeps st (st.fetch (Station.line dev.journaled)).2 := by
  unfold Station.fetch
  obtain ⟨asked, keeps⟩ := calm.line dev (r := .data) rfl
  generalize Station.line dev.journaled .data st = outcome at asked keeps ⊢
  obtain ⟨result, after⟩ := outcome
  cases result with
  | error _ => exact ⟨asked.onward (.fail _ _), keeps.trans (keeps_lifecycle (.fail _ _))⟩
  | ok data =>
    simp only
    split
    next breach _ =>
      have failed := asked.onward (.fail after.session.lifecycle (.ofBreach breach))
      obtain ⟨stopped, keeps'⟩ := failed.line dev (r := .stop) rfl
      exact ⟨stopped, (keeps.trans (keeps_lifecycle (.fail _ _))).trans keeps'⟩
    next => exact ⟨asked, keeps⟩

theorem Calm.poll (calm : Calm watch gone st) :
    Calm watch gone (st.poll (Station.line dev.journaled)).2 ∧
      Keeps st (st.poll (Station.line dev.journaled)).2 := by
  unfold Station.poll
  split
  next => exact ⟨calm, .refl st⟩
  next =>
    split
    next => exact ⟨calm, .refl st⟩
    next =>
      obtain ⟨refreshed, keeps⟩ := calm.refresh dev
      generalize st.refresh (Station.line dev.journaled) = outcome at refreshed keeps ⊢
      obtain ⟨result, after⟩ := outcome
      cases result with
      | error _ => exact ⟨refreshed, keeps⟩
      | ok _ =>
        obtain ⟨fetched, keeps'⟩ := refreshed.fetch dev
        exact ⟨fetched, keeps.trans keeps'⟩

theorem Settled.number (settled : Settled watch gone st) (data : List Batch) :
    Settled watch gone { st with session := (st.session.number data).2 } := by
  have keeps : Keeps st { st with session := (st.session.number data).2 } :=
    ⟨rfl, st.session.numbering.tracked_number data, id, fun _ => rfl, .refl _, .inl rfl, [], .refl _⟩
  exact settled.of_keeps keeps (settled.unchanged keeps rfl rfl (.refl _))

theorem Calm.abandoned (calm : Calm watch gone st) :
    Calm watch gone { st with session := { st.session with live := false } } := by
  refine ⟨⟨calm.sound.numbering, calm.sound.delivering, calm.sound.stalled⟩, calm.idle, calm.prior, ?_⟩
  intro run member same
  exact (calm.tells run member same).unchanged rfl rfl (fun _ => rfl) (.refl _)

/-- A session is released by stopping its run. -/
theorem Calm.release (calm : Calm watch gone st) :
    Calm watch gone (st.release (Station.line dev.journaled)) ∧
      (st.release (Station.line dev.journaled)).session.phase.isActive = false := by
  unfold Station.release
  simp only
  split
  next =>
    obtain ⟨halted, _, ended⟩ := calm.abandoned.halt dev
    exact ⟨halted, Phase.isActive_of_isTerminal ended⟩
  next idle => exact ⟨calm.abandoned, by simpa using idle⟩

theorem Settled.drop (settled : Settled watch gone st) : Settled watch gone (st.drop dev.journaled) := by
  unfold Station.drop
  split
  next live =>
    obtain ⟨calm, idle⟩ := settled.release dev
    -- the run is over, so the closing notice is all there is to wait for
    rw [join_eq_close dev.journaled calm.sound calm.idle idle]
    obtain ⟨closed, keeps⟩ := calm.close dev
    exact ⟨closed, fun _ => keeps.onward.idle idle⟩
  next => exact settled

theorem Settled.configure (settled : Settled watch gone st) (c : Configuration) :
    Settled watch gone (st.configure dev.journaled c).2 := by
  unfold Station.configure
  split
  next => exact settled
  next =>
    split
    next => exact settled
    next idle =>
      -- only an idle session is configured: its last run is closed first
      have idle : st.session.phase.isActive = false := by simpa using idle
      obtain ⟨closed, keeps⟩ := settled.close dev
      have delivery := delivery_close dev.journaled settled.sound idle
      rw [join_eq_close dev.journaled settled.sound settled.idle idle]
      generalize st.close dev.journaled = joined at closed keeps delivery ⊢
      obtain ⟨asked, keeps'⟩ := closed.line dev (r := .configure c) rfl
      have kept := keeps.trans keeps'
      have delivery := keeps'.closed delivery
      generalize Station.line dev.journaled (.configure c) joined = outcome
        at asked keeps' kept delivery ⊢
      obtain ⟨result, after⟩ := outcome
      cases result with
      | error _ =>
        have failed := keeps_lifecycle (.fail after.session.lifecycle (.device ‹_›))
        exact settled.of_keeps (kept.trans failed) (asked.onward (.fail _ _))
      | ok _ =>
        simp only
        split
        next => exact settled.of_keeps kept asked
        next l configured =>
          have accepted : l = .configured := by
            unfold Lifecycle.configure at configured
            split at configured <;> cases configured
            rfl
          have nothing : (after.adopt c l).session.delivery = none := delivery
          refine ⟨⟨⟨rfl, ?_, asked.sound.stalled⟩, ?_, asked.prior, ?_⟩, ?_⟩
          · intro delivering
            rw [nothing] at delivering
            cases delivering
          · rw [queued, nothing]
          · intro run member same
            refine (asked.tells run member same).unchanged rfl rfl ?_ (.refl _)
            intro delivering
            rw [show after.session.delivery = none from delivery] at delivering
            cases delivering
          · intro _
            rw [accepted]
            rfl

theorem Settled.pass (settled : Settled watch gone st) : Settled watch gone (st.pass dev.journaled) := by
  apply pass_induction
  · have quiet : Adds st.device.entries (dev.journaled.advance st.device).2.entries [] := .refl _
    have keeps : Keeps st { st with device := (dev.journaled.advance st.device).2 } :=
      keeps_device quiet
    exact settled.of_keeps keeps (settled.unchanged keeps rfl rfl (.refl _))
  · intro after report settled
    exact settled.of_keeps (receive_keeps dev settled.sound report) (settled.receive dev report)

/-! ## Starting -/

/-- The station that asks for a start: its session waits for the trigger. -/
def armed (handler : Option (List Reaction)) (tag : Int) (st : Station (Journal σ)) :
    Station (Journal σ) :=
  { st with session := { st.session with
      notified := handler.isSome, lifecycle := .ready
      delivery := handler.map fun reactions => ⟨tag, reactions, []⟩ } }

theorem sound_armed (sound : st.session.Sound) (handler : Option (List Reaction)) (tag : Int) :
    (st.armed handler tag).session.Sound := by
  refine ⟨sound.numbering, fun delivering => ⟨?_, rfl⟩, sound.stalled⟩
  simpa only [armed, Option.isSome_map] using delivering

/-- The part of a start that the device takes part in. -/
def launched (trigger : Trigger) (handler : Option (List Reaction)) (tag : Int)
    (st : Station (Journal σ)) : Except Failure Unit × Station (Journal σ) :=
  match line dev.journaled (.start handler.isSome tag) (st.armed handler tag) with
  | (.error fault, st) =>
    (.error (.device fault), ((st.fail (.device fault)).dismiss dev.journaled).join dev.journaled)
  | (.ok (), st) => st.activate dev.journaled trigger

/-- Nothing is delivered before a run has begun. -/
theorem writeTrigger_closed (closed : st.session.delivery = none) (trigger : Trigger) (offset : Int) :
    (st.writeTrigger dev.journaled trigger offset).2.session = st.session := by
  unfold writeTrigger
  split
  · exact line_closed dev.journaled closed _
  · rfl

theorem Calm.writeTrigger (calm : Calm watch gone st) (trigger : Trigger) (offset : Int) :
    Calm watch gone (st.writeTrigger dev.journaled trigger offset).2 ∧
      Keeps st (st.writeTrigger dev.journaled trigger offset).2 := by
  unfold Station.writeTrigger
  split
  · exact calm.line dev rfl
  · exact ⟨calm, .refl st⟩

/-- A configured session without a delivery opens one and asks for the start. -/
theorem launch_eq (closed : st.session.delivery = none) (configured : st.session.lifecycle = .configured)
    (trigger : Trigger) (handler : Option (List Reaction)) (tag : Int) :
    ((st.join dev.journaled).openDelivery handler tag).launch dev.journaled trigger handler tag =
      st.launched dev trigger handler tag := by
  rw [join_of_closed dev.journaled closed]
  simp only [launch, openDelivery, configured, Lifecycle.arm, launched, armed]
  split <;> rename_i answered <;> rw [answered]

/-- A session that can be started writes its trigger, and asks for the start if a handler gets a thread. -/
theorem start_eq (sound : st.session.Sound) {trigger : Trigger} (ok : st.startTrigger = .ok trigger)
    (handler : Option (List Reaction)) (tag : Int) (refusal : Option String) :
    st.session.phase = .configured ∧ st.start dev.journaled handler tag refusal =
      match st.writeTrigger dev.journaled trigger 0 with
      | (.error fault, st) => (.error (.device fault), st.fail (.device fault))
      | (.ok (), st) =>
        match threadFault handler refusal with
        | some fault => (.error (.device fault), st)
        | none => st.launched dev trigger handler tag := by
  have lifecycle := lifecycle_of_startTrigger ok
  have configured : st.session.phase = .configured := congrArg Lifecycle.phase lifecycle
  refine ⟨configured, ?_⟩
  have closed := sound.delivery_of_configured configured
  have same := writeTrigger_closed dev closed trigger 0
  unfold start
  rw [ok]
  simp only
  generalize st.writeTrigger dev.journaled trigger 0 = written at same ⊢
  obtain ⟨result, after⟩ := written
  replace same : after.session = st.session := same
  cases result with
  | error _ => rfl
  | ok _ =>
    simp only
    cases threadFault handler refusal with
    | some fault => simp only [join_of_closed dev.journaled (show after.session.delivery = none by rw [same, closed])]
    | none => exact launch_eq dev (by rw [same, closed]) (by rw [same, lifecycle]) trigger handler tag

/-- A trigger was written, if there is one to write: the session did not change. -/
structure Primed (watch : Option Run) (gone : Bool) (st st' : Station (Journal σ)) : Prop where
  closed : st.session.delivery = none
  same : st'.session = st.session
  calm : Calm watch gone st'
  keeps : Keeps st st'

/-- How far a start gets before the device is asked for it. -/
inductive Starting (watch : Option Run) (gone : Bool) (handler : Option (List Reaction)) (tag : Int)
    (refusal : Option String) (st : Station (Journal σ)) :
    Except Failure Unit × Station (Journal σ) → Prop where
  | unready (m : Misuse) : Starting watch gone handler tag refusal st (.error (.misuse m), st)
  | unwritten {after : Station (Journal σ)} (primed : Primed watch gone st after) (fault : DeviceFault) :
      Starting watch gone handler tag refusal st (.error (.device fault), after.fail (.device fault))
  | unheard {after : Station (Journal σ)} (primed : Primed watch gone st after) {fault : DeviceFault}
      (thread : threadFault handler refusal = some fault) :
      Starting watch gone handler tag refusal st (.error (.device fault), after)
  | launched {after : Station (Journal σ)} (primed : Primed watch gone st after) (trigger : Trigger)
      (thread : threadFault handler refusal = none) :
      Starting watch gone handler tag refusal st (after.launched dev trigger handler tag)

theorem Settled.starting (settled : Settled watch gone st) (handler : Option (List Reaction)) (tag : Int)
    (refusal : Option String) :
    Starting dev watch gone handler tag refusal st (st.start dev.journaled handler tag refusal) := by
  cases startable : st.startTrigger with
  | error m =>
    unfold Station.start
    rw [startable]
    exact .unready m
  | ok trigger =>
    obtain ⟨configured, eq⟩ := start_eq dev settled.sound startable handler tag refusal
    rw [eq]
    have closed := settled.sound.delivery_of_configured configured
    have same := writeTrigger_closed dev closed trigger 0
    obtain ⟨written, keeps⟩ := settled.writeTrigger dev trigger 0
    generalize st.writeTrigger dev.journaled trigger 0 = outcome at same written keeps ⊢
    obtain ⟨result, after⟩ := outcome
    cases result with
    | error fault => exact .unwritten ⟨closed, same, written, keeps⟩ fault
    | ok _ =>
      simp only
      split
      next fault thread => exact .unheard ⟨closed, same, written, keeps⟩ thread
      next thread => exact .launched ⟨closed, same, written, keeps⟩ trigger thread

/-- A start that is asked for ends the watch. -/
theorem Calm.asking (written : Calm watch gone st) (handler : Option (List Reaction)) (tag : Int)
    (raised : σ) :
    Calm watch gone ((st.armed handler tag).entered raised (.asked (.start handler.isSome tag))) := by
  have another : ∀ run ∈ watch, startsIn run.prior < startsIn ((st.armed handler tag).entered raised
      (.asked (.start handler.isSome tag))).device.entries := by
    intro run member
    have prior := written.prior run member
    simp only [Station.entered, armed, startsIn_append]
    exact Nat.lt_of_le_of_lt prior (Nat.lt_succ_self _)
  refine ⟨⟨written.sound.numbering, ?_, written.sound.stalled⟩, ?_, ?_, ?_⟩
  · intro delivering
    exact ⟨by simpa [Station.entered, armed] using delivering, rfl⟩
  · cases handler <;> rfl
  · intro run member
    exact Nat.le_of_lt (another run member)
  · intro run member same
    exact absurd same (Nat.ne_of_gt (another run member))

/-- What the device does between the request of a start and its answer. -/
theorem Calm.startLine {handler : Option (List Reaction)} {tag : Int}
    (asking : ∀ raised, Calm watch gone
      ((st.armed handler tag).entered raised (.asked (.start handler.isSome tag))))
    (live : st.session.live = true) :
    ∃ a after, Station.line dev.journaled (.start handler.isSome tag) (st.armed handler tag) =
        (a, after) ∧ Settled watch gone after ∧
      ∃ added, after.device.entries = st.device.entries ++
          .asked (.start handler.isSome tag) :: added ++ [.answered (.start handler.isSome tag) a] ∧
        ∀ entry ∈ added, entry.ofStart = false := by
  obtain ⟨reports, raised, a, device, eq⟩ :=
    line_eq dev (.start handler.isSome tag) (st.armed handler tag)
  obtain ⟨told, heard⟩ := (asking raised).foldl_receive dev reports
  generalize reports.foldl (Station.receive dev.journaled)
    ((st.armed handler tag).entered raised (.asked (.start handler.isSome tag))) = running
    at eq told heard
  have silent : Silent running.device.entries
      (running.entered device (.answered (.start handler.isSome tag) a)).device.entries :=
    ⟨[.answered (.start handler.isSome tag) a], rfl, rfl, rfl⟩
  refine ⟨a, _, eq, ⟨⟨told.sound, told.idle, ?_, ?_⟩, ?_⟩, ?_⟩
  · rw [silent.startsIn]
    exact told.prior
  · intro run member same
    rw [silent.startsIn] at same
    exact (told.tells run member same).unchanged rfl rfl (fun _ => rfl) silent
  · intro dropped
    cases heard.live with
    | inl same => cases dropped.symm.trans (same.trans live)
    | inr idle => exact idle
  · obtain ⟨_, added, journal, quiet, _⟩ := heard.adds
    refine ⟨added, ?_, quiet⟩
    simp only [Station.entered] at journal ⊢
    rw [journal]
    simp [Station.armed]

theorem Settled.activate (settled : Settled watch gone st) (trigger : Trigger) :
    Settled watch gone (st.activate dev.journaled trigger).2 ∧
      Keeps st (st.activate dev.journaled trigger).2 := by
  unfold Station.activate
  obtain ⟨written, keeps⟩ := settled.writeTrigger dev trigger 1
  generalize st.writeTrigger dev.journaled trigger 1 = outcome at written keeps ⊢
  obtain ⟨result, after⟩ := outcome
  cases result with
  | error fault =>
    simp only at written keeps ⊢
    -- the session is over before the device is stopped, so what the stop raises is shown as its end
    have failed : Calm watch gone (after.fail (.device fault)) := written.onward (.fail _ _)
    have ended : Keeps st (after.fail (.device fault)) := keeps.trans (keeps_lifecycle (.fail _ _))
    obtain ⟨stopped, keeps'⟩ := failed.line dev (r := .stop) rfl
    have idle : (Station.line dev.journaled .stop (after.fail (.device fault))).2.session.phase.isActive =
        false :=
      keeps'.onward.idle (Phase.isActive_of_isTerminal (Lifecycle.isTerminal_fail _ _))
    rw [join_eq_close dev.journaled stopped.sound stopped.idle idle]
    obtain ⟨closed, keeps''⟩ := stopped.close dev
    have kept := (ended.trans keeps').trans keeps''
    exact ⟨settled.of_keeps kept closed, kept⟩
  | ok _ => exact ⟨settled.of_keeps keeps written, keeps⟩

theorem keeps_endDelivery (st : Station (Journal σ)) : Keeps st st.endDelivery :=
  ⟨rfl, rfl, fun _ => rfl, fun _ => rfl, .refl _, .inl rfl, [], .refl _⟩

/-- A start that the device refuses has failed the session, and its delivery is over. -/
theorem refused_keeps (sound : st.session.Sound) (fault : DeviceFault) :
    Keeps (st.fail (.device fault)) (((st.fail (.device fault)).dismiss dev.journaled).join dev.journaled) ∧
      (((st.fail (.device fault)).dismiss dev.journaled).join dev.journaled).session.delivery = none := by
  have fails : Keeps st (st.fail (.device fault)) := keeps_lifecycle (.fail _ _)
  have failed := fails.sound sound
  have idle : (st.fail (.device fault)).session.phase.isActive = false :=
    Phase.isActive_of_isTerminal (Lifecycle.isTerminal_fail _ _)
  obtain dropped | held := join_dismiss dev.journaled (st.fail (.device fault))
  · rw [dropped]
    exact ⟨keeps_endDelivery _, rfl⟩
  · rw [held]
    exact ⟨join_keeps dev failed idle, delivery_join dev failed idle⟩

/-- A start that the device refuses leaves nobody to be told anything, or somebody to be told the end. -/
theorem Settled.refused (settled : Settled watch gone st) (fault : DeviceFault)
    (another : ∀ run ∈ watch, startsIn st.device.entries ≠ startsIn run.prior) :
    Settled watch gone (((st.fail (.device fault)).dismiss dev.journaled).join dev.journaled) := by
  have ended : (st.fail (.device fault)).session.phase.isTerminal = true := Lifecycle.isTerminal_fail _ _
  obtain dropped | held := join_dismiss dev.journaled (st.fail (.device fault))
  · rw [dropped]
    exact ⟨⟨⟨settled.sound.numbering, by simp [endDelivery], settled.sound.stalled⟩, rfl, settled.prior,
      fun run member same => absurd same (another run member)⟩,
      fun _ => Phase.isActive_of_isTerminal ended⟩
  · have failed : Calm watch gone (st.fail (.device fault)) := settled.toCalm.onward (.fail _ _)
    obtain ⟨closed, keeps⟩ := failed.close dev
    rw [held, join_eq_close dev.journaled failed.sound failed.idle (Phase.isActive_of_isTerminal ended)]
    exact settled.of_keeps ((keeps_lifecycle (.fail _ _)).trans keeps) closed

theorem Settled.start (settled : Settled watch gone st) (live : st.session.live = true)
    (handler : Option (List Reaction)) (tag : Int) (refusal : Option String) :
    Settled watch gone (st.start dev.journaled handler tag refusal).2 := by
  have starting := settled.starting dev handler tag refusal
  generalize st.start dev.journaled handler tag refusal = outcome at starting ⊢
  cases starting with
  | unready m => exact settled
  | unwritten primed fault =>
    exact settled.of_keeps (primed.keeps.trans (keeps_lifecycle (.fail _ _)))
      (primed.calm.onward (.fail _ _))
  | unheard primed thread => exact settled.of_keeps primed.keeps primed.calm
  | @launched after primed trigger thread =>
    have alive : after.session.live = true := by rw [primed.same, live]
    obtain ⟨a, running, eq, started, added, journal, _⟩ := Calm.startLine dev
      (primed.calm.asking handler tag) alive
    simp only [launched, eq]
    cases a with
    | error fault =>
      -- the watched run is not the latest one any more
      apply started.refused dev
      intro run member same
      have prior := primed.calm.prior run member
      rw [← same, journal, startsIn_append, startsIn_append, startsIn_start] at prior
      omega
    | ok _ => exact (started.activate dev trigger).1

theorem upholds_settled : Upholds dev.journaled (Settled (σ := σ) watch gone) fun _ => True where
  misuse _ := trivial
  timeout _ := trivial
  configure c _ settled _ := ⟨settled.configure dev c, fun _ _ => trivial⟩
  start handler tag refusal _ settled live :=
    ⟨settled.start dev live handler tag refusal, fun _ _ => trivial⟩
  halt _ settled := by
    obtain ⟨calm, keeps, _⟩ := settled.halt dev
    exact ⟨settled.of_keeps keeps calm, fun _ _ => trivial⟩
  refresh _ settled := by
    obtain ⟨calm, keeps⟩ := settled.refresh dev
    exact ⟨settled.of_keeps keeps calm, fun _ _ => trivial⟩
  poll _ settled := by
    obtain ⟨calm, keeps⟩ := settled.poll dev
    exact ⟨settled.of_keeps keeps calm, fun _ _ => trivial⟩
  number data st settled checked := by
    refine ⟨settled.number data, ?_⟩
    rw [Session.checkData_eq_ok_iff, ← settled.sound.numbering] at checked
    exact st.session.numbering.number_of_whole checked
  readBack _ settled := by
    obtain ⟨calm, keeps⟩ := settled.line dev (r := .configuration) rfl
    exact ⟨settled.of_keeps keeps calm, fun _ _ => trivial⟩
  drop _ settled _ := settled.drop dev
  close _ settled := by
    obtain ⟨calm, keeps⟩ := settled.close dev
    exact settled.of_keeps keeps calm
  pass _ settled := settled.pass dev

end TriggeredSampler.Station
