import TriggeredSampler.Proofs.Session.Calls
import TriggeredSampler.Proofs.Session.Notices

/-! # Waiting for a delivery to end

Configuring, starting and dropping wait for the delivery of the run before. A delivery ends with the next
notice once the session is over, so it is enough that no operation waits while the session is active. The
waits of an operation are found by a port that notes them.

* `Port.noting` — the port that notes which sessions wait.
* `Session.Ending` — a session whose delivery ends with the next notice.
* `Station.waitUntil_eq_ok` — what a wait for the end of a run has seen when it returns.
* `Station.joins_of_course` — no operation waits for a delivery that goes on.
-/

namespace TriggeredSampler

variable {σ : Type}

/-! ## Noting what waits -/

/-- A device state, with the sessions that waited for a delivery so far. -/
structure Waiting (σ : Type) where
  device : σ
  joins : List Session

namespace Station

/-- The station with the sessions that waited so far. -/
def waiting (joins : List Session) (st : Station σ) : Station (Waiting σ) :=
  ⟨st.session, ⟨st.device, joins⟩⟩

end Station

/-- The port that notes which sessions wait. -/
def Port.noting (port : Port σ) : Port (Waiting σ) where
  line r st :=
    let answered := port.line r ⟨st.session, st.device.device⟩
    (answered.1, answered.2.waiting st.device.joins)
  join st := (port.join ⟨st.session, st.device.device⟩).waiting (st.device.joins ++ [st.session])
  dismiss st := (port.dismiss ⟨st.session, st.device.device⟩).waiting st.device.joins
  inside := port.inside

namespace Port

variable (port : Port σ) (st : Station σ) (joins : List Session)

@[simp] theorem inside_noting : port.noting.inside = port.inside := rfl

@[simp] theorem line_noting (r : Request) :
    port.noting.line r (st.waiting joins) = ((port.line r st).1, (port.line r st).2.waiting joins) := rfl

@[simp] theorem join_noting :
    port.noting.join (st.waiting joins) = (port.join st).waiting (joins ++ [st.session]) := rfl

@[simp] theorem dismiss_noting :
    port.noting.dismiss (st.waiting joins) = (port.dismiss st).waiting joins := rfl

end Port

namespace Station

/-- The drop of a session through a port. -/
def dropAt (port : Port σ) (st : Station σ) : Station σ :=
  if st.session.live then port.join (st.release port.line) else st

theorem dropAt_owner (dev : Device σ) (st : Station σ) : st.dropAt (.owner dev) = st.drop dev := rfl

/-- The sessions that wait for a delivery in a command, in their order. -/
def joins (dev : Device σ) (command : Command) (st : Station σ) : List Session :=
  let port := (Port.owner dev).noting
  match command with
  | .configure c => ((st.waiting []).configureAt port c).2.device.joins
  | .start tag => ((st.waiting []).startAt port none tag none).2.device.joins
  | .startNotified reactions tag refusal =>
    ((st.waiting []).startAt port (some reactions) tag refusal).2.device.joins
  | .drop => ((st.waiting []).dropAt port).device.joins
  | _ => []

section Noting

variable (port : Port σ) (st : Station σ) (joins : List Session)

@[simp] theorem session_waiting : (st.waiting joins).session = st.session := rfl

@[simp] theorem fail_waiting (f : Failure) : (st.waiting joins).fail f = (st.fail f).waiting joins := rfl

@[simp] theorem endDelivery_waiting : (st.waiting joins).endDelivery = st.endDelivery.waiting joins := rfl

theorem writeTriggerAt_noting (t : Trigger) (offset : Int) :
    (st.waiting joins).writeTriggerAt port.noting.line t offset =
      ((st.writeTriggerAt port.line t offset).1, (st.writeTriggerAt port.line t offset).2.waiting joins) := by
  cases writes : st.session.options.armsTrigger && t.condition.readsAddress with
  | true => simp only [writeTriggerAt, session_waiting, writes, if_true, Port.line_noting]
  | false => simp only [writeTriggerAt, session_waiting, writes, Bool.false_eq_true, if_false]

theorem stop_noting :
    (st.waiting joins).stop port.noting.line =
      ((st.stop port.line).1, (st.stop port.line).2.waiting joins) := by
  by_cases ended : st.session.phase.isTerminal = true
  · simp only [stop, session_waiting, ended, if_true]
  · by_cases unused : st.session.phase = .unconfigured
    · simp only [stop, session_waiting, unused, if_true]
      rfl
    · simp only [stop, session_waiting, ended, unused, if_false, Port.line_noting]
      generalize port.line .stop st = outcome
      obtain ⟨result, after⟩ := outcome
      cases result <;> rfl

theorem release_noting :
    (st.waiting joins).release port.noting.line = (st.release port.line).waiting joins := by
  have stops := stop_noting port { st with session := { st.session with live := false } } joins
  have phase : { st.session with live := false }.phase = st.session.phase := rfl
  by_cases active : st.session.phase.isActive = true
  · simp only [release, session_waiting, phase, active, if_true]
    exact congrArg Prod.snd stops
  · simp only [release, session_waiting, phase, active]
    rfl

end Noting

end Station

/-! ## Sessions whose delivery ends -/

/-- A session that is not active: if a delivery is open, the next notice ends it. -/
structure Session.Ending (s : Session) : Prop where
  sound : s.Sound
  idle : s.phase.isActive = false

namespace Session.Ending

variable {s : Session} {d : Delivery}

theorem terminal (ending : s.Ending) (delivery : s.delivery = some d) : s.phase.isTerminal = true :=
  ending.sound.ended delivery ending.idle

/-- The delivery ends when it is closed, whatever the device is. -/
theorem close (ending : s.Ending) (dev : Device σ) (device : σ) :
    (Station.close dev ⟨s, device⟩).session.delivery = none :=
  Station.delivery_close dev ending.sound ending.idle

/-- So it ends while somebody waits for it: with a report that is queued, or with the closing notice. -/
theorem join (ending : s.Ending) (dev : Device σ) (journal : Journal σ) :
    (Station.join dev.journaled ⟨s, journal⟩).session.delivery = none :=
  Station.delivery_join dev ending.sound ending.idle

/-- The delivery ends with the next report that arrives, whatever the device is. -/
theorem deliver (ending : s.Ending) (dev : Device σ) (journal : Journal σ) (report : Report)
    (delivery : s.delivery = some d) :
    (Station.deliver dev.journaled report ⟨s, journal⟩).session.delivery = none := by
  obtain ⟨notice, arrived, delivers⟩ :=
    @Station.deliver_delivers _ dev ⟨s, journal⟩ d ending.sound delivery report
  rw [delivers.delivery, if_pos (delivers.ended (ending.terminal delivery))]

end Session.Ending

namespace Station

variable (dev : Device σ) {st : Station (Journal σ)} {watch : Option Run} {gone : Bool}

/-- A configuration waits at most for a run that is over. -/
theorem Settled.configure_noting (settled : Settled watch gone st) (c : Configuration) :
    ∃ joins, (st.waiting []).configureAt (Port.owner dev.journaled).noting c =
        ((st.configure dev.journaled c).1, (st.configure dev.journaled c).2.waiting joins) ∧
      ∀ s ∈ joins, s.Ending := by
  simp only [configureAt, Station.configure, Port.inside_noting, Port.inside_owner, Bool.false_eq_true, if_false,
    session_waiting, Port.join_noting, Port.join_owner, Port.line_noting, Port.line_owner]
  cases c.validate with
  | error defect => exact ⟨[], rfl, by simp⟩
  | ok _ =>
    rcases Bool.eq_false_or_eq_true st.session.phase.isActive with active | active
    · exact ⟨[], by simp only [active, if_true], by simp⟩
    · have ending : st.session.Ending := ⟨settled.sound, active⟩
      refine ⟨[st.session], ?_, by simpa using ending⟩
      simp only [active, Bool.false_eq_true, if_false]
      generalize line dev.journaled (.configure c) (st.join dev.journaled) = outcome
      obtain ⟨result, after⟩ := outcome
      cases result with
      | error fault => rfl
      | ok _ =>
        simp only [List.nil_append, session_waiting]
        cases after.session.lifecycle.configure <;> rfl

/-- A session whose trigger could not be activated has failed before it waits. -/
theorem Settled.activate_noting (settled : Settled watch gone st) (trigger : Trigger) {joins : List Session}
    (ending : ∀ s ∈ joins, s.Ending) :
    ∃ more, (st.waiting joins).activateAt (Port.owner dev.journaled).noting trigger =
        ((st.activate dev.journaled trigger).1, (st.activate dev.journaled trigger).2.waiting more) ∧
      ∀ s ∈ more, s.Ending := by
  have written := (settled.writeTrigger dev trigger 1).1
  have notes := writeTriggerAt_noting (Port.owner dev.journaled) st joins trigger 1
  unfold activateAt Station.activate
  rw [notes, show st.writeTriggerAt (Port.owner dev.journaled).line trigger 1 =
    st.writeTrigger dev.journaled trigger 1 from rfl]
  generalize st.writeTrigger dev.journaled trigger 1 = outcome at written ⊢
  obtain ⟨result, after⟩ := outcome
  cases result with
  | ok _ => exact ⟨joins, rfl, ending⟩
  | error fault =>
    have failed : Calm watch gone (after.fail (.device fault)) := written.onward (.fail _ _)
    obtain ⟨stopped, keeps⟩ := failed.line dev (r := .stop) rfl
    have dismissed : (line dev.journaled .stop (after.fail (.device fault))).2.session.Ending :=
      ⟨stopped.sound, keeps.onward.idle (Phase.isActive_of_isTerminal (Lifecycle.isTerminal_fail _ _))⟩
    refine ⟨joins ++ [(line dev.journaled .stop (after.fail (.device fault))).2.session], rfl, ?_⟩
    intro s member
    cases List.mem_append.1 member with
    | inl earlier => exact ending s earlier
    | inr last => exact List.mem_singleton.1 last ▸ dismissed

/-- A session whose start the device refused has failed before it waits. -/
theorem Settled.ending_dismiss (settled : Settled watch gone st) (fault : DeviceFault) :
    ((st.fail (.device fault)).dismiss dev.journaled).session.Ending := by
  have failed : Settled watch gone (st.fail (.device fault)) :=
    settled.of_keeps (keeps_lifecycle (.fail _ _)) (settled.toCalm.onward (.fail _ _))
  have idle : (st.fail (.device fault)).session.phase.isActive = false :=
    Phase.isActive_of_isTerminal (Lifecycle.isTerminal_fail _ _)
  unfold dismiss
  split
  next => exact ⟨failed.sound, idle⟩
  next => exact ⟨failed.hangUp.sound, idle⟩

/-- A session that starts has no delivery to wait for. -/
theorem Settled.launched_noting (settled : Settled watch gone st) (live : st.session.live = true)
    (closed : st.session.delivery = none) (configured : st.session.lifecycle = .configured)
    (trigger : Trigger) (handler : Option (List Reaction)) (tag : Int) :
    ∃ joins, (((Port.owner dev.journaled).noting.join (st.waiting [])).openDelivery handler tag).launchAt
          (Port.owner dev.journaled).noting trigger handler tag =
        ((st.launched dev trigger handler tag).1, (st.launched dev trigger handler tag).2.waiting joins) ∧
      ∀ s ∈ joins, s.Ending := by
  have ending : st.session.Ending := by
    refine ⟨settled.sound, ?_⟩
    rw [Session.phase, configured]
    rfl
  have waits : (Port.owner dev.journaled).noting.join (st.waiting []) = st.waiting [st.session] := by
    rw [Port.join_noting, Port.join_owner, join_of_closed _ closed, List.nil_append]
  obtain ⟨a, after, asked, started, _⟩ := Calm.startLine dev (settled.toCalm.asking handler tag) live
  have notes : (Port.owner dev.journaled).noting.line (.start handler.isSome tag)
      ((st.armed handler tag).waiting [st.session]) = (a, after.waiting [st.session]) := by
    rw [Port.line_noting, Port.line_owner, asked]
  rw [waits, launched, asked]
  simp only [launchAt, openDelivery, session_waiting, configured, Lifecycle.arm]
  split
  next fault noted answered =>
    obtain ⟨rfl, rfl⟩ := Prod.mk.inj (answered.symm.trans notes)
    have dismissed := started.ending_dismiss dev fault
    refine ⟨[st.session, ((after.fail (.device fault)).dismiss dev.journaled).session], rfl, ?_⟩
    intro s member
    rw [List.mem_pair] at member
    rcases member with rfl | rfl
    · exact ending
    · exact dismissed
  next noted answered =>
    obtain ⟨rfl, rfl⟩ := Prod.mk.inj (answered.symm.trans notes)
    exact started.activate_noting dev trigger (by simpa using ending)

theorem Settled.start_noting (settled : Settled watch gone st) (live : st.session.live = true)
    (handler : Option (List Reaction)) (tag : Int) (refusal : Option String) :
    ∃ joins, (st.waiting []).startAt (Port.owner dev.journaled).noting handler tag refusal =
        ((st.start dev.journaled handler tag refusal).1,
          (st.start dev.journaled handler tag refusal).2.waiting joins) ∧
      ∀ s ∈ joins, s.Ending := by
  have same : (st.waiting []).startTrigger = st.startTrigger := rfl
  simp only [startAt, Port.inside_noting, Port.inside_owner, Bool.false_eq_true, if_false, same]
  cases startable : st.startTrigger with
  | error m =>
    rw [Station.start, startable]
    exact ⟨[], rfl, by simp⟩
  | ok trigger =>
    obtain ⟨phase, starts⟩ := start_eq dev settled.sound startable handler tag refusal
    have closed := settled.sound.delivery_of_configured phase
    have unchanged := writeTrigger_closed dev closed trigger 0
    obtain ⟨written, keeps⟩ := settled.writeTrigger dev trigger 0
    have ready : Settled watch gone (st.writeTrigger dev.journaled trigger 0).2 :=
      settled.of_keeps keeps written
    have notes := writeTriggerAt_noting (Port.owner dev.journaled) st [] trigger 0
    rw [show st.writeTriggerAt (Port.owner dev.journaled).line trigger 0 =
      st.writeTrigger dev.journaled trigger 0 from rfl] at notes
    simp only [notes, starts]
    generalize st.writeTrigger dev.journaled trigger 0 = outcome at unchanged ready ⊢
    obtain ⟨result, after⟩ := outcome
    replace unchanged : after.session = st.session := unchanged
    cases result with
    | error fault => exact ⟨[], rfl, by simp⟩
    | ok _ =>
      have configured : after.session.lifecycle = .configured := by
        rw [unchanged, Session.lifecycle_of_configured phase]
      have nothing : after.session.delivery = none := by rw [unchanged, closed]
      cases threadFault handler refusal with
      | none =>
        exact ready.launched_noting dev (by rw [unchanged, live]) nothing configured trigger handler tag
      | some fault =>
        -- nor has one whose handler gets no thread
        refine ⟨[after.session], ?_, ?_⟩
        · simp only [Port.join_noting, Port.join_owner, join_of_closed _ nothing, List.nil_append]
        · have idle : after.session.phase.isActive = false := by
            rw [Session.phase, configured]
            rfl
          simpa using (⟨ready.sound, idle⟩ : after.session.Ending)

/-- A session that is dropped stops its run before it waits. -/
theorem Settled.drop_noting (settled : Settled watch gone st) :
    ∃ joins, (st.waiting []).dropAt (Port.owner dev.journaled).noting =
        (st.drop dev.journaled).waiting joins ∧ ∀ s ∈ joins, s.Ending := by
  by_cases live : st.session.live = true
  · obtain ⟨released, idle⟩ := settled.release dev
    have notes := release_noting (Port.owner dev.journaled) st []
    refine ⟨[(st.release (line dev.journaled)).session], ?_, by simpa using ⟨released.sound, idle⟩⟩
    simp only [dropAt, Station.drop, session_waiting, live, if_true, notes]
    rfl
  · exact ⟨[], by simp only [dropAt, Station.drop, session_waiting, live]; rfl, by simp⟩

/-- A session that is still used waits only for runs that are over. -/
theorem Settled.ending_joins (settled : Settled watch gone st) (live : st.session.live = true)
    (command : Command) : ∀ s ∈ st.joins dev.journaled command, s.Ending := by
  cases command with
  | configure c =>
    obtain ⟨joins, notes, ending⟩ := settled.configure_noting dev c
    simp only [Station.joins, notes]
    exact ending
  | start tag =>
    obtain ⟨joins, notes, ending⟩ := settled.start_noting dev live none tag none
    simp only [Station.joins, notes]
    exact ending
  | startNotified reactions tag refusal =>
    obtain ⟨joins, notes, ending⟩ := settled.start_noting dev live (some reactions) tag refusal
    simp only [Station.joins, notes]
    exact ending
  | drop =>
    obtain ⟨joins, notes, ending⟩ := settled.drop_noting dev
    simp only [Station.joins, notes]
    exact ending
  | _ => simp [Station.joins]

/-- A start that fails leaves no delivery behind, unless it was refused at once. The session is over then,
unless it is a thread that the handler did not get. -/
theorem Settled.start_eq_error (settled : Settled watch gone st) (live : st.session.live = true)
    (handler : Option (List Reaction)) (tag : Int) (refusal : Option String) {f : Failure}
    (fails : (st.start dev.journaled handler tag refusal).1 = .error f) :
    (∃ m, f = .misuse m ∧ (st.start dev.journaled handler tag refusal).2 = st) ∨
      ((st.start dev.journaled handler tag refusal).2.session.phase.isTerminal = true ∨
          ∃ fault ∈ threadFault handler refusal, f = .device fault ∧
            (st.start dev.journaled handler tag refusal).2.session = st.session) ∧
        (st.start dev.journaled handler tag refusal).2.session.delivery = none := by
  have starting := settled.starting dev handler tag refusal
  generalize st.start dev.journaled handler tag refusal = outcome at starting fails ⊢
  cases starting with
  | unready m => exact .inl ⟨m, (Except.error.inj fails).symm, rfl⟩
  | @unwritten after primed fault =>
    refine .inr ⟨.inl (Lifecycle.isTerminal_fail _ _), ?_⟩
    rw [show (after.fail (.device fault)).session.delivery = after.session.delivery from rfl, primed.same,
      primed.closed]
  | @unheard after primed fault thread =>
    exact .inr ⟨.inr ⟨fault, thread, (Except.error.inj fails).symm, primed.same⟩,
      by rw [primed.same, primed.closed]⟩
  | @launched after primed trigger =>
    refine .inr ?_
    have alive : after.session.live = true := by rw [primed.same, live]
    obtain ⟨a, running, asked, started, _⟩ :=
      Calm.startLine dev (primed.calm.asking handler tag) alive
    simp only [launched, asked] at fails ⊢
    cases a with
    | error fault =>
      obtain ⟨keeps, closed⟩ := refused_keeps dev started.sound fault
      exact ⟨.inl (keeps.onward.isTerminal (Lifecycle.isTerminal_fail _ _)), closed⟩
    | ok _ =>
      simp only [Station.activate] at fails ⊢
      have written := (started.writeTrigger dev trigger 1).1
      generalize running.writeTrigger dev.journaled trigger 1 = outcome at written fails ⊢
      obtain ⟨result, after⟩ := outcome
      cases result with
      | ok _ => cases fails
      | error fault =>
        have failed : Calm watch gone (after.fail (.device fault)) := written.onward (.fail _ _)
        obtain ⟨stopped, keeps⟩ := failed.line dev (r := .stop) rfl
        have ended := keeps.onward.isTerminal (Lifecycle.isTerminal_fail after.session.lifecycle (.device fault))
        have idle := Phase.isActive_of_isTerminal ended
        obtain ⟨_, keeps'⟩ := stopped.close dev
        simp only
        rw [join_eq_close dev.journaled stopped.sound stopped.idle idle]
        exact ⟨.inl (keeps'.onward.isTerminal ended), delivery_close dev.journaled stopped.sound idle⟩

/-! ## Waiting for the end of a run -/

section Waits

variable {dev : Device σ} {st : Station σ} {done : Phase → Bool → Bool} {phase : Phase}

theorem refreshPhase_eq_ok (ok : (st.refreshPhase dev).1 = .ok phase) :
    (st.refreshPhase dev).2.session.phase = phase := by
  unfold refreshPhase refresh at ok ⊢
  generalize line dev .phase st = outcome at ok ⊢
  obtain ⟨result, after⟩ := outcome
  cases result with
  | error _ => cases ok
  | ok reported => exact Except.ok.inj ok

theorem look_eq_ok (ok : (st.look dev).1 = .ok phase) : (st.look dev).2.session.phase = phase := by
  unfold look at ok ⊢
  split at ok
  next notified =>
    rw [if_pos notified]
    exact Except.ok.inj ok
  next polled =>
    rw [if_neg polled]
    exact refreshPhase_eq_ok ok

theorem lookUntil_eq_ok {looks : Nat} (ok : (st.lookUntil dev done looks).1 = .ok (some phase)) :
    (st.lookUntil dev done looks).2.session.phase = phase ∧
      done phase (st.lookUntil dev done looks).2.session.delivery.isSome = true := by
  -- by induction on the looks
  induction looks generalizing st with
  | zero => cases ok
  | succ looks ih =>
    have looked := @look_eq_ok _ dev st
    unfold lookUntil at ok ⊢
    generalize st.look dev = outcome at ok looked ⊢
    obtain ⟨result, after⟩ := outcome
    cases result with
    | error _ => cases ok
    | ok seen =>
      simp only at ok ⊢
      split at ok
      next finished =>
        obtain rfl : seen = phase := Option.some.inj (Except.ok.inj ok)
        rw [if_pos finished]
        exact ⟨looked rfl, finished⟩
      next going =>
        rw [if_neg going]
        exact ih ok

/-- A wait returns the phase of the session at its last look, which is what it waited for. -/
theorem waitUntil_eq_ok {left : Nat} (ok : (st.waitUntil dev done left).1 = .ok phase) :
    (st.waitUntil dev done left).2.session.phase = phase ∧
      done phase (st.waitUntil dev done left).2.session.delivery.isSome = true := by
  -- by induction on the time that is left, which each pause shortens
  induction left using Nat.strongRecOn generalizing st with
  | _ left ih =>
    have looked := @lookUntil_eq_ok _ dev st done phase (if left = 0 then 1 else st.session.options.looks)
    unfold waitUntil at ok ⊢
    generalize st.lookUntil dev done (if left = 0 then 1 else st.session.options.looks) = outcome
      at ok looked ⊢
    rcases outcome with ⟨f | _ | seen, after⟩
    · cases ok
    · simp only at ok ⊢
      split at ok
      next => cases ok
      next more =>
        rw [dif_neg more]
        exact ih _ (by omega) ok
    · obtain rfl : seen = phase := Except.ok.inj ok
      exact looked rfl

end Waits

/-! ## Courses -/

/-- A start that the device accepts begins a run, as the last move of a course. -/
theorem Settled.begins (settled : Settled none gone st) (reactions : List Reaction) (tag : Int)
    (accepted : ∃ entry ∈ (st.act dev (.perform (.startNotified reactions tag))).device.entries.drop
      st.device.entries.length, entry.acceptsStart tag = true) :
    ∃ prior, Settled (some (st.runBegun tag prior)) false
        (st.act dev (.perform (.startNotified reactions tag))) ∧
      startsIn (st.act dev (.perform (.startNotified reactions tag))).device.entries =
        startsIn prior + 1 := by
  by_cases live : st.session.live = true
  · have acts : st.act dev (.perform (.startNotified reactions tag)) =
        (st.start dev.journaled (some reactions) tag none).2 := by
      rw [Station.act, if_pos live]
      rfl
    rw [acts] at accepted ⊢
    exact Station.begins dev settled live reactions tag accepted
  · -- a dropped session does nothing
    have acts : st.act dev (.perform (.startNotified reactions tag)) = st := by
      rw [Station.act, if_neg live]
    rw [acts] at accepted
    exact absurd accepted (not_accepted (.refl _) tag)

theorem waits_keeps :
    Waits dev.journaled (fun after => Settled watch gone after ∧ Keeps st after) fun _ => True where
  timeout _ := trivial
  refresh after holds := by
    obtain ⟨settled, kept⟩ := holds
    obtain ⟨calm, keeps⟩ := settled.refresh dev
    exact ⟨⟨settled.of_keeps keeps calm, kept.trans keeps⟩, fun _ _ => trivial⟩
  close after holds := by
    obtain ⟨settled, kept⟩ := holds
    obtain ⟨calm, keeps⟩ := settled.close dev
    exact ⟨settled.of_keeps keeps calm, kept.trans keeps⟩
  pass after holds := by
    obtain ⟨settled, kept⟩ := holds
    refine pass_induction (P := fun after => Settled watch gone after ∧ Keeps st after) ?_ ?_
    · have quiet : Adds after.device.entries (dev.journaled.advance after.device).2.entries [] := .refl _
      have keeps : Keeps after { after with device := (dev.journaled.advance after.device).2 } :=
        keeps_device quiet
      exact ⟨settled.of_keeps keeps (settled.unchanged keeps rfl rfl quiet), kept.trans keeps⟩
    · rintro heard report ⟨settled, kept⟩
      have keeps := receive_keeps dev settled.sound report
      exact ⟨settled.of_keeps keeps (settled.receive dev report), kept.trans keeps⟩

/-- The handler of the latest run has seen one terminal notice once nothing is delivered any more, unless
the device hung up. -/
theorem Settled.terminal_once {run : Run} (settled : Settled (some run) false st)
    (only : startsIn st.device.entries = startsIn run.prior) (closed : st.session.delivery = none) :
    ((st.noticesFrom run.noted).filter fun notice => notice.phase.isTerminal).length = 1 := by
  rcases settled.tells run rfl only with ⟨d, _, _, telling⟩ | ⟨_, _, front, closing, _, told⟩
  · cases telling.delivery.symm.trans closed
  · rw [told.notices]
    exact length_filter_terminal told.going (told.ended rfl)

/-- A wait for the end asks for no start, so the run is still the latest one when it returns. -/
theorem Settled.waited {run : Run} (settled : Settled (some run) false st)
    (only : startsIn st.device.entries = startsIn run.prior)
    (closed : (st.waitFinished dev.journaled).2.session.delivery = none) :
    (((st.waitFinished dev.journaled).2.noticesFrom run.noted).filter
      fun notice => notice.phase.isTerminal).length = 1 := by
  have waits := (waits_keeps dev).waitUntil (fun phase delivering => phase.isTerminal && !delivering)
    ⟨settled, .refl st⟩ st.session.options.waitLimit
  obtain ⟨told, keeps⟩ := waits.holds
  obtain ⟨_, adds⟩ := keeps.adds
  exact told.terminal_once (adds.startsIn.trans only) closed

/-- **Nothing waits for a delivery that goes on.** After any moves of any device, an open delivery belongs
to a run that was started. Whatever waits in a command for a delivery to end waits for that of a run which
is over: whatever the device does then, the next report or the next look ends it. A start that fails leaves
no delivery open, be it that the device holds on to the sender, or that the handler gets no thread. A wait for the end returns when the session is over and nothing is delivered, and unless
the device hung up the handler has then seen the one terminal notice of its run. -/
theorem joins_of_course (handle : Handle) (options : Options) (device : σ) (moves : List (Move σ)) :
    let bound : Station (Journal σ) := ⟨.bind handle options, ⟨device, []⟩⟩
    let st := bound.course dev moves
    let waited := st.waitFinished dev.journaled
    (∀ d, st.session.delivery = some d → st.session.notified = true ∧
        (st.session.phase ∈ [.ready, .running] ∨ st.session.phase.isTerminal = true)) ∧
      (st.session.live = true → ∀ command, ∀ s ∈ st.joins dev.journaled command,
        (∀ (other : Device σ) journal, (join other.journaled ⟨s, journal⟩).session.delivery = none) ∧
        ∀ d, s.delivery = some d → s.phase.isTerminal = true ∧
          ∀ (other : Device σ) journal report,
            (close other.journaled ⟨s, journal⟩).session.delivery = none ∧
            (deliver other.journaled report ⟨s, journal⟩).session.delivery = none) ∧
      (∀ step, (st.act dev step).session.stalled = false) ∧
      (st.session.live = true → ∀ handler tag refusal f,
        (st.start dev.journaled handler tag refusal).1 = .error f →
        (∃ m, f = .misuse m ∧ (st.start dev.journaled handler tag refusal).2 = st) ∨
          ((st.start dev.journaled handler tag refusal).2.session.phase.isTerminal = true ∨
              ∃ fault ∈ threadFault handler refusal, f = .device fault ∧
                (st.start dev.journaled handler tag refusal).2.session = st.session) ∧
            (st.start dev.journaled handler tag refusal).2.session.delivery = none) ∧
      ∀ phase, waited.1 = .ok phase →
        waited.2.session.phase = phase ∧ phase.isTerminal = true ∧ waited.2.session.delivery = none ∧
          ∀ before reactions tag after,
            moves = before ++ .act (.perform (.startNotified reactions tag)) :: after →
            let st₀ := bound.course dev before
            let st₁ := st₀.act dev (.perform (.startNotified reactions tag))
            (∃ entry ∈ st₁.device.entries.drop st₀.device.entries.length, entry.acceptsStart tag = true) →
            startsIn st.device.entries = startsIn st₁.device.entries →
            (∀ move ∈ after, move.hangsUp = false) →
            ((waited.2.noticesFrom st₀.session.notes.length).filter
              fun notice => notice.phase.isTerminal).length = 1 := by
  intro bound st waited
  have settled : Settled none (false || moves.any Move.hangsUp) st :=
    (settled_bind handle options ⟨device, []⟩).course dev moves
  refine ⟨?_, ?_, ?_, fun live handler tag refusal _ =>
    settled.start_eq_error dev live handler tag refusal, ?_⟩
  · intro d delivery
    refine ⟨settled.sound.notified delivery, ?_⟩
    have begun := settled.sound.begun delivery
    cases phase : st.session.phase <;> simp [phase, Phase.begun, Phase.isActive, Phase.isTerminal] at begun ⊢
  · intro live command s member
    have ending := settled.ending_joins dev live command s member
    refine ⟨fun other journal => ending.join other journal, fun d delivery =>
      ⟨ending.terminal delivery, fun other journal report => ⟨ending.close other.journaled journal, ?_⟩⟩⟩
    exact ending.deliver other journal report delivery
  · exact fun step => (settled.act dev step).sound.stalled
  · intro phase ok
    obtain ⟨same, finished⟩ := waitUntil_eq_ok ok
    simp only [Bool.and_eq_true, Bool.not_eq_true', Option.isSome_eq_false_iff, Option.isNone_iff_eq_none]
      at finished
    refine ⟨same, finished.1, finished.2, ?_⟩
    intro before reactions tag after split st₀ st₁ accepted only listening
    have first : Settled none (false || before.any Move.hangsUp) st₀ :=
      (settled_bind handle options ⟨device, []⟩).course dev before
    obtain ⟨prior, begun, starts⟩ := first.begins dev reactions tag accepted
    have reached : st = st₁.course dev after := by
      show bound.course dev moves = _
      rw [split, course, List.foldl_append, List.foldl_cons]
      rfl
    have heard : (false || after.any Move.hangsUp) = false := by
      rw [Bool.false_or, List.any_eq_false]
      intro move member
      simp [listening move member]
    have told := begun.course dev after
    rw [heard, ← reached] at told
    refine told.waited dev ?_ finished.2
    rw [startsIn_runBegun, ← starts, ← only]

/-- A run that is stopped. A configuration would wait for its delivery, which is open until it looks at the
session; then a wait for the end returns. -/
theorem joins_of_stoppedRun :
    let bound : Station (Journal Playback) := ⟨.bind ⟨0⟩ .standard, ⟨.blank, []⟩⟩
    let moves : List (Move Playback) := [.act (.perform (.configure oneAddress)),
      .act (.perform (.startNotified [] 5)), .act .halt]
    let st := bound.course Playback.device moves
    let waited := (bound.course Playback.device (moves ++ [.look])).waitFinished Playback.device.journaled
    (∃ s ∈ st.joins Playback.device.journaled (.configure oneAddress),
        s.delivery.isSome = true ∧ s.phase.isTerminal = true) ∧
      waited.1 = .ok .cancelled ∧
      ((waited.2.noticesFrom 0).filter fun notice => notice.phase.isTerminal).length = 1 := by
  intro bound moves st waited
  obtain ⟨_, joins, _⟩ := joins_of_course Playback.device ⟨0⟩ .standard .blank moves
  obtain ⟨_, _, _, _, waits⟩ := joins_of_course Playback.device ⟨0⟩ .standard .blank (moves ++ [.look])
  have joined : ∃ s ∈ st.joins Playback.device.journaled (.configure oneAddress), s.delivery.isSome = true := by
    decide +kernel
  have finished : waited.1 = .ok .cancelled := by
    show (waitFinished Playback.device.journaled _).1 = _
    rw [waitFinished, waitUntil]
    decide +kernel
  refine ⟨?_, finished, ?_⟩
  · obtain ⟨s, member, delivering⟩ := joined
    obtain ⟨d, delivery⟩ := Option.isSome_iff_exists.1 delivering
    obtain ⟨_, ends⟩ := joins (by decide +kernel) (.configure oneAddress) s member
    exact ⟨s, member, delivering, (ends d delivery).1⟩
  · obtain ⟨_, _, _, told⟩ := waits .cancelled finished
    exact told [.act (.perform (.configure oneAddress))] [] 5 [.act .halt, .look] rfl (by decide +kernel)
      (by decide +kernel) (by simp [Move.hangsUp, Step.hangsUp])

end Station

end TriggeredSampler
