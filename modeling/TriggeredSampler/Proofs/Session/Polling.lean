import TriggeredSampler.Proofs.Device.Observed
import TriggeredSampler.Proofs.Session.Agreement
import TriggeredSampler.Proofs.Session.Engaged

/-! # A session whose device is observed

A session that can be polled asks its device, of which every sampled row is noted. Whatever the session does,
short of accepting a configuration and of taking a handler, the rows that were handed out and those that wait
at the device are the rows sampled; and once the session is over, its device samples nothing more.

* `Station.Polled` — the relation of the session and its device between two requests.
* `Station.CarriesOn` — what becomes of both.
* `Station.Polled.stop`, `Station.Polled.refresh`, `Station.Polled.start`, ... — the operations.
* `Station.Polled.fetch` — the data is handed out.
-/

namespace TriggeredSampler

open Engine (rowsIn rowIn)

variable {c : Configuration} {h : Handle} {past : List (Nat × List Reading)} {n n' : Node}
  {sampled sampled' : List Sampled}

/-- How a session that accepted a configuration stands to its device. -/
inductive Session.Abreast (s : Session) (n : Node) : Prop where
  /-- The device waits for its start, and has no data. -/
  | waits (configured : s.phase = .configured) (waiting : n.status.phase = .configured)
      (empty : n.status.data = [])
  | runs (active : s.phase.isActive = true) (begun : n.status.phase.begun = true)
  | finished (ended : s.phase.isTerminal = true) (idle : n.status.phase.isActive = false)

namespace Session.Abreast

variable {s : Session}

/-- The session is still abreast of a device that goes on. -/
theorem goes (abreast : s.Abreast n) (goes : n.Goes c past sampled n' sampled') : s.Abreast n' := by
  cases abreast with
  | waits configured waiting empty =>
    have idle : n.status.phase.isActive = false := by rw [waiting]; rfl
    exact .waits configured ((goes.drifts.still idle).trans waiting) ((goes.rests idle).1.trans empty)
  | runs active begun => exact .runs active (goes.drifts.begun begun)
  | finished ended idle => exact .finished ended (goes.drifts.idle idle).1

/-- A session that is not active has a device that is not. -/
theorem idle (abreast : s.Abreast n) (idle : s.phase.isActive = false) : n.status.phase.isActive = false := by
  cases abreast with
  | waits _ waiting _ =>
    rw [waiting]
    rfl
  | runs active _ => cases active.symm.trans idle
  | finished _ idle => exact idle

theorem congr {s' : Session} (abreast : s.Abreast n) (phase : s'.phase = s.phase) : s'.Abreast n := by
  cases abreast with
  | waits configured waiting empty => exact .waits (phase.trans configured) waiting empty
  | runs active begun => exact .runs (by rw [phase, active]) begun
  | finished ended idle => exact .finished (by rw [phase, ended]) idle

/-- The data of the device is taken. -/
theorem emptied (abreast : s.Abreast n) :
    s.Abreast ({ n with status := { n.status with data := [] } } : Node) := by
  cases abreast with
  | waits configured waiting _ => exact .waits configured waiting rfl
  | runs active begun => exact .runs active begun
  | finished ended idle => exact .finished ended idle

theorem ne_unconfigured (abreast : s.Abreast n) : s.phase ≠ .unconfigured := by
  intro early
  cases abreast <;> simp_all [Phase.isActive, Phase.isTerminal]

/-- The session follows to the phase in which its device was. -/
theorem follow (abreast : s.Abreast n) (goes : n.Goes c past sampled n' sampled')
    (fault : Option DeviceFault) : (s.follow n.status.phase fault).Abreast n' := by
  have after := abreast.goes goes
  cases abreast with
  | waits configured waiting _ =>
    rw [follow_idle (by rw [configured]; rfl) fun _ => waiting.trans configured.symm]
    exact after
  | finished ended _ =>
    rw [follow_idle (Phase.isActive_of_isTerminal ended)]
    · exact after
    · intro early
      rw [Phase.begun_of_isTerminal ended] at early
      cases early
  | runs active begun =>
    have phase := phase_follow active begun fault
    by_cases ended : n.status.phase.isTerminal = true
    · exact .finished (by rw [phase]; exact ended)
        (goes.drifts.idle (Phase.isActive_of_isTerminal ended)).1
    · exact .runs (by rw [phase]; exact Phase.isActive_of_begun begun (by simpa using ended))
        (goes.drifts.begun begun)

end Session.Abreast

namespace Station

variable {st st' st'' : Station Observed} {r : Request}

/-! ## Requests -/

/-- Any request but a stop raises nothing, and the session stays as it is. -/
theorem line_goes (st : Station Observed) (handle : st.session.handle = h)
    (node : st.device.scene.node? h = some n) (accounted : n.Accounted c past st.device.sampled)
    (other : r ≠ .stop) :
    ∃ n' o, line (Observed.device h) r st = ((n'.answer r).1, ⟨st.session, o⟩) ∧
      o.scene.node? h = some (n'.answer r).2 ∧ n.Goes c past st.device.sampled n' o.sampled := by
  subst handle
  obtain ⟨silent, n', node', goes⟩ := Observed.announce_goes accounted node other
  obtain ⟨answer, after, rows⟩ := Observed.answer_eq node' r
  refine ⟨n', _, ?_, after, by rw [rows]; exact goes⟩
  unfold line
  simp only [silent, List.foldl_nil]
  exact Prod.ext answer rfl

/-- A stop raises nothing either, and leaves the device inactive. -/
theorem line_stop (st : Station Observed) (handle : st.session.handle = h)
    (node : st.device.scene.node? h = some n) (accounted : n.Accounted c past st.device.sampled) :
    ∃ n' o, line (Observed.device h) .stop st = (.ok (), ⟨st.session, o⟩) ∧ o.scene.node? h = some n' ∧
      n'.Accounted c past o.sampled ∧ n'.status.phase.isActive = false ∧
      (n.status.phase.isActive = false → o.sampled = st.device.sampled) := by
  subst handle
  obtain ⟨silent, n', node', stopped, idle, rests⟩ := Observed.announce_stop accounted node
  obtain ⟨answer, after, rows⟩ := Observed.answer_eq node' .stop
  refine ⟨n', _, ?_, after, by rw [rows]; exact stopped, idle, fun idle => rows.trans (rests idle).2⟩
  unfold line
  simp only [silent, List.foldl_nil]
  exact Prod.ext answer rfl

/-- The write around a start raises nothing, and the session stays as it is. -/
theorem writeTrigger_goes (handle : st.session.handle = h) (node : st.device.scene.node? h = some n)
    (accounted : n.Accounted c past st.device.sampled) (trigger : Trigger) (offset : Int) :
    ∃ result n' o, st.writeTrigger (Observed.device h) trigger offset = (result, ⟨st.session, o⟩) ∧
      o.scene.node? h = some n' ∧ n.Goes c past st.device.sampled n' o.sampled := by
  unfold writeTrigger
  split
  next =>
    obtain ⟨n', o, answered, node', goes⟩ := line_goes st handle node accounted
      (r := .write trigger.address (trigger.value.toNat + offset) st.session.options.triggerBits) (by simp)
    exact ⟨_, _, o, answered, node', goes.trans (goes.accounted.answer rfl (by simp))⟩
  next => exact ⟨_, n, st.device, rfl, node, accounted.refl⟩

/-! ## Between the requests -/

/-- A session that can be polled, and its device. The polls so far were handed the rows `past`. -/
structure Polled (c : Configuration) (h : Handle) (past : List (Nat × List Reading)) (st : Station Observed) :
    Prop where
  handle : st.session.handle = h
  unnotified : st.session.notified = false
  closed : st.session.delivery = none
  tracked : st.session.tracked = c.tracked.length
  numbering : st.session.numbering.tracked = c.tracked.length
  stalled : st.session.stalled = false
  node : ∃ n, st.device.scene.node? h = some n ∧ n.Accounted c past st.device.sampled ∧ st.session.Abreast n

/-- The session and its device go on, and the polls have been handed the rows `past'` by then. Once the
session is over it stays over, and the device samples nothing. -/
structure CarriesOn (c : Configuration) (h : Handle) (st : Station Observed)
    (past' : List (Nat × List Reading)) (st' : Station Observed) : Prop where
  polled : st'.Polled c h past'
  stays : st.session.phase.isTerminal = true →
    st'.session.phase.isTerminal = true ∧ st'.device.sampled = st.device.sampled

theorem CarriesOn.trans {past' past'' : List (Nat × List Reading)} (first : st.CarriesOn c h past' st')
    (second : st'.CarriesOn c h past'' st'') : st.CarriesOn c h past'' st'' := by
  refine ⟨second.polled, fun ended => ?_⟩
  obtain ⟨ended', rows⟩ := first.stays ended
  obtain ⟨ended'', rows'⟩ := second.stays ended'
  exact ⟨ended'', rows'.trans rows⟩

/-- What a poll hands out: with everything before it, all the rows sampled so far. -/
structure HandsOut (c : Configuration) (h : Handle) (past : List (Nat × List Reading)) (st : Station Observed)
    (data : List Batch) (st' : Station Observed) : Prop where
  carriesOn : st.CarriesOn c h (past ++ data.flatMap (rowsIn c.tracked.length)) st'
  whole : wholeSamples c.tracked.length data = true
  filled : ∀ batch ∈ data, batch.readings ≠ []
  all : past ++ data.flatMap (rowsIn c.tracked.length) = st'.device.sampled.map rowIn

namespace Polled

theorem refl (polled : st.Polled c h past) : st.CarriesOn c h past st := ⟨polled, fun ended => ⟨ended, rfl⟩⟩

/-- The session changes as far as its device allows. -/
theorem withSession (polled : st.Polled c h past) {s : Session} {o : Observed}
    (frame : s = { st.session with lifecycle := s.lifecycle, live := s.live })
    (node : o.scene.node? h = some n) {past' : List (Nat × List Reading)}
    (accounted : n.Accounted c past' o.sampled) (abreast : s.Abreast n) : Polled c h past' ⟨s, o⟩ := by
  rw [frame] at abreast ⊢
  exact ⟨polled.handle, polled.unnotified, polled.closed, polled.tracked, polled.numbering, polled.stalled,
    n, node, accounted, abreast⟩

theorem resting (polled : st.Polled c h past) (live : st.session.live = true) : st.session.Resting where
  sound := ⟨polled.numbering.trans polled.tracked.symm, by simp [polled.closed], polled.stalled⟩
  idle _ delivery := by cases polled.closed.symm.trans delivery
  dropped dropped := by cases live.symm.trans dropped

/-- A session that goes on as its device does. -/
theorem withDevice (polled : st.Polled c h past) {o : Observed} (abreast : st.session.Abreast n)
    (node' : o.scene.node? h = some n') (goes : n.Goes c past st.device.sampled n' o.sampled) :
    st.CarriesOn c h past ⟨st.session, o⟩ := by
  refine ⟨polled.withSession rfl node' goes.accounted (abreast.goes goes), fun ended => ⟨ended, ?_⟩⟩
  exact (goes.rests (abreast.idle (Phase.isActive_of_isTerminal ended))).2

/-! ## Operations -/

theorem deviceConfiguration (polled : st.Polled c h past) :
    st.CarriesOn c h past (st.deviceConfiguration (Observed.device h)).2 := by
  obtain ⟨n, node, accounted, abreast⟩ := polled.node
  obtain ⟨n', o, answered, node', goes⟩ :=
    line_goes st polled.handle node accounted (r := .configuration) (by simp)
  rw [Station.deviceConfiguration, answered]
  exact polled.withDevice abreast node' goes

/-- The session follows its device; the fault behind a failure is asked for later. -/
theorem refresh (polled : st.Polled c h past) :
    ∃ phase st', st.refresh (line (Observed.device h)) = (.ok phase, st') ∧ st.CarriesOn c h past st' := by
  obtain ⟨n, node, accounted, abreast⟩ := polled.node
  obtain ⟨n', o, answered, node', goes⟩ := line_goes st polled.handle node accounted (r := .phase) (by simp)
  have blamed : ∃ fault n'' o', faultBehind (line (Observed.device h)) n'.status.phase ⟨st.session, o⟩ =
      (fault, ⟨st.session, o'⟩) ∧ o'.scene.node? h = some n'' ∧ n'.Goes c past o.sampled n'' o'.sampled := by
    unfold faultBehind
    split
    next =>
      obtain ⟨n'', o', answered, node'', goes'⟩ := line_goes ⟨st.session, o⟩ polled.handle node'
        goes.accounted (r := .fault) (by simp)
      exact ⟨_, n'', o', answered, node'', goes'⟩
    next => exact ⟨none, n', o, rfl, node', goes.accounted.refl⟩
  obtain ⟨fault, n'', o', blames, node'', goes'⟩ := blamed
  have followed := (abreast.goes goes).follow goes' fault
  have refreshed : st.refresh (line (Observed.device h)) =
      (.ok (st.session.follow n'.status.phase fault).phase,
        ⟨st.session.follow n'.status.phase fault, o'⟩) := by
    unfold Station.refresh
    rw [answered]
    simp only [Node.answer, blames]
  refine ⟨_, _, refreshed, ?_, fun ended => ⟨?_, ?_⟩⟩
  · exact polled.withSession (by rw [Session.follow_eq]) node'' goes'.accounted followed
  · exact (Session.follow_onward _ _ _).isTerminal ended
  · exact ((goes.trans goes').rests (abreast.idle (Phase.isActive_of_isTerminal ended))).2

/-- What waits at the device is handed out, and nothing waits behind it. -/
theorem fetch (polled : st.Polled c h past) :
    ∃ data st', st.fetch (line (Observed.device h)) = (.ok data, st') ∧ st.HandsOut c h past data st' := by
  obtain ⟨n, node, accounted, abreast⟩ := polled.node
  obtain ⟨n', o, answered, node', goes⟩ := line_goes st polled.handle node accounted (r := .data) (by simp)
  have whole := goes.accounted.sound.whole
  refine ⟨n'.status.data, ⟨st.session, o⟩, ?_, ⟨⟨?_, fun ended => ⟨ended, ?_⟩⟩, whole, goes.accounted.filled,
    goes.accounted.account⟩⟩
  · unfold Station.fetch
    rw [answered]
    have checked : st.session.checkData n'.status.data = .ok () := by
      rw [Session.checkData_eq_ok_iff, polled.tracked, whole]
    simp only [Node.answer, checked]
  · exact polled.withSession rfl node' goes.accounted.data (abreast.goes goes).emptied
  · exact (goes.rests (abreast.idle (Phase.isActive_of_isTerminal ended))).2

theorem stop (polled : st.Polled c h past) :
    ∃ st', st.stop (line (Observed.device h)) = (.ok (), st') ∧ st.CarriesOn c h past st' := by
  unfold Station.stop
  split
  next => exact ⟨st, rfl, polled.refl⟩
  next going =>
    obtain ⟨n, node, accounted, abreast⟩ := polled.node
    rw [if_neg abreast.ne_unconfigured]
    obtain ⟨n', o, answered, node', accounted', idle, -⟩ := line_stop st polled.handle node accounted
    rw [answered]
    exact ⟨_, rfl, polled.withSession rfl node' accounted' (.finished (Lifecycle.isTerminal_cancel _) idle),
      fun ended => absurd ended going⟩

theorem release (polled : st.Polled c h past) :
    st.CarriesOn c h past (st.release (line (Observed.device h))) := by
  obtain ⟨n, node, accounted, abreast⟩ := polled.node
  have given : st.CarriesOn c h past { st with session := { st.session with live := false } } :=
    ⟨polled.withSession rfl node accounted (abreast.congr rfl), fun ended => ⟨ended, rfl⟩⟩
  unfold Station.release
  simp only
  split
  next =>
    obtain ⟨st', stopped, carriesOn⟩ := given.polled.stop
    rw [stopped]
    exact given.trans carriesOn
  next => exact given

theorem drop (polled : st.Polled c h past) : st.CarriesOn c h past (st.drop (Observed.device h)) := by
  unfold Station.drop
  split
  next =>
    have released := polled.release
    rw [join_of_closed _ released.polled.closed]
    exact released
  next => exact polled.refl

theorem close (polled : st.Polled c h past) : st.CarriesOn c h past (st.close (Observed.device h)) := by
  rw [Station.close, polled.closed]
  exact polled.refl

theorem pass (polled : st.Polled c h past) : st.CarriesOn c h past (st.pass (Observed.device h)) := by
  obtain ⟨n, node, accounted, abreast⟩ := polled.node
  obtain ⟨silent, n', node', goes⟩ := Observed.advance_goes accounted node
  rw [← polled.handle] at silent ⊢
  rw [pass_of_silent _ silent, polled.handle]
  exact polled.withDevice abreast node' goes

/-! ## Starting -/

/-- A device that refuses the last write of a start is stopped; what it sampled until then still waits. -/
theorem activate (polled : st.Polled c h past) (trigger : Trigger) :
    st.CarriesOn c h past (st.activate (Observed.device h) trigger).2 := by
  obtain ⟨n, node, accounted, abreast⟩ := polled.node
  obtain ⟨result, n', o, written, node', goes⟩ := writeTrigger_goes polled.handle node accounted trigger 1
  unfold Station.activate
  rw [written]
  cases result with
  | ok _ => exact polled.withDevice abreast node' goes
  | error fault =>
    obtain ⟨n'', o', answered, node'', stopped, idle, rests⟩ :=
      line_stop ⟨st.session.fail (.device fault), o⟩ polled.handle node' goes.accounted
    have ended := Lifecycle.isTerminal_fail st.session.lifecycle (.device fault)
    have joined : join (Observed.device h) ⟨st.session.fail (.device fault), o'⟩ =
        ⟨st.session.fail (.device fault), o'⟩ := join_of_closed _ polled.closed
    simp only [fail, answered, joined]
    refine ⟨polled.withSession rfl node'' stopped (.finished ended idle), fun already => ⟨ended, ?_⟩⟩
    have quiet := abreast.idle (Phase.isActive_of_isTerminal already)
    exact (rests (goes.drifts.idle quiet).1).trans (goes.rests quiet).2

/-- A device that waits for its start is started, or refuses. -/
theorem launch (polled : st.Polled c h past) (configured : st.session.lifecycle = .configured)
    (trigger : Trigger) (tag : Int) :
    st.CarriesOn c h past (st.launch (Observed.device h) trigger none tag).2 := by
  obtain ⟨n, node, accounted, abreast⟩ := polled.node
  have phase : st.session.phase = .configured := congrArg Lifecycle.phase configured
  have going : st.session.phase.isTerminal = false := by
    rw [phase]
    rfl
  obtain ⟨idle, empty⟩ : n.status.phase.isActive = false ∧ n.status.data = [] := by
    cases abreast with
    | waits _ waiting empty => exact ⟨by rw [waiting]; rfl, empty⟩
    | runs active _ => simp [phase, Phase.isActive] at active
    | finished ended _ => cases ended.symm.trans going
  unfold Station.launch
  simp only [configured, Lifecycle.arm]
  -- while the device is asked, the session is ahead of it
  obtain ⟨n', o, answered, node', goes⟩ :=
    line_goes ⟨{ st.session with lifecycle := .ready }, st.device⟩ polled.handle node accounted
      (r := .start false tag) (by simp)
  simp only [Option.isSome_none, answered]
  obtain ⟨fault, n'', refused, goes'⟩ | ⟨n'', started, accounted', ready⟩ :=
    goes.accounted.start (goes.drifts.idle idle).1 ((goes.rests idle).1.trans empty) tag
  · rw [show n'.answer (.start false tag) = (.error fault, n'') from refused] at node' ⊢
    have still := (goes'.drifts.idle (goes.drifts.idle idle).1).1
    refine ⟨⟨polled.handle, polled.unnotified, rfl, polled.tracked, polled.numbering, polled.stalled,
      n'', node', goes'.accounted, .finished rfl still⟩, fun ended => ?_⟩
    cases ended.symm.trans going
  · rw [show n'.answer (.start false tag) = (.ok (), n'') from started] at node' ⊢
    have running : Polled c h past ⟨{ st.session with lifecycle := .ready }, o⟩ :=
      polled.withSession rfl node' accounted' (.runs rfl (by rw [ready]; rfl))
    refine ⟨(running.activate trigger).polled, fun ended => ?_⟩
    cases ended.symm.trans going

/-- A start gets nowhere, or the trigger is written and the sampler is launched. -/
theorem start_cases (polled : st.Polled c h past) (handler : Option (List Reaction)) (tag : Int)
    (refusal : Option String) :
    st.CarriesOn c h past (st.start (Observed.device h) handler tag refusal).2 ∨
      ∃ trigger o, st.session.lifecycle = .configured ∧ st.CarriesOn c h past ⟨st.session, o⟩ ∧
        st.start (Observed.device h) handler tag refusal =
          ((join (Observed.device h) ⟨st.session, o⟩).openDelivery handler tag).launch (Observed.device h)
            trigger handler tag := by
  unfold Station.start
  cases startable : st.startTrigger with
  | error m => exact .inl polled.refl
  | ok trigger =>
    have configured := lifecycle_of_startTrigger startable
    obtain ⟨n, node, accounted, abreast⟩ := polled.node
    obtain ⟨result, n', o, written, node', goes⟩ := writeTrigger_goes polled.handle node accounted trigger 0
    simp only [written]
    cases result with
    | error fault =>
      have idle := (abreast.goes goes).idle (by rw [Session.phase, configured]; rfl)
      have failed := Lifecycle.isTerminal_fail st.session.lifecycle (.device fault)
      refine .inl ⟨polled.withSession rfl node' goes.accounted (.finished failed idle), fun ended => ?_⟩
      rw [Session.phase, configured] at ended
      cases ended
    | ok _ =>
      have written := polled.withDevice abreast node' goes
      cases threadFault handler refusal with
      | none => exact .inr ⟨trigger, o, configured, written, rfl⟩
      | some fault =>
        refine .inl ?_
        simp only [join_of_closed (Observed.device h) written.polled.closed]
        exact written

/-- A start without a handler. -/
theorem start (polled : st.Polled c h past) (tag : Int) :
    st.CarriesOn c h past (st.start (Observed.device h) none tag none).2 := by
  obtain carriesOn | ⟨trigger, o, configured, after, launches⟩ := polled.start_cases none tag none
  · exact carriesOn
  have opened : openDelivery none tag (⟨st.session, o⟩ : Station Observed) = ⟨st.session, o⟩ := by
    unfold openDelivery
    simp only [Option.isSome_none, Option.map_none]
    rw [← polled.unnotified, ← polled.closed]
  have joined : join (Observed.device h) ⟨st.session, o⟩ = ⟨st.session, o⟩ := join_of_closed _ polled.closed
  rw [launches, joined, opened]
  exact after.trans (after.polled.launch configured trigger tag)

/-- A start with a handler gets nowhere, or from then on the handler is told. -/
theorem startNotified (polled : st.Polled c h past) (live : st.session.live = true)
    (reactions : List Reaction) (tag : Int) (refusal : Option String) :
    st.CarriesOn c h past (st.start (Observed.device h) (some reactions) tag refusal).2 ∨
      st.session.phase = .configured ∧
        (st.start (Observed.device h) (some reactions) tag refusal).2.session.Engaged := by
  have rests : (st.start (Observed.device h) (some reactions) tag refusal).2.session.Resting :=
    (Fares.perform _ (polled.resting live) live (.startNotified reactions tag refusal)).rests
  obtain carriesOn | ⟨trigger, o, configured, after, launches⟩ :=
    polled.start_cases (some reactions) tag refusal
  · exact .inl carriesOn
  · refine .inr ⟨congrArg Lifecycle.phase configured, rests, ?_⟩
    rw [launches]
    exact Session.Engaged.launched _ (after.polled.resting live) live configured trigger reactions tag

/-- A configuration that is not accepted changes nothing. -/
theorem configure_of_refused (polled : st.Polled c h past) {c' : Configuration}
    (refused : (st.configure (Observed.device h) c').1 ≠ .ok ()) :
    (st.configure (Observed.device h) c').2 = st := by
  unfold Station.configure at refused ⊢
  cases valid : c'.validate with
  | error defect => rfl
  | ok _ =>
    simp only [valid] at refused ⊢
    split
    next => rfl
    next idle =>
      -- the device of a session that is not active accepts every valid configuration
      exfalso
      have idle : st.session.phase.isActive = false := by simpa using idle
      obtain ⟨n, node, accounted, abreast⟩ := polled.node
      obtain ⟨n', o, answered, node', goes⟩ :=
        line_goes st polled.handle node accounted (r := .configure c') (by simp)
      obtain ⟨n'', stores, _⟩ :=
        Node.configure_eq_ok goes.accounted.sound (goes.drifts.idle (abreast.idle idle)).1 valid
      rw [show n'.answer (.configure c') = (.ok (), n'') from stores] at answered
      rw [if_neg (by simp [idle]), join_of_closed _ polled.closed, answered] at refused
      simp only [Lifecycle.configure_of_idle idle] at refused
      exact refused rfl

/-! ## Waiting and polling -/

theorem waits : Waits (Observed.device h) (st.CarriesOn c h past) fun _ => True where
  timeout _ := trivial
  refresh st' carriesOn := by
    obtain ⟨phase, st'', refreshed, carriesOn'⟩ := carriesOn.polled.refresh
    rw [refreshed]
    exact .ok (carriesOn.trans carriesOn')
  close _ carriesOn := carriesOn.trans carriesOn.polled.close
  pass _ carriesOn := carriesOn.trans carriesOn.polled.pass

/-- A poll succeeds, and hands out all that waits. -/
theorem poll (polled : st.Polled c h past) :
    ∃ data st', st.poll (line (Observed.device h)) = (.ok data, st') ∧ st.HandsOut c h past data st' := by
  obtain ⟨n, _, _, abreast⟩ := polled.node
  obtain ⟨phase, st', refreshed, carriesOn⟩ := polled.refresh
  obtain ⟨data, st'', fetched, hands⟩ := carriesOn.polled.fetch
  refine ⟨data, st'', ?_, ⟨carriesOn.trans hands.carriesOn, hands.whole, hands.filled, hands.all⟩⟩
  rw [Station.poll, if_neg (by simp [polled.unnotified]), if_neg abreast.ne_unconfigured, refreshed]
  exact fetched

end Polled

end Station

end TriggeredSampler
