import TriggeredSampler.Proofs.Session.Serving

/-! # The coupling of a session with a simulated device

A session that is the first at its handle goes through `Turn`s: commands of its owner, stops from
elsewhere, passing time, incidents at the device. Between the turns session and device are tied, and so
their phases are `Coupled`, whatever happens at the device during them.

* `Station.Tied.configure`, `Station.Tied.start` — the operations that take both further.
* `Station.Tied.start_refused` — a start whose worker gets no thread.
* `Station.upholds_tied` — every operation keeps session and device tied.
* `Station.Tied.turn` — a turn keeps them tied, and the failures that cannot happen.
-/

namespace TriggeredSampler

namespace Bond

/-- No restraint. -/
def free : Bond := fun _ _ => True

theorem stable_free : free.Stable := ⟨fun _ _ => trivial, fun _ _ _ => trivial⟩

end Bond

namespace Station

variable {h : Handle} {bond : Bond} {pending : List Report} {st : Station Scene} {n : Node}
  {refusal : Option String}

/-! ## Requests to an inactive sampler -/

/-- If nothing is raised before the answer, the session stays as it is. -/
theorem line_of_silent (handle : st.session.handle = h) {r : Request}
    (silent : (st.device.announce h r).1 = []) (node : (st.device.announce h r).2.node? h = some n) :
    ∃ scene, line (Scene.device refusal) r st = ((n.answer r refusal).1, ⟨st.session, scene⟩) ∧
      scene.node? h = some (n.answer r refusal).2 := by
  subst handle
  obtain ⟨answer, after⟩ := Scene.answer_eq node r refusal
  refine ⟨_, ?_, after⟩
  unfold line
  simp only [Scene.device, silent, List.foldl_nil]
  exact Prod.ext answer rfl

/-- An inactive sampler raises nothing, and the session stays as it is. -/
theorem line_idle (handle : st.session.handle = h) (node : st.device.node? h = some n)
    (sound : n.Sound st.session.tracked) (idle : n.status.phase.isActive = false) {r : Request}
    (other : r ≠ .stop) :
    ∃ n' scene, line (Scene.device refusal) r st = ((n'.answer r refusal).1, ⟨st.session, scene⟩) ∧
      scene.node? h = some (n'.answer r refusal).2 ∧ n.Drifts st.session.tracked n' [] := by
  obtain ⟨n', node', drifts⟩ := Scene.announce_drifts sound node other
  have nothing := (drifts.idle idle).2
  rw [nothing] at drifts
  obtain ⟨scene, answered, after⟩ := line_of_silent handle nothing node'
  exact ⟨n', scene, answered, after, drifts⟩

namespace Tied

theorem join (stable : bond.Stable) (tied : st.Tied h bond.ended pending) :
    (st.join Scene.device).Tied h bond.ended pending ∧
      (st.join Scene.device).session.delivery = none := by
  obtain ⟨_, _, tied'⟩ := tied.device
  have heard : (st.drainAll Scene.device).Tied h bond.ended pending := tied.drain stable.ended _
  obtain ⟨_, _, tied''⟩ := heard.device
  rw [join_eq Scene.device tied'.sound tied'.bonds.2]
  exact ⟨heard.close stable.ended, delivery_close Scene.device tied''.sound tied''.bonds.2⟩

/-! ## Configuring -/

/-- A session that is not active stores a valid configuration on its device, which accepts what the session
has validated, and adopts it. -/
theorem configure_of_idle (tied : st.Tied h .resting []) {c : Configuration} (valid : c.validate = .ok ())
    (idle : st.session.phase.isActive = false) :
    ∃ s scene m n, st.configure Scene.device c = (.ok (), adopt c .configured ⟨s, scene⟩) ∧ s.handle = h ∧
      s.delivery = none ∧ s.Tied Bond.resting.ended [] m ∧ scene.node? h = some n ∧ n.Sound c.tracked.length ∧
      n.status = ⟨.configured, none, []⟩ ∧ n.record = some c.encode := by
  unfold Station.configure
  simp only [valid]
  rw [if_neg (by simp [idle])]
  obtain ⟨joined, closed⟩ := (tied.ends idle).join Bond.stable_resting
  generalize st.join Scene.device = st at joined closed ⊢
  obtain ⟨handle, n, node, tied⟩ := joined
  have inactive := tied.bonds.1 tied.bonds.2
  obtain ⟨n', scene, answered, node', drifts⟩ :=
    line_idle handle node tied.node inactive (r := .configure c) (by simp)
  obtain ⟨n'', stores, sound, status, stored⟩ :=
    Node.configure_eq_ok drifts.sound (drifts.idle inactive).1 valid
  rw [show n'.answer (.configure c) = (.ok (), n'') from stores] at answered node'
  rw [answered]
  simp only [Lifecycle.configure_of_idle tied.bonds.2]
  exact ⟨st.session, scene, n, n'', rfl, handle, closed, tied, node', sound, status, stored⟩

/-- The device never refuses a configuration. -/
theorem configure (tied : st.Tied h .resting []) (c : Configuration) :
    Yields (Tied h .resting []) (fun f => f.isBreach = false ∧ ∀ fault, f ≠ .device fault)
      (st.configure Scene.device c) := by
  cases valid : c.validate with
  | error defect =>
    rw [Station.configure, valid]
    exact .error tied ⟨rfl, by simp⟩
  | ok _ =>
    by_cases active : st.session.phase.isActive = true
    · rw [Station.configure, valid]
      simp only [active, if_true]
      exact .error tied ⟨rfl, by simp⟩
    · obtain ⟨s, scene, m, n, configured, handle, closed, tied, node, sound, status, stored⟩ :=
        tied.configure_of_idle valid (by simpa using active)
      have phase : n.status.phase = .configured := by rw [status]
      rw [configured]
      refine .ok ⟨handle, n, node, sound, ⟨rfl, ?_, tied.sound.stalled⟩, ?_, fun _ => phase, fun _ =>
        ⟨c, stored, (Configuration.validate_eq_ok_iff.1 valid).2.2.1, rfl⟩, ?_, ?_, ?_, tied.notes⟩
      · simp [adopt, closed]
      · simp [adopt, Session.waiting, closed]
      · intro active
        cases active
      · intro _
        rw [phase]
        rfl
      · simp [adopt, Lifecycle.cause]

/-! ## Starting -/

theorem writeTrigger (stable : bond.Stable) (tied : st.Tied h bond pending) (trigger : Trigger)
    (offset : Int) : (st.writeTrigger Scene.device trigger offset).2.Tied h bond pending := by
  unfold Station.writeTrigger
  split
  next =>
    obtain ⟨n, served⟩ := (faithful_line h).serves stable tied
      (r := .write trigger.address (trigger.value.toNat + offset) st.session.options.triggerBits) rfl
    exact ⟨served.handle, _, served.node, served.tied⟩
  next => exact tied

theorem writeTrigger_idle (tied : st.Tied h bond.stopped pending) (stable : bond.Stable)
    (trigger : Trigger) (offset : Int) (refusal : Option String) :
    ∃ result scene, st.writeTrigger (Scene.device refusal) trigger offset =
      (result, ⟨st.session, scene⟩) ∧ Tied h bond.stopped pending ⟨st.session, scene⟩ := by
  unfold Station.writeTrigger
  split
  next =>
    obtain ⟨handle, n, node, tied⟩ := tied
    obtain ⟨n', scene, answered, node', drifts⟩ := line_idle handle node tied.node tied.bonds.2
      (r := .write trigger.address (trigger.value.toNat + offset) st.session.options.triggerBits)
      (by simp)
    have after := drifts.trans (Node.answer_drifts drifts.sound (r := .write trigger.address
      (trigger.value.toNat + offset) st.session.options.triggerBits) rfl)
    exact ⟨_, scene, answered, handle, _, node', tied.drifts stable.stopped after⟩
  next => exact ⟨_, _, rfl, tied⟩

theorem activate (tied : st.Tied h .resting []) (trigger : Trigger) :
    Yields (Tied h .resting []) (fun f => f.isBreach = false) (st.activate Scene.device trigger) := by
  unfold Station.activate
  have written := tied.writeTrigger Bond.stable_resting trigger 1
  generalize st.writeTrigger Scene.device trigger 1 = outcome at written ⊢
  obtain ⟨result, st'⟩ := outcome
  cases result with
  | error fault =>
    obtain ⟨handle, n, node, tied'⟩ := written
    -- the session is over before its device is stopped
    have failed : (st'.fail (.device fault)).Tied h Bond.free.ended [] :=
      ⟨handle, n, node, tied'.fail rfl fun p ended => ⟨trivial, Phase.isActive_of_isTerminal ended⟩⟩
    obtain ⟨halted, answer, stopped⟩ := (faithful_line h).stops Bond.stable_free.ended failed
      (Phase.begun_of_isTerminal (Lifecycle.isTerminal_fail _ _))
    have quit : halted.Tied h (Bond.free.stopped).ended [] :=
      stopped.rebond fun bonds => ⟨⟨trivial, bonds.2⟩, bonds.1.2⟩
    obtain ⟨joined, _⟩ := quit.join Bond.stable_free.stopped
    simp only [answer]
    exact .error (joined.rebond fun bonds _ => bonds.1.2) rfl
  | ok _ => exact .ok written

/-- How far a start gets at a prepared sampler, which drifts meanwhile: the session is ahead of it while it
is asked, and fails with it if it refuses. -/
theorem launch_cases (tied : st.Tied h .resting []) (configured : st.session.lifecycle = .configured)
    (refusal : Option String) (trigger : Trigger) (handler : Option (List Reaction)) (tag : Int) :
    ∃ n scene, n.Prepared st.session.tracked ∧ st.session.Tied .resting [] n ∧
      scene.node? h = some (n.start handler.isSome tag refusal).2 ∧
      (st.openDelivery handler tag).launch (Scene.device refusal) trigger handler tag =
        match (n.start handler.isSome tag refusal).1 with
        | .error fault => (.error (.device fault), ⟨st.session.refused handler fault, scene⟩)
        | .ok _ => Station.activate (Scene.device refusal) trigger ⟨st.session.armed handler tag, scene⟩ := by
  obtain ⟨handle, n, node, tied⟩ := tied
  have phase : st.session.phase = .configured := congrArg Lifecycle.phase configured
  have idle : n.status.phase.isActive = false := by
    rw [tied.agrees (by rw [phase]; rfl), phase]
    rfl
  obtain ⟨c, stored, fits, width⟩ := tied.stored phase
  obtain ⟨n', scene, answered, node', drifts⟩ :=
    @line_idle h ⟨st.session.armed handler tag, st.device⟩ n refusal handle node tied.node idle
      (.start handler.isSome tag) (by simp)
  have drifts : n.Drifts st.session.tracked n' [] := drifts
  refine ⟨n', scene, ⟨drifts.sound, (drifts.idle idle).1, c, drifts.record.trans stored, fits, width⟩,
    tied.drifts Bond.stable_resting drifts, node', ?_⟩
  unfold Station.launch openDelivery
  simp only [configured, Lifecycle.arm]
  unfold Session.armed at answered
  rw [answered]
  have asked : n'.answer (.start handler.isSome tag) refusal = n'.start handler.isSome tag refusal := rfl
  rw [asked]
  cases (n'.start handler.isSome tag refusal).1 with
  | error fault =>
    simp only
    rw [join_dismiss_of_dropped _ rfl]
    rfl
  | ok _ => rfl

/-- A configured session starts its device, or fails with it. -/
theorem launch (tied : st.Tied h .resting []) (configured : st.session.lifecycle = .configured)
    (trigger : Trigger) (handler : Option (List Reaction)) (tag : Int) :
    Yields (Tied h .resting []) (fun f => f.isBreach = false)
      ((st.openDelivery handler tag).launch Scene.device trigger handler tag) := by
  obtain ⟨n, scene, prepared, tied', node, launched⟩ :=
    tied.launch_cases configured none trigger handler tag
  rw [launched]
  rcases Node.start_starts prepared handler.isSome tag
    with ⟨fault, n', refused, drifts⟩ | ⟨n', started, sound', ready⟩
  · rw [refused] at node ⊢
    exact .error ⟨tied.handle, n', node, (tied'.drifts Bond.stable_resting drifts).refused handler fault
      (drifts.idle prepared.idle).1⟩ rfl
  · rw [started] at node ⊢
    have running : Tied h .resting [] ⟨st.session.armed handler tag, scene⟩ :=
      ⟨tied.handle, n', node, tied'.started handler tag sound' ready⟩
    exact running.activate trigger

/-- A start ends before the device is asked, or it launches a configured session. -/
theorem start_launches (tied : st.Tied h .resting []) (handler : Option (List Reaction)) (tag : Int)
    (thread refusal : Option String) :
    Yields (Tied h .resting []) (fun f => f.isBreach = false)
        (st.start (Scene.device refusal) handler tag thread) ∨
      ∃ trigger scene, Tied h .resting [] ⟨st.session, scene⟩ ∧ st.session.lifecycle = .configured ∧
        st.start (Scene.device refusal) handler tag thread =
          (openDelivery handler tag ⟨st.session, scene⟩).launch (Scene.device refusal) trigger handler tag := by
  unfold Station.start
  cases startable : st.startTrigger with
  | error m => exact .inl (.error tied rfl)
  | ok trigger =>
    have configured := lifecycle_of_startTrigger startable
    have phase : st.session.phase = .configured := congrArg Lifecycle.phase configured
    have resting : st.Tied h Bond.resting.stopped [] := by
      obtain ⟨handle, n, node, tied⟩ := tied
      exact ⟨handle, n, node, tied.rebond ⟨tied.bonds, tied.idle_of_not_begun (by rw [phase]; rfl)⟩⟩
    obtain ⟨result, scene, written, after⟩ :=
      resting.writeTrigger_idle Bond.stable_resting trigger 0 refusal
    simp only [written]
    cases result with
    | error fault =>
      obtain ⟨handle, n, node, tied⟩ := after
      exact .inl (.error ⟨handle, n, node, tied.fail rfl fun _ _ _ => tied.bonds.2⟩ rfl)
    | ok _ =>
      obtain ⟨n, _, tied'⟩ := after.device
      -- before its first start, and between two runs, a session has no delivery to wait for
      have closed := tied'.sound.delivery_of_configured phase
      have joined : Station.join (Scene.device refusal) ⟨st.session, scene⟩ = ⟨st.session, scene⟩ :=
        join_of_closed _ closed
      simp only [joined]
      split
      next => exact .inl (.error (after.rebond And.left) rfl)
      next => exact .inr ⟨trigger, scene, after.rebond And.left, configured, rfl⟩

theorem start (tied : st.Tied h .resting []) (handler : Option (List Reaction)) (tag : Int)
    (thread : Option String) :
    Yields (Tied h .resting []) (fun f => f.isBreach = false)
      (st.start Scene.device handler tag thread) := by
  obtain ended | ⟨trigger, scene, tied', configured, launches⟩ :=
    tied.start_launches handler tag thread none
  · exact ended
  · rw [launches]
    exact tied'.launch configured trigger handler tag

/-- A start whose worker gets no thread fails. If the device got as far as to ask for the thread, it is
left without a worker. -/
theorem start_refused (tied : st.Tied h .resting []) (handler : Option (List Reaction)) (tag : Int)
    (reason : String) :
    Yields (Tied h .resting []) (fun f => f.isBreach = false)
        (st.start (Scene.device (some reason)) handler tag none) ∨
      ∃ scene n, st.start (Scene.device (some reason)) handler tag none =
          (.error (.device (.ofRefusal reason)), ⟨st.session.refused handler (.ofRefusal reason), scene⟩) ∧
        scene.node? h = some n ∧ n.Unmanned := by
  obtain ended | ⟨trigger, scene, tied', configured, launches⟩ :=
    tied.start_launches handler tag none (some reason)
  · exact .inl ended
  · obtain ⟨n, scene, prepared, tied'', node, launched⟩ :=
      tied'.launch_cases configured (some reason) trigger handler tag
    rw [launches, launched]
    rcases Node.start_refused prepared handler.isSome tag reason
      with ⟨fault, n', refused, drifts⟩ | ⟨n', refused, unmanned⟩
    · rw [refused] at node ⊢
      exact .inl (.error ⟨tied'.handle, n', node, (tied''.drifts Bond.stable_resting drifts).refused handler
        fault (drifts.idle prepared.idle).1⟩ rfl)
    · rw [refused] at node ⊢
      exact .inr ⟨scene, n', rfl, node, unmanned⟩

/-! ## Passing time -/

theorem foldl_overhear (stable : bond.Stable) {raised : List (Handle × Report)}
    (tied : st.Tied h bond (reportsOf h raised ++ pending)) :
    (raised.foldl (overhear Scene.device) st).Tied h bond pending := by
  -- by induction on the reports, of which the session only receives its own
  induction raised generalizing st with
  | nil => exact tied
  | cons entry rest ih =>
    obtain ⟨own, report⟩ := entry
    by_cases same : own = h
    · subst same
      rw [reportsOf_cons_self] at tied
      have heard : overhear Scene.device st (own, report) = st.receive Scene.device report := by
        rw [overhear, if_pos tied.handle.symm]
      rw [List.foldl_cons, heard]
      exact ih (receive stable tied)
    · rw [reportsOf_cons_of_ne same] at tied
      have ignored : overhear Scene.device st (own, report) = st := by
        rw [overhear, if_neg (by rw [tied.handle]; exact same)]
      rw [List.foldl_cons, ignored]
      exact ih tied

theorem pass (stable : bond.Stable) (tied : st.Tied h bond pending) :
    (st.pass Scene.device).Tied h bond pending := by
  obtain ⟨handle, n, node, tied⟩ := tied
  obtain ⟨n', node', drifts⟩ := Scene.advance_drifts tied.node node
  exact foldl_overhear stable ⟨handle, n', node', tied.drifts stable drifts⟩

/-! ## The other operations -/

theorem number (tied : st.Tied h bond pending) {data : List Batch}
    (whole : st.session.checkData data = .ok ()) :
    ({ st with session := (st.session.number data).2 }).Tied h bond pending ∧
      ∃ rows, (st.session.number data).1 = .ok rows := by
  obtain ⟨handle, n, node, tied⟩ := tied
  refine ⟨⟨handle, n, node, tied.reshape rfl rfl (st.session.numbering.tracked_number data) rfl
    (fun delivers => ⟨delivers, rfl⟩) (fun _ member => member) fun _ member => .inl member⟩, ?_⟩
  apply Numbering.number_of_whole
  rw [tied.sound.numbering]
  exact Session.checkData_eq_ok_iff.1 whole

theorem deviceConfiguration (stable : bond.Stable) (tied : st.Tied h bond pending) :
    Yields (Tied h bond pending) (fun f => f.isBreach = false)
      (st.deviceConfiguration Scene.device) := by
  unfold Station.deviceConfiguration
  obtain ⟨n, served⟩ := (faithful_line h).serves stable tied (r := .configuration) rfl
  generalize line Scene.device .configuration st = outcome at served ⊢
  obtain ⟨result, st'⟩ := outcome
  cases result with
  | error fault => exact .error ⟨served.handle, _, served.node, served.tied⟩ rfl
  | ok c => exact .ok ⟨served.handle, _, served.node, served.tied⟩

theorem drop (stable : bond.Stable) (tied : st.Tied h bond pending) :
    (st.drop Scene.device).Tied h bond pending := by
  unfold Station.drop
  split
  next => exact ((tied.release (faithful_line h) stable).join stable).1.rebond And.left
  next => exact tied

end Tied

/-- Every operation keeps session and device tied, and none ends in a breach. -/
theorem upholds_tied (h : Handle) :
    Upholds Scene.device (Tied h .resting []) fun f => f.isBreach = false where
  misuse _ := rfl
  timeout _ := rfl
  configure c st tied _ :=
    have configured := tied.configure c
    ⟨configured.holds, fun f failed => (configured.allowed f failed).1⟩
  start handler tag refusal st tied _ := tied.start handler tag refusal
  halt st tied := by
    obtain ⟨st', stopped, tied'⟩ := tied.stop (faithful_line h) Bond.stable_resting
    rw [halt, stopped]
    exact .ok (tied'.rebond And.left)
  refresh st tied := by
    obtain ⟨phase, st', refreshed, tied'⟩ := tied.refresh (faithful_line h) Bond.stable_resting
    rw [refreshed]
    exact .ok tied'
  poll st tied := tied.poll (faithful_line h) Bond.stable_resting
  number data st tied whole := tied.number whole
  readBack st tied := tied.deviceConfiguration Bond.stable_resting
  drop st tied _ := tied.drop Bond.stable_resting
  close st tied := tied.close Bond.stable_resting
  pass st tied := tied.pass Bond.stable_resting

end Station

/-! ## Turns -/

/-- Something that happens to a session and its device. -/
inductive Turn where
  /-- A command of the owner, unless the session was dropped. -/
  | perform (command : Command)
  /-- A stop through a handle, which works on a dropped session as well. -/
  | halt
  | pass (milliseconds : Nat)
  /-- Something happens to the devices. -/
  | befall (incidents : List Incident)
  /-- An idle delivery notices that the session is over. -/
  | close

/-- What a turn may fail with: no breach, and the device refuses a configuration only as `refusals` say. -/
structure Turn.Admits (refusals : List DeviceFault) (turn : Turn) (f : Failure) : Prop where
  clean : f.isBreach = false
  configured : ∀ c fault, turn = .perform (.configure c) → f = .device fault → fault ∈ refusals

namespace Station

/-- Incidents between the operations, with the reports that they raise. -/
def befall (incidents : List Incident) (st : Station Scene) : Station Scene :=
  let (raised, s) := Incident.occurAll incidents st.device.simulation
  raised.foldl (overhear Scene.device) { st with device := { st.device with simulation := s } }

/-- A turn, and what it failed with. -/
def turn (turn : Turn) (st : Station Scene) : Option Failure × Station Scene :=
  match turn with
  | .perform command =>
    if st.session.live then (st.perform Scene.device command).map Reply.failure? id else (none, st)
  | .halt => (st.halt Scene.device).map (fun result => (Reply.finished result).failure?) id
  | .pass milliseconds => (none, st.elapse Scene.device milliseconds)
  | .befall incidents => (none, st.befall incidents)
  | .close => (none, st.close Scene.device)

variable {h : Handle} {st : Station Scene}

theorem Tied.befall {bond : Bond} {pending : List Report} (stable : bond.Stable)
    (tied : st.Tied h bond pending) (incidents : List Incident) :
    (st.befall incidents).Tied h bond pending := by
  obtain ⟨handle, n, node, tied⟩ := tied
  obtain ⟨n', node', drifts⟩ := Incident.occurAll_drifts tied.node node incidents
  exact foldl_overhear stable ⟨handle, n', node', tied.drifts stable drifts⟩

/-- What the operations uphold and no incident breaks holds behind a turn. -/
theorem Upholds.turn {P : Station Scene → Prop} {Q : Failure → Prop} (upholds : Upholds Scene.device P Q)
    (befalls : ∀ st incidents, P st → P (Station.befall incidents st)) (holds : P st) (turn : Turn) :
    P (st.turn turn).2 ∧ ∀ f ∈ (st.turn turn).1, Q f := by
  cases turn with
  | perform command =>
    simp only [Station.turn]
    split
    next live => exact upholds.perform holds live command
    next => exact ⟨holds, by simp⟩
  | halt => exact ⟨(upholds.halt st holds).holds, (upholds.halt st holds).finished⟩
  | pass milliseconds => exact ⟨upholds.elapse holds milliseconds, by simp [Station.turn]⟩
  | befall incidents => exact ⟨befalls st incidents holds, by simp [Station.turn]⟩
  | close => exact ⟨upholds.close st holds, by simp [Station.turn]⟩

/-- A turn that configures fails as the configuration does. -/
theorem configure_of_turn {Q : Failure → Prop} {P : Station Scene → Prop} {c : Configuration}
    (configured : Yields P Q (st.configure Scene.device c)) :
    ∀ f ∈ (st.turn (.perform (.configure c))).1, Q f := by
  simp only [turn]
  split
  next => exact configured.finished
  next => simp

theorem Tied.turn (tied : st.Tied h .resting []) (turn : Turn) :
    (st.turn turn).2.Tied h .resting [] ∧ ∀ f ∈ (st.turn turn).1, turn.Admits [] f := by
  obtain ⟨tied', clean⟩ :=
    (upholds_tied h).turn (fun _ incidents tied => tied.befall Bond.stable_resting incidents) tied turn
  refine ⟨tied', fun f failed => ⟨clean f failed, ?_⟩⟩
  rintro c fault rfl refused
  exact absurd refused ((configure_of_turn (tied.configure c) f failed).2 fault)

end Station

end TriggeredSampler
