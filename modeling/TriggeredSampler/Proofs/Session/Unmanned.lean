import TriggeredSampler.Proofs.Session.Coupling

/-! # A start whose worker gets no thread

The device of a session makes its sampler ready before it asks for the thread of its worker. If there is
none the session fails, but its device stays ready, with nothing that runs it: both are `Unmanned`. As the
session is over it never stops its device again, and a configuration finds the device busy.

* `Station.upholds_unmanned` — no operation leads out of this.
* `Station.coupled_of_rounds` — the coupling of a session with its device, whether threads are created or not.
-/

namespace TriggeredSampler

namespace Station

/-- The session failed because the worker of its device got no thread, and the device was left without. -/
structure Unmanned (h : Handle) (reason : String) (st : Station Scene) : Prop where
  handle : st.session.handle = h
  lifecycle : st.session.lifecycle = .failed (.device (.ofRefusal reason))
  delivery : st.session.delivery = none
  numbering : st.session.numbering.tracked = st.session.tracked
  notes : ∀ note ∈ st.session.notes, note.Clean
  device : ∃ n, st.device.node? h = some n ∧ n.Unmanned

variable {h : Handle} {reason : String} {st : Station Scene}

/-- A start whose worker gets no thread leaves session and device tied, or it leaves both unmanned. -/
theorem Tied.unmanned (tied : st.Tied h .resting []) (handler : Option (List Reaction)) (tag : Int)
    (reason : String) :
    Yields (Tied h .resting []) (fun f => f.isBreach = false)
        (st.start (Scene.device (some reason)) handler tag none) ∨
      ∃ st', st.start (Scene.device (some reason)) handler tag none =
          (.error (.device (.ofRefusal reason)), st') ∧ st'.Unmanned h reason := by
  obtain ended | ⟨scene, n, refused, node, unmanned⟩ := tied.start_refused handler tag reason
  · exact .inl ended
  · obtain ⟨_, _, tied'⟩ := tied.device
    exact .inr ⟨_, refused, tied.handle, rfl, rfl, tied'.sound.numbering, tied'.notes, n, node, unmanned⟩

namespace Unmanned

theorem phase (unmanned : st.Unmanned h reason) : st.session.phase = .failed :=
  congrArg Lifecycle.phase unmanned.lifecycle

theorem isTerminal (unmanned : st.Unmanned h reason) : st.session.phase.isTerminal = true := by
  rw [unmanned.phase]
  rfl

theorem idle (unmanned : st.Unmanned h reason) : st.session.phase.isActive = false :=
  Phase.isActive_of_isTerminal unmanned.isTerminal

theorem failure (unmanned : st.Unmanned h reason) : ∀ f ∈ st.session.failure, f.isBreach = false := by
  intro f shown
  rw [Session.failure, unmanned.lifecycle] at shown
  obtain rfl : Failure.device (.ofRefusal reason) = f := by simpa [Lifecycle.cause] using shown
  rfl

/-- The session is over, and no other failure takes the place of the first. -/
theorem fail (unmanned : st.Unmanned h reason) (f : Failure) : st.fail f = st := by
  unfold Station.fail Session.fail
  rw [Lifecycle.fail_of_isTerminal unmanned.isTerminal]

/-- Requests other than a stop are answered, and leave the device without a worker. -/
theorem line (unmanned : st.Unmanned h reason) {r : Request} (other : r ≠ .stop) :
    ∃ (n : Node) (scene : Scene), n.Unmanned ∧
      Station.line Scene.device r st = ((n.answer r).1, ⟨st.session, scene⟩) ∧
      Unmanned h reason ⟨st.session, scene⟩ := by
  obtain ⟨n, node, alone⟩ := unmanned.device
  obtain ⟨n', node', becomes⟩ := Scene.announce_unasked Node.unasked_unmanned node other
  obtain ⟨alone', silent⟩ := becomes alone
  obtain ⟨scene, answered, after⟩ := line_of_silent unmanned.handle silent node'
  exact ⟨n', scene, alone', answered, unmanned.handle, unmanned.lifecycle, unmanned.delivery,
    unmanned.numbering, unmanned.notes, _, after, alone'.answer r none⟩

/-! ## The operations -/

/-- The device is busy for ever, so no configuration is accepted any more. -/
theorem configure (unmanned : st.Unmanned h reason) (c : Configuration) :
    Yields (Unmanned h reason)
      (fun f => (∃ defect, f = .configuration defect) ∨ f = .device Node.busy)
      (st.configure Scene.device c) := by
  unfold Station.configure
  cases valid : c.validate with
  | error defect => exact .error unmanned (.inl ⟨defect, rfl⟩)
  | ok _ =>
    simp only [unmanned.idle, Bool.false_eq_true, if_false, join_of_closed _ unmanned.delivery]
    obtain ⟨n, scene, alone, answered, unmanned'⟩ := unmanned.line (r := .configure c) (by simp)
    rw [show n.answer (.configure c) = _ from alone.configure valid] at answered
    rw [answered]
    simp only [unmanned'.fail]
    exact .error unmanned' (.inr rfl)

theorem refresh (unmanned : st.Unmanned h reason) :
    ∃ scene, st.refresh (Station.line Scene.device) = (.ok .failed, ⟨st.session, scene⟩) ∧
      Unmanned h reason ⟨st.session, scene⟩ := by
  obtain ⟨n, scene, alone, answered, unmanned'⟩ := unmanned.line (r := .phase) (by simp)
  have ready : n.status.phase = .ready := by rw [alone.status]
  rw [show n.answer .phase = (.ok .ready, n) by rw [← ready]; rfl] at answered
  have stays : st.session.follow .ready none = st.session :=
    Session.follow_idle unmanned.idle (by rw [unmanned.phase]; rintro ⟨⟩) none
  unfold Station.refresh
  simp only [answered, faultBehind, reduceCtorEq, if_false, stays, unmanned.phase]
  exact ⟨scene, rfl, unmanned'⟩

theorem poll (unmanned : st.Unmanned h reason) :
    Yields (Unmanned h reason) (fun f => f.isBreach = false) (st.poll (Station.line Scene.device)) := by
  unfold Station.poll
  split
  next => exact .error unmanned rfl
  next =>
    split
    next => exact .error unmanned rfl
    next =>
      obtain ⟨scene, refreshed, unmanned'⟩ := unmanned.refresh
      obtain ⟨n, scene', alone, answered, unmanned''⟩ := unmanned'.line (r := .data) (by simp)
      simp only [refreshed, fetch, answered, Node.answer, alone.status, Session.checkData]
      exact .ok unmanned''

theorem drop (unmanned : st.Unmanned h reason) : (st.drop Scene.device).Unmanned h reason := by
  have given : Unmanned h reason { st with session := { st.session with live := false } } :=
    ⟨unmanned.handle, unmanned.lifecycle, unmanned.delivery, unmanned.numbering, unmanned.notes,
      unmanned.device⟩
  unfold Station.drop
  split
  next =>
    simp only [release, given.idle, Bool.false_eq_true, if_false]
    rw [join_of_closed _ given.delivery]
    exact given
  next => exact unmanned

/-- What the device raises by itself is nothing. -/
theorem overhear (unmanned : st.Unmanned h reason) {raised : List (Handle × Report)} {scene : Scene}
    {n : Node} (node : scene.node? h = some n) (becomes : n.Unmanned ∧ reportsOf h raised = []) :
    (raised.foldl (Station.overhear Scene.device) { st with device := scene }).Unmanned h reason := by
  obtain ⟨alone, silent⟩ := becomes
  rw [foldl_overhear_of_nil _ (by rw [unmanned.handle]; exact silent)]
  exact ⟨unmanned.handle, unmanned.lifecycle, unmanned.delivery, unmanned.numbering, unmanned.notes, n, node,
    alone⟩

theorem pass (unmanned : st.Unmanned h reason) : (st.pass Scene.device).Unmanned h reason := by
  obtain ⟨n, node, alone⟩ := unmanned.device
  obtain ⟨n', node', becomes⟩ := Scene.advance_unasked Node.unasked_unmanned node
  exact unmanned.overhear node' (becomes alone)

theorem befall (unmanned : st.Unmanned h reason) (incidents : List Incident) :
    (st.befall incidents).Unmanned h reason := by
  obtain ⟨n, node, alone⟩ := unmanned.device
  obtain ⟨n', node', becomes⟩ := Incident.occurAll_unasked Node.unasked_unmanned node incidents
  exact unmanned.overhear node' (becomes alone)

end Unmanned

/-- A start finds the session failed, whoever provides the threads. -/
theorem Unmanned.start {dev : Device Scene} (unmanned : st.Unmanned h reason)
    (handler : Option (List Reaction)) (tag : Int) (refusal : Option String) :
    st.start dev handler tag refusal = (.error (.misuse .notConfigured), st) := by
  have refused : st.startTrigger = .error .notConfigured := by
    unfold startTrigger
    rw [unmanned.phase]
  unfold Station.start
  rw [refused]

/-- No operation leads out of the state, and none ends in a breach. -/
theorem upholds_unmanned (h : Handle) (reason : String) :
    Upholds Scene.device (Unmanned h reason) fun f => f.isBreach = false where
  misuse _ := rfl
  timeout _ := rfl
  configure c st unmanned _ := by
    have configured := unmanned.configure c
    refine ⟨configured.holds, fun f failed => ?_⟩
    obtain ⟨_, rfl⟩ | rfl := configured.allowed f failed <;> rfl
  start handler tag refusal st unmanned _ := by
    rw [unmanned.start]
    exact .error unmanned rfl
  halt st unmanned := by
    rw [halt, Station.stop, if_pos unmanned.isTerminal]
    exact .ok unmanned
  refresh st unmanned := by
    obtain ⟨scene, refreshed, unmanned'⟩ := unmanned.refresh
    rw [refreshed]
    exact .ok unmanned'
  poll st unmanned := unmanned.poll
  number data st unmanned whole := by
    refine ⟨⟨unmanned.handle, unmanned.lifecycle, unmanned.delivery,
      (st.session.numbering.tracked_number data).trans unmanned.numbering, unmanned.notes,
      unmanned.device⟩, ?_⟩
    apply Numbering.number_of_whole
    rw [unmanned.numbering]
    exact Session.checkData_eq_ok_iff.1 whole
  readBack st unmanned := by
    obtain ⟨n, scene, _, answered, unmanned'⟩ := unmanned.line (r := .configuration) (by simp)
    unfold Station.deviceConfiguration
    rw [answered]
    cases (n.answer .configuration).1 with
    | error fault => exact .error unmanned' rfl
    | ok c => exact .ok unmanned'
  drop st unmanned _ := unmanned.drop
  close st unmanned := by
    rw [close_of_closed _ unmanned.delivery]
    exact unmanned
  pass st unmanned := unmanned.pass

end Station

/-! ## Rounds -/

/-- A turn of a session and its device, in which a worker gets its thread, or a start of the owner whose
worker gets none. -/
inductive Round where
  | turn (turn : Turn)
  | unmanned (handler : Option (List Reaction)) (tag : Int) (reason : String)

/-- What a round may fail with: no breach, and the device refuses a configuration only as `refusals` say. -/
def Round.Admits (refusals : List DeviceFault) : Round → Failure → Prop
  | .turn during, f => during.Admits refusals f
  | .unmanned .., f => f.isBreach = false

namespace Round.Admits

variable {refusals more : List DeviceFault} {round : Round} {f : Failure}

theorem clean (admits : round.Admits refusals f) : f.isBreach = false := by
  cases round with
  | turn turn => exact Turn.Admits.clean admits
  | unmanned => exact admits

theorem mono (admits : round.Admits refusals f) (all : refusals ⊆ more) : round.Admits more f := by
  cases round with
  | turn turn =>
    exact ⟨Turn.Admits.clean admits, fun c fault same failed =>
      all (Turn.Admits.configured admits c fault same failed)⟩
  | unmanned => exact admits

end Round.Admits

namespace Station

/-- A round, and what it failed with. -/
def round (round : Round) (st : Station Scene) : Option Failure × Station Scene :=
  match round with
  | .turn turn => st.turn turn
  | .unmanned handler tag reason =>
    if st.session.live then
      (st.start (Scene.device (some reason)) handler tag none).map (fun result => (Reply.finished result).failure?)
        id
    else (none, st)

/-- Several rounds, and those that failed. -/
def rounds : List Round → Station Scene → List (Round × Failure) × Station Scene
  | [], st => ([], st)
  | first :: rest, st =>
    let (failure, st) := st.round first
    let (failures, st) := rounds rest st
    ((failure.map (Prod.mk first)).toList ++ failures, st)

variable {h : Handle} {reason : String} {st : Station Scene}

theorem mem_rounds_cons {first : Round} {rest : List Round} {entry : Round × Failure} :
    entry ∈ (st.rounds (first :: rest)).1 ↔
      (∃ f ∈ (st.round first).1, (first, f) = entry) ∨ entry ∈ ((st.round first).2.rounds rest).1 := by
  simp only [rounds, List.mem_append, Option.mem_toList, Option.map_eq_some_iff, Option.mem_def]

theorem forall_mem_rounds_cons {first : Round} {rest : List Round} {Q : Round × Failure → Prop}
    (now : ∀ f ∈ (st.round first).1, Q (first, f))
    (later : ∀ entry ∈ ((st.round first).2.rounds rest).1, Q entry) :
    ∀ entry ∈ (st.rounds (first :: rest)).1, Q entry := by
  intro entry member
  obtain ⟨f, failed, rfl⟩ | behind := mem_rounds_cons.1 member
  · exact now f failed
  · exact later entry behind

/-- What was left without a worker stays so, and refuses every configuration as busy. -/
theorem Unmanned.round (unmanned : st.Unmanned h reason) (round : Round) :
    (st.round round).2.Unmanned h reason ∧ ∀ f ∈ (st.round round).1, round.Admits [Node.busy] f := by
  cases round with
  | turn turn =>
    obtain ⟨unmanned', clean⟩ :=
      (upholds_unmanned h reason).turn (fun _ incidents unmanned => unmanned.befall incidents) unmanned turn
    refine ⟨unmanned', fun f failed => ⟨clean f failed, ?_⟩⟩
    rintro c fault rfl refused
    obtain ⟨_, other⟩ | busy := configure_of_turn (unmanned.configure c) f failed
    · cases refused.symm.trans other
    · cases refused.symm.trans busy
      exact List.mem_singleton_self _
  | unmanned handler tag reason =>
    simp only [Station.round]
    split
    next =>
      rw [unmanned.start]
      refine ⟨unmanned, fun f failed => ?_⟩
      obtain rfl : Failure.misuse .notConfigured = f := by simpa [Reply.failure?] using failed
      rfl
    next => exact ⟨unmanned, by simp⟩

theorem Unmanned.rounds (unmanned : st.Unmanned h reason) (plan : List Round) :
    (st.rounds plan).2.Unmanned h reason ∧
      ∀ entry ∈ (st.rounds plan).1, entry.1.Admits [Node.busy] entry.2 := by
  -- by induction on the rounds
  induction plan generalizing st with
  | nil => exact ⟨unmanned, by simp [Station.rounds]⟩
  | cons first rest ih =>
    obtain ⟨unmanned', admits⟩ := unmanned.round first
    obtain ⟨unmanned'', others⟩ := ih unmanned'
    exact ⟨unmanned'', forall_mem_rounds_cons admits others⟩

/-- A round keeps session and device tied, or a start finds no thread for its worker. -/
theorem Tied.round (tied : st.Tied h .resting []) (round : Round) :
    ((st.round round).2.Tied h .resting [] ∧ ∀ f ∈ (st.round round).1, round.Admits [] f) ∨
      ∃ handler tag reason, round = .unmanned handler tag reason ∧
        (st.round round).1 = some (.device (.ofRefusal reason)) ∧ (st.round round).2.Unmanned h reason := by
  cases round with
  | turn turn => exact .inl (tied.turn turn)
  | unmanned handler tag reason =>
    simp only [Station.round]
    split
    next =>
      obtain started | ⟨st', refused, unmanned⟩ := tied.unmanned handler tag reason
      · exact .inl ⟨started.holds, started.finished⟩
      · rw [refused]
        exact .inr ⟨handler, tag, reason, rfl, rfl, unmanned⟩
    next => exact .inl ⟨tied, by simp⟩

theorem Tied.rounds (tied : st.Tied h .resting []) (plan : List Round) :
    ((st.rounds plan).2.Tied h .resting [] ∧ ∀ entry ∈ (st.rounds plan).1, entry.1.Admits [] entry.2) ∨
      ∃ handler tag reason, Round.unmanned handler tag reason ∈ plan ∧
        (.unmanned handler tag reason, .device (.ofRefusal reason)) ∈ (st.rounds plan).1 ∧
        (st.rounds plan).2.Unmanned h reason ∧
        ∀ entry ∈ (st.rounds plan).1, entry.1.Admits [Node.busy] entry.2 := by
  -- by induction on the rounds, up to the first start that leaves the device without a worker
  induction plan generalizing st with
  | nil => exact .inl ⟨tied, by simp [Station.rounds]⟩
  | cons first rest ih =>
    obtain ⟨tied', admits⟩ | ⟨handler, tag, reason, rfl, failed, unmanned⟩ := tied.round first
    · obtain ⟨tied'', others⟩ | ⟨handler, tag, reason, planned, failed, unmanned, others⟩ := ih tied'
      · exact .inl ⟨tied'', forall_mem_rounds_cons admits others⟩
      · exact .inr ⟨handler, tag, reason, List.mem_cons_of_mem _ planned, mem_rounds_cons.2 (.inr failed),
          unmanned, forall_mem_rounds_cons (fun f fails => (admits f fails).mono (List.nil_subset _)) others⟩
    · obtain ⟨unmanned', others⟩ := unmanned.rounds rest
      refine .inr ⟨handler, tag, reason, List.mem_cons_self, mem_rounds_cons.2 (.inl ⟨_, failed, rfl⟩),
        unmanned', forall_mem_rounds_cons ?_ others⟩
      intro f fails
      obtain rfl := Option.some.inj (failed.symm.trans fails)
      rfl

/-- The exception: the session is over, and its device is ready and busy. -/
example :
    let s := Simulation.empty
    let c : Configuration := { Configuration.ofMode .normal with
      period := 10, duration := 20, start := .immediate, tracked := [⟨0x2000, 0⟩] }
    let configures : Round := .turn (.perform (.configure c))
    let after := rounds [configures, .unmanned none 7 "no thread", configures]
      ⟨.bind s.connect.1 .standard, ⟨s.connect.2, []⟩⟩
    after.1.map Prod.snd = [.device (.ofRefusal "no thread"), .device Node.busy] ∧
      after.2.session.phase = .failed ∧
      (after.2.device.node? s.connect.1).map (fun n => n.status.phase) = some .ready := by
  decide +kernel

end Station

end TriggeredSampler
