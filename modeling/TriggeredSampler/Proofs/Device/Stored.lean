import TriggeredSampler.Proofs.Device.Scene
import TriggeredSampler.Proofs.Engine.Conservation

/-! # A simulated device can run what it stores

Requests, ticks of workers and incidents happen to simulated devices in any order. Whatever happens, the
record of a device holds the configuration that it accepted last, and a start of it cannot be refused for
the sake of the record.

* `Node.Stores` — what the record and the injected fault of a device are; every request keeps it.
* `Simulation.Past` — simulated devices, with what a handle accepted and what was injected into it.
* `Simulation.Past.holds_after` — what holds of a handle behind any events.
* `Simulation.start_of_stored` — the answers of a device, from what it accepted.
-/

namespace TriggeredSampler

namespace Node

variable {n n' n'' : Node} {w : Worker} {accepted : Option Configuration} {injected : Bool}

/-! ## What no run changes -/

/-- What a run cannot change of its device: the record, the injected fault, and that the device was never
configured. -/
structure Keeps (n n' : Node) : Prop where
  record : n'.record = n.record
  failsStart : n'.failsStart = n.failsStart
  unused : n.status.phase = .unconfigured ∧ n.worker = none →
    n'.status.phase = .unconfigured ∧ n'.worker = none

theorem Keeps.refl (n : Node) : Keeps n n := ⟨rfl, rfl, id⟩

theorem Keeps.trans (first : Keeps n n') (second : Keeps n' n'') : Keeps n n'' :=
  ⟨second.record.trans first.record, second.failsStart.trans first.failsStart, second.unused ∘ first.unused⟩

theorem publish_keeps (worker : n.worker ≠ none) (w : Worker) (changed : Bool) :
    Keeps n (n.publish w changed).2 := by
  have unused : ¬(n.status.phase = .unconfigured ∧ n.worker = none) := fun unused => worker unused.2
  unfold publish
  simp only
  split <;> exact ⟨rfl, rfl, fun nothing => absurd nothing unused⟩

theorem tick_keeps (worker : n.worker ≠ none) (w : Worker) : Keeps n (n.tick w).2 :=
  publish_keeps worker _ _

theorem cancel_keeps (worker : n.worker ≠ none) (w : Worker) : Keeps n (n.cancel w).2 :=
  publish_keeps worker _ _

theorem pass_keeps (n : Node) : Keeps n n.pass.2 := by
  unfold pass
  cases worker : n.worker with
  | none => exact ⟨rfl, rfl, fun unused => ⟨unused.1, rfl⟩⟩
  | some w =>
    have engaged : n.worker ≠ none := by simp [worker]
    simp only
    split
    next => exact ⟨rfl, rfl, fun unused => absurd unused.2 engaged⟩
    next =>
      have ticks : Keeps n (if w.pause = 0 then n.tick w else ([], n)).2 := by
        split
        next => exact tick_keeps engaged w
        next => exact .refl n
      exact ticks.trans ⟨rfl, rfl, fun unused => ⟨unused.1, by simp [unused.2]⟩⟩

theorem stop_keeps (n : Node) : Keeps n n.stop.2 := by
  unfold stop
  cases worker : n.worker with
  | none =>
    simp only
    split
    next => exact .refl n
    next used => exact ⟨rfl, rfl, fun unused => absurd (.inl unused.1) used⟩
  | some w =>
    have engaged : n.worker ≠ none := by simp [worker]
    simp only
    have ticks : Keeps n (if (w.ticks = 0 && !w.engine.phase.isTerminal) = true then n.tick w else ([], n)).2 := by
      split
      next => exact tick_keeps engaged w
      next => exact .refl n
    generalize (if (w.ticks = 0 && !w.engine.phase.isTerminal) = true then n.tick w else ([], n)) = ticked
      at ticks ⊢
    obtain ⟨_, n'⟩ := ticked
    have dismissed : ∀ m : Node, Keeps m { m with worker := none } :=
      fun m => ⟨rfl, rfl, fun unused => ⟨unused.1, rfl⟩⟩
    cases worker' : n'.worker with
    | none => exact ticks.trans (dismissed n')
    | some w' =>
      simp only
      split
      next => exact ticks.trans (dismissed n')
      next => exact (ticks.trans (cancel_keeps (by simp [worker']) w')).trans (dismissed _)

/-! ## What a device stores -/

/-- A device that accepted a configuration last, or none, and into which a fault of the next start was
injected, or not. -/
structure Stores (accepted : Option Configuration) (injected : Bool) (n : Node) : Prop where
  record : n.record = accepted.map Configuration.encode
  valid : ∀ c, accepted = some c → c.validate = .ok ()
  failsStart : n.failsStart = injected
  unused : accepted = none → n.status.phase = .unconfigured ∧ n.worker = none

theorem stores_fresh : Stores none false fresh :=
  ⟨rfl, by simp, rfl, fun _ => ⟨rfl, rfl⟩⟩

theorem Stores.keeps (stores : Stores accepted injected n) (keeps : Keeps n n') :
    Stores accepted injected n' :=
  ⟨keeps.record.trans stores.record, stores.valid, keeps.failsStart.trans stores.failsStart,
    fun none => keeps.unused (stores.unused none)⟩

theorem Stores.recall {c : Configuration} (stores : Stores (some c) injected n) {record : List UInt8}
    (stored : n.record = some record) : Configuration.decode record = .ok c := by
  rw [stores.record] at stored
  obtain rfl := Option.some.inj stored
  obtain ⟨_, _, fits, _⟩ := Configuration.validate_eq_ok_iff.1 (stores.valid c rfl)
  exact Configuration.decode_encode fits

/-- The record holds the configuration that was accepted last. -/
theorem Stores.decode (stores : Stores accepted injected n) :
    n.record.map Configuration.decode = accepted.map Except.ok := by
  cases accepted with
  | none => rw [stores.record]; rfl
  | some c =>
    have stored : n.record = some c.encode := stores.record
    rw [stored, Option.map_some, stores.recall stored]
    rfl

theorem Stores.configuration (stores : Stores accepted injected n) :
    n.configuration = accepted.elim (.error ⟨.unavailable, 0, "sampler is not configured"⟩) .ok := by
  cases accepted with
  | none => rw [Node.configuration, stores.record]; rfl
  | some c =>
    have stored : n.record = some c.encode := stores.record
    rw [Node.configuration, stored]
    simp only [Configuration.recall, stores.recall stored]
    rfl

/-- A device makes an engine of what it stores. -/
theorem Stores.armedEngine {c : Configuration} (stores : Stores (some c) injected n) :
    ∃ e, n.armedEngine = .ok e := by
  have stored : n.record = some c.encode := stores.record
  obtain ⟨made, e, accepted, armed⟩ := Engine.exists_armed (stores.valid c rfl)
  refine ⟨e, ?_⟩
  have made : n.armedEngine = ((Engine.new? c).mapError DeviceFault.ofDefect).bind fun engine =>
      engine.arm.mapError fun m => ⟨.invalidArguments, 0, m.message⟩ := by
    rw [Node.armedEngine, stored]
    simp only [Configuration.recall, stores.recall stored]
    rfl
  rw [made, accepted]
  simp only [Except.mapError, Except.bind, armed]

/-! ## The requests that a device may refuse -/

/-- A configuration is refused for a defect or because a run is active; nothing changes then. -/
theorem configure_cases (n : Node) (c : Configuration) :
    (∃ defect, c.validate = .error defect ∧ n.configure c = (.error (.ofDefect defect), n)) ∨
      (c.validate = .ok () ∧ n.status.phase.isActive = true ∧
        n.configure c = (.error ⟨.busy, 0, "sampler is active"⟩, n)) ∨
      (c.validate = .ok () ∧ n.status.phase.isActive = false ∧ n.configure c =
        (.ok (), { n with record := some c.encode, status := ⟨.configured, none, []⟩ })) := by
  unfold configure
  cases valid : c.validate with
  | error defect => exact .inl ⟨defect, rfl, rfl⟩
  | ok _ => cases active : n.status.phase.isActive <;> simp

/-- A start is refused for the injected fault, because nothing was ever accepted, or because a run is
active. -/
theorem Stores.start_cases (stores : Stores accepted injected n) (reported : Bool) (tag : Int) :
    (injected = true ∧ n.start reported tag =
      (.error ⟨.general, 0, "sampler start rejected by the device"⟩, { n with failsStart := false })) ∨
      (injected = false ∧ accepted = none ∧ n.start reported tag =
        (.error ⟨.invalidArguments, 0, "sampler is not configured"⟩, n)) ∨
      (injected = false ∧ accepted ≠ none ∧ n.status.phase.isActive = true ∧
        n.start reported tag = (.error ⟨.busy, 0, "sampler is active"⟩, n)) ∨
      (injected = false ∧ accepted ≠ none ∧ n.status.phase.isActive = false ∧
        ∃ e, n.start reported tag = (.ok (), { n with
          status := ⟨.ready, none, []⟩, worker := some ⟨e, reported, tag, 0, 0⟩ })) := by
  unfold start
  rw [stores.failsStart]
  cases injected with
  | true => exact .inl ⟨rfl, rfl⟩
  | false =>
    refine .inr ?_
    simp only [Bool.false_eq_true, if_false]
    cases accepted with
    | none =>
      have idle : n.status.phase.isActive = false := by rw [(stores.unused rfl).1]; rfl
      refine .inl ⟨trivial, rfl, ?_⟩
      rw [if_neg (by simp [idle]), Node.armedEngine, stores.record]
      rfl
    | some c =>
      refine .inr ?_
      cases active : n.status.phase.isActive with
      | true => exact .inl ⟨trivial, by simp, rfl, rfl⟩
      | false =>
        obtain ⟨e, armed⟩ := stores.armedEngine
        rw [armed]
        exact .inr ⟨trivial, by simp, rfl, e, rfl⟩

theorem answer_keeps (n : Node) {r : Request} (configures : ∀ c, r ≠ .configure c)
    (starts : ∀ reported tag, r ≠ .start reported tag) : Keeps n ((n.announce r).2.answer r).2 := by
  cases r with
  | configure c => exact absurd rfl (configures c)
  | start reported tag => exact absurd rfl (starts reported tag)
  | stop => exact stop_keeps n
  | write a value bits => exact ⟨rfl, rfl, id⟩
  | data => exact ⟨rfl, rfl, id⟩
  | configuration | phase | fault => exact .refl n

end Node

/-! ## Histories -/

namespace Simulation

/-- A request is announced and then answered. -/
def serve (h : Handle) (r : Request) (s : Simulation) : r.Answer × Simulation :=
  device.answer h r (device.announce h r s).2

/-- The worker of a handle ticks, however little time has passed, unless its run is over. -/
def tick (h : Handle) (s : Simulation) : Simulation :=
  match s.node? h with
  | none => s
  | some n =>
    match n.worker with
    | none => s
    | some w => if w.engine.phase.isTerminal then s else s.putNode h (n.tick w).2

/-- Something that happens to simulated devices. -/
inductive Event where
  | request (h : Handle) (r : Request)
  | tick (h : Handle)
  | befall (incident : Incident)

/-- The devices behind an event. -/
def Event.occur (event : Event) (s : Simulation) : Simulation :=
  match event with
  | .request h r => (s.serve h r).2
  | .tick h => s.tick h
  | .befall incident => (incident.occur s).2

/-- The configuration that a handle accepts by an event. -/
def Event.accepts? (h : Handle) (event : Event) (s : Simulation) : Option Configuration :=
  match event with
  | .request own (.configure c) =>
    if own = h then (s.serve own (.configure c)).1.toOption.map fun _ => c else none
  | _ => none

/-- A fault waits for the next start of a handle behind an event, if one did or did not before. -/
def Event.injects (h : Handle) (event : Event) (s : Simulation) (before : Bool) : Bool :=
  match event with
  | .request own (.start ..) => if own = h then false else before
  | .befall (.failStart own) => if own = h then (s.node? h).isSome else before
  | _ => before

/-- Simulated devices, with what a handle went through. -/
structure Past where
  simulation : Simulation
  /-- The configuration that the handle accepted last. -/
  accepted : Option Configuration
  /-- A fault was injected, and no start has met it yet. -/
  injected : Bool

namespace Past

/-- An event happens. -/
def next (h : Handle) (past : Past) (event : Event) : Past where
  simulation := event.occur past.simulation
  accepted := (event.accepts? h past.simulation).or past.accepted
  injected := event.injects h past.simulation past.injected

/-- What a handle went through in a history that begins without a device. -/
def after (h : Handle) (events : List Event) : Past :=
  events.foldl (next h) ⟨.empty, none, false⟩

/-- A device stores what its handle accepted, and a handle without a device accepted nothing. -/
structure Holds (h : Handle) (past : Past) : Prop where
  missing : past.simulation.node? h = none → past.accepted = none ∧ past.injected = false
  stores : ∀ n, past.simulation.node? h = some n → n.Stores past.accepted past.injected

end Past

variable {s : Simulation} {h own : Handle} {n : Node} {past : Past}

/-! ## Requests to a handle -/

theorem serve_of_missing (missing : s.node? h = none) (r : Request) : s.serve h r = (refuseFirst h r, s) := by
  simp only [serve, device, announce, answer, missing]

theorem putNode_putNode (s : Simulation) (h : Handle) (n n' : Node) :
    (s.putNode h n).putNode h n' = s.putNode h n' := by
  simp [putNode]

theorem putNode_self (node : s.node? h = some n) : s.putNode h n = s := by
  obtain ⟨bound, at_⟩ := List.getElem?_eq_some_iff.1 node
  rw [putNode, ← at_, List.set_getElem_self]

theorem serve_of_node (node : s.node? h = some n) (r : Request) :
    s.serve h r = (((n.announce r).2.answer r).1, s.putNode h ((n.announce r).2.answer r).2) := by
  simp only [serve, device, announce, answer, node, node?_putNode node, putNode_putNode]

theorem node?_serve_of_ne (other : own ≠ h) (r : Request) : (s.serve own r).2.node? h = s.node? h := by
  cases node : s.node? own with
  | none => rw [serve_of_missing node]
  | some n => rw [serve_of_node node, node?_putNode_of_ne other]

/-! ## Ticks and incidents -/

theorem node?_tick (s : Simulation) (own h : Handle) :
    (s.tick own).node? h = s.node? h ∨
      ∃ n n', s.node? h = some n ∧ n.Keeps n' ∧ (s.tick own).node? h = some n' := by
  unfold tick
  cases node : s.node? own with
  | none => exact .inl rfl
  | some n =>
    simp only
    cases worker : n.worker with
    | none => exact .inl rfl
    | some w =>
      simp only
      split
      next => exact .inl rfl
      next =>
        by_cases same : own = h
        · subst same
          exact .inr ⟨n, _, node, Node.tick_keeps (by simp [worker]) w, node?_putNode node _⟩
        · exact .inl (node?_putNode_of_ne same _)

theorem node?_change (node : s.node? h = some n) (own : Handle) (f : Node → Node) :
    (s.change own f).2.node? h = some (if own = h then f n else n) := by
  by_cases same : own = h
  · subst same
    rw [if_pos rfl, change, node]
    exact node?_putNode node _
  · rw [if_neg same, change]
    cases s.node? own with
    | none => exact node
    | some _ => exact (node?_putNode_of_ne same _).trans node

theorem change_of_missing (missing : s.node? h = none) (own : Handle) (f : Node → Node) :
    (s.change own f).2.node? h = none := by
  unfold change
  cases found : s.node? own with
  | none => exact missing
  | some _ =>
    have other : own ≠ h := fun same => by rw [same, missing] at found; cases found
    rw [← missing]
    exact node?_putNode_of_ne other _

/-- An incident keeps a device, but for the fault that it may inject. -/
theorem occur_keeps (node : s.node? h = some n) {incident : Incident} (other : incident ≠ .failStart h) :
    ∃ n', (incident.occur s).2.node? h = some n' ∧ n.Keeps n' := by
  by_cases time : incident = .pass
  · subst time
    exact ⟨_, (advance_node node).1, n.pass_keeps⟩
  by_cases device : incident = .connect
  · subst device
    exact ⟨n, node?_connect_of_some node, .refl n⟩
  obtain nothing | ⟨own, f, changed, same⟩ := Incident.occur_change time device s
  · rw [nothing]
    exact ⟨n, node, .refl n⟩
  · rw [changed, node?_change node]
    obtain ⟨status, worker, record, failsStart⟩ := same n
    refine ⟨_, rfl, ?_⟩
    split
    next own =>
      subst own
      exact ⟨record, failsStart other, by rw [status, worker]; exact id⟩
    next => exact .refl n

/-- Only the connection of a device gives a handle a device. -/
theorem occur_of_missing (missing : s.node? h = none) (incident : Incident) :
    (incident.occur s).2.node? h = none ∨ (incident.occur s).2.node? h = some .fresh := by
  have beyond : s.nodes.length ≤ h.id := List.getElem?_eq_none_iff.1 missing
  by_cases time : incident = .pass
  · subst time
    refine .inl ((getElem?_passFrom 0 s.nodes h.id).trans ?_)
    rw [List.getElem?_eq_none beyond]
    rfl
  by_cases device : incident = .connect
  · subst device
    by_cases new : h.id = s.nodes.length
    · exact .inr (by simp [Incident.occur, connect, node?, new])
    · have more : (s.nodes ++ [Node.fresh]).length ≤ h.id := by
        rw [List.length_append, List.length_singleton]
        omega
      exact .inl (List.getElem?_eq_none more)
  obtain nothing | ⟨own, f, changed, _⟩ := Incident.occur_change time device s
  · rw [nothing]
    exact .inl missing
  · rw [changed]
    exact .inl (change_of_missing missing own f)

/-! ## What holds of a handle -/

namespace Past

/-- What neither accepts a configuration nor meets or injects a fault. -/
theorem Holds.keeps (holds : past.Holds h) {event : Event}
    (accepts : event.accepts? h past.simulation = none)
    (injects : event.injects h past.simulation past.injected = past.injected)
    (kept : ∀ n, past.simulation.node? h = some n →
      ∃ n', (event.occur past.simulation).node? h = some n' ∧ n.Keeps n')
    (missing : past.simulation.node? h = none → (event.occur past.simulation).node? h = none ∨
      (event.occur past.simulation).node? h = some .fresh) : (past.next h event).Holds h := by
  have accepted : (past.next h event).accepted = past.accepted := by
    rw [next, accepts]
    rfl
  have injected : (past.next h event).injected = past.injected := injects
  cases before : past.simulation.node? h with
  | none =>
    obtain ⟨none, calm⟩ := holds.missing before
    rw [none] at accepted
    rw [calm] at injected
    refine ⟨fun _ => ⟨accepted, injected⟩, ?_⟩
    intro n node
    replace node : (event.occur past.simulation).node? h = some n := node
    obtain still | new := missing before
    · rw [still] at node
      cases node
    · obtain rfl := Option.some.inj (new.symm.trans node)
      rw [accepted, injected]
      exact Node.stores_fresh
  | some n =>
    obtain ⟨n', after, keeps⟩ := kept n before
    have stores : n'.Stores (past.next h event).accepted (past.next h event).injected := by
      rw [accepted, injected]
      exact (holds.stores n before).keeps keeps
    refine ⟨fun none => ?_, fun n'' node => ?_⟩
    · cases after.symm.trans none
    · obtain rfl := Option.some.inj (after.symm.trans node)
      exact stores

/-- What neither accepts a configuration nor meets a fault. -/
theorem Holds.request_of_missing (holds : past.Holds h) (missing : past.simulation.node? h = none)
    (r : Request) : (past.next h (.request h r)).Holds h := by
  have same : (Event.request h r).occur past.simulation = past.simulation := by
    rw [Event.occur, serve_of_missing missing]
  refine holds.keeps ?_ ?_ (fun n node => ?_) (fun _ => .inl (by rw [same, missing]))
  · cases r with
    | configure c =>
      simp only [Event.accepts?, if_pos, serve_of_missing missing, refuseFirst]
      cases c.validate <;> rfl
    | _ => rfl
  · cases r with
    | start reported tag => simp [Event.injects, (holds.missing missing).2]
    | _ => rfl
  · cases missing.symm.trans node

theorem Holds.configure (holds : past.Holds h) (node : past.simulation.node? h = some n)
    (c : Configuration) : (past.next h (.request h (.configure c))).Holds h := by
  have served := serve_of_node node (.configure c)
  have accepts : (Event.request h (.configure c)).accepts? h past.simulation =
      (n.configure c).1.toOption.map fun _ => c := by
    rw [Event.accepts?, if_pos rfl, served]
    rfl
  have occurs : (Event.request h (.configure c)).occur past.simulation =
      past.simulation.putNode h (n.configure c).2 := by
    rw [Event.occur, served]
    rfl
  -- a refused configuration leaves everything as it is
  have refused : ∀ fault, n.configure c = (.error fault, n) →
      (past.next h (.request h (.configure c))).Holds h := by
    intro fault eq
    rw [eq] at accepts occurs
    have same := occurs.trans (putNode_self node)
    exact holds.keeps accepts rfl (fun n node => ⟨n, by rw [same, node], .refl n⟩)
      (fun missing => .inl (by rw [same, missing]))
  obtain ⟨defect, _, eq⟩ | ⟨_, _, eq⟩ | ⟨valid, _, eq⟩ := n.configure_cases c
  · exact refused _ eq
  · exact refused _ eq
  · rw [eq] at accepts occurs
    have stores := holds.stores n node
    have after := node?_putNode node { n with record := some c.encode, status := ⟨.configured, none, []⟩ }
    have accepted : (past.next h (.request h (.configure c))).accepted = some c := by
      rw [Past.next, accepts]
      rfl
    refine ⟨fun none => ?_, fun n' node' => ?_⟩
    · rw [Past.next, occurs, after] at none
      cases none
    · rw [Past.next, occurs, after] at node'
      obtain rfl := Option.some.inj node'
      rw [accepted]
      refine ⟨rfl, fun _ same => ?_, stores.failsStart, nofun⟩
      obtain rfl := Option.some.inj same
      exact valid

theorem Holds.start (holds : past.Holds h) (node : past.simulation.node? h = some n) (reported : Bool)
    (tag : Int) : (past.next h (.request h (.start reported tag))).Holds h := by
  have stores := holds.stores n node
  have occurs : (Event.request h (.start reported tag)).occur past.simulation =
      past.simulation.putNode h (n.start reported tag).2 := by
    rw [Event.occur, serve_of_node node]
    rfl
  have injected : (past.next h (.request h (.start reported tag))).injected = false := by
    simp [Past.next, Event.injects]
  -- whatever becomes of the start, the device stores what it did, and the fault is used up
  have starts : (n.start reported tag).2.Stores past.accepted false := by
    obtain ⟨_, eq⟩ | ⟨calm, _, eq⟩ | ⟨calm, _, _, eq⟩ | ⟨calm, some, _, e, eq⟩ :=
      stores.start_cases reported tag <;> rw [eq]
    · exact ⟨stores.record, stores.valid, rfl, stores.unused⟩
    · exact calm ▸ stores
    · exact calm ▸ stores
    · exact ⟨stores.record, stores.valid, stores.failsStart.trans calm, fun none => absurd none some⟩
  refine ⟨fun none => ?_, fun n' node' => ?_⟩
  · rw [Past.next, occurs, node?_putNode node] at none
    cases none
  · rw [Past.next, occurs, node?_putNode node] at node'
    obtain rfl := Option.some.inj node'
    rw [injected]
    exact starts

theorem Holds.request (holds : past.Holds h) (r : Request) : (past.next h (.request h r)).Holds h := by
  cases node : past.simulation.node? h with
  | none => exact holds.request_of_missing node r
  | some n =>
    cases r with
    | configure c => exact holds.configure node c
    | start reported tag => exact holds.start node reported tag
    | _ =>
      refine holds.keeps rfl rfl (fun m found => ?_) fun missing => ?_
      · obtain rfl := Option.some.inj (node.symm.trans found)
        rw [Event.occur, serve_of_node node]
        exact ⟨_, node?_putNode node _, n.answer_keeps (fun _ => nofun) (fun _ _ => nofun)⟩
      · cases node.symm.trans missing

theorem Holds.next (holds : past.Holds h) (event : Event) : (past.next h event).Holds h := by
  cases event with
  | request own r =>
    by_cases same : own = h
    · subst same
      exact holds.request r
    · -- a request to another handle
      refine holds.keeps ?_ ?_ (fun n node => ⟨n, (node?_serve_of_ne same r).trans node, .refl n⟩)
        fun missing => .inl ((node?_serve_of_ne same r).trans missing)
      · cases r with
        | configure c => simp [Event.accepts?, same]
        | _ => rfl
      · cases r with
        | start reported tag => simp [Event.injects, same]
        | _ => rfl
  | tick own =>
    refine holds.keeps rfl rfl (fun n node => ?_) fun missing => ?_ <;>
      obtain same | ⟨m, m', found, keeps, after⟩ := node?_tick past.simulation own h
    · exact ⟨n, same.trans node, .refl n⟩
    · obtain rfl := Option.some.inj (node.symm.trans found)
      exact ⟨m', after, keeps⟩
    · exact .inl (same.trans missing)
    · cases missing.symm.trans found
  | befall incident =>
    by_cases injects : incident = .failStart h
    · subst injects
      -- the fault is injected if there is a device
      cases node : past.simulation.node? h with
      | none =>
        refine holds.keeps rfl ?_ (fun n found => ?_) fun _ => occur_of_missing node _
        · simp [Event.injects, node, (holds.missing node).2]
        · cases node.symm.trans found
      | some n =>
        have after : ((Event.befall (.failStart h)).occur past.simulation).node? h =
            some { n with failsStart := true } :=
          (node?_change node h _).trans (by rw [if_pos rfl])
        have stores := holds.stores n node
        refine ⟨fun none => ?_, fun n' node' => ?_⟩
        · cases after.symm.trans none
        · obtain rfl := Option.some.inj (after.symm.trans node')
          exact ⟨stores.record, stores.valid, by simp [Past.next, Event.injects, node], stores.unused⟩
    · refine holds.keeps rfl ?_ (fun n node => occur_keeps node injects) (occur_of_missing · incident)
      cases incident with
      | failStart own =>
        have other : own ≠ h := fun same => injects (by rw [same])
        simp [Event.injects, other]
      | _ => rfl

theorem holds_after (h : Handle) (events : List Event) : (after h events).Holds h := by
  have start : Holds h ⟨.empty, none, false⟩ := ⟨fun _ => ⟨rfl, rfl⟩, fun n node => by cases node⟩
  unfold after
  generalize (⟨.empty, none, false⟩ : Past) = past at start ⊢
  -- by induction on the events
  induction events generalizing past with
  | nil => exact start
  | cons event rest ih => exact ih (past.next h event) (start.next event)

end Past

/-- **A device only stores what it can run.** Behind any events, the record of a device decodes to the
configuration that it accepted last, which is valid and is read back. A configuration is refused for a
defect or because a run is active, and then nothing changes. A start is refused for the injected fault,
which it uses up, because nothing was ever accepted, or because a run is active, and nothing else changes.
A handle without a device refuses everything. -/
theorem start_of_stored (h : Handle) (events : List Event) (c : Configuration) (reported : Bool)
    (tag : Int) :
    let past := Past.after h events
    let s := past.simulation
    let configured := s.serve h (.configure c)
    let recalled := s.serve h .configuration
    let started := s.serve h (.start reported tag)
    (configured.1 ≠ .ok () → configured.2 = s) ∧ recalled.2 = s ∧
      match s.node? h with
      | none => past.accepted = none ∧ recalled.1 = .error (unknown h) ∧ started = (.error (unknown h), s) ∧
          configured.1 = match c.validate with
            | .error defect => .error (.ofDefect defect)
            | .ok () => .error (unknown h)
      | some n =>
        n.record.map Configuration.decode = past.accepted.map .ok ∧
          (∀ stored, past.accepted = some stored → stored.validate = .ok ()) ∧
          recalled.1 = past.accepted.elim (.error ⟨.unavailable, 0, "sampler is not configured"⟩) .ok ∧
          configured.1 = (match c.validate with
            | .error defect => .error (.ofDefect defect)
            | .ok () =>
              if n.status.phase ∈ [.ready, .running] then .error ⟨.busy, 0, "sampler is active"⟩
              else .ok ()) ∧
          started.1 = (
            if past.injected then .error ⟨.general, 0, "sampler start rejected by the device"⟩
            else if past.accepted = none then
              .error ⟨.invalidArguments, 0, "sampler is not configured"⟩
            else if n.status.phase ∈ [.ready, .running] then .error ⟨.busy, 0, "sampler is active"⟩
            else .ok ()) ∧
          (started.1 ≠ .ok () → started.2 = s.putNode h { n with failsStart := false }) := by
  intro past s configured recalled started
  have holds : past.Holds h := Past.holds_after h events
  cases node : s.node? h with
  | none =>
    have served := serve_of_missing node
    refine ⟨fun _ => ?_, ?_, (holds.missing node).1, ?_, served _, ?_⟩
    · exact congrArg Prod.snd (served (.configure c))
    · exact congrArg Prod.snd (served .configuration)
    · exact congrArg Prod.fst (served .configuration)
    · exact congrArg Prod.fst (served (.configure c))
  | some n =>
    have stores := holds.stores n node
    have served := serve_of_node node
    have active : n.status.phase ∈ [Phase.ready, .running] ↔ n.status.phase.isActive = true := by
      cases n.status.phase <;> decide
    have configures : configured = ((n.configure c).1, s.putNode h (n.configure c).2) := served _
    have starts : started = ((n.start reported tag).1, s.putNode h (n.start reported tag).2) := served _
    have recalls : recalled = (n.configuration, s.putNode h n) := served _
    rw [configures, starts, recalls, stores.configuration, putNode_self node]
    refine ⟨?_, rfl, stores.decode, stores.valid, rfl, ?_, ?_, ?_⟩
    · obtain ⟨_, _, eq⟩ | ⟨_, _, eq⟩ | ⟨_, _, eq⟩ := n.configure_cases c <;> rw [eq]
      · exact fun _ => putNode_self node
      · exact fun _ => putNode_self node
      · exact fun refused => absurd rfl refused
    · obtain ⟨_, valid, eq⟩ | ⟨valid, busy, eq⟩ | ⟨valid, idle, eq⟩ := n.configure_cases c <;>
        rw [eq, valid]
      · simp only [active, busy, if_true]
      · simp [active, idle]
    · obtain ⟨injected, eq⟩ | ⟨calm, none, eq⟩ | ⟨calm, some, busy, eq⟩ | ⟨calm, some, idle, e, eq⟩ :=
        stores.start_cases reported tag <;> rw [eq]
      · simp [injected]
      · simp [calm, none]
      · simp [calm, some, active, busy]
      · simp [calm, some, active, idle]
    · have calm : n.failsStart = false → s.putNode h n = s.putNode h { n with failsStart := false } := by
        intro calm
        rw [← calm]
      obtain ⟨_, eq⟩ | ⟨injected, _, eq⟩ | ⟨injected, _, _, eq⟩ | ⟨_, _, _, e, eq⟩ :=
        stores.start_cases reported tag <;> rw [eq]
      · exact fun _ => rfl
      · exact fun _ => calm (stores.failsStart.trans injected)
      · exact fun _ => calm (stores.failsStart.trans injected)
      · exact fun refused => absurd rfl refused

/-- A device that accepted a configuration, refused another one, and met the injected fault; the second
start is accepted. -/
theorem start_of_threeSamples :
    let h : Handle := ⟨0⟩
    let events : List Event := [.befall .connect, .request h (.configure Engine.threeSamples),
      .request h (.configure (.ofMode .continuous)), .befall (.failStart h), .request h (.start true 7)]
    let s := (Past.after h events).simulation
    (Past.after h events).accepted = some Engine.threeSamples ∧
      (s.serve h .configuration).1 = .ok Engine.threeSamples ∧ (s.serve h (.start true 7)).1 = .ok () := by
  intro h events s
  have accepted : (Past.after h events).accepted = some Engine.threeSamples := by decide
  have injected : (Past.after h events).injected = false := by decide
  obtain ⟨_, _, answers⟩ := start_of_stored h events (.ofMode .continuous) true 7
  have phase : (s.node? h).map (·.status.phase) = some .configured := by decide +kernel
  obtain ⟨n, node, configured⟩ := Option.map_eq_some_iff.1 phase
  simp only [show (Past.after h events).simulation.node? h = some n from node] at answers
  obtain ⟨_, _, recalled, _, started, _⟩ := answers
  refine ⟨accepted, ?_, ?_⟩
  · rw [recalled, accepted]
    rfl
  · rw [started, accepted, injected, configured]
    rfl

end Simulation

end TriggeredSampler
