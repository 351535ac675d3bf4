import TriggeredSampler.Device.Simulation
import TriggeredSampler.Proofs.Device.Node

/-! # Simulated devices in a changing world

Nothing waits for a session: while it asks its device, time passes, registers are declared and faults
are injected. A `Scene` is a set of simulated devices with a schedule of such `Incident`s, some before
every request and every millisecond. As the schedule is arbitrary, so is the order in which the requests
of a session and everything else happen.

* `Scene.device` — simulated devices as a session finds them.
* `Node.Unasked` — what holds of a device and of what can become of it unasked.
* `Scene.announce_unasked`, `Scene.advance_unasked` — it holds of the device of a handle.
* `Scene.announce_drifts`, `Scene.announce_stop`, `Scene.advance_drifts` — a sound device drifts.
-/

namespace TriggeredSampler

/-- The reports of a handle. -/
def reportsOf (h : Handle) (raised : List (Handle × Report)) : List Report :=
  (raised.filter fun entry => entry.1 = h).map Prod.snd

@[simp] theorem reportsOf_nil (h : Handle) : reportsOf h [] = [] := rfl

@[simp] theorem reportsOf_append (h : Handle) (raised more : List (Handle × Report)) :
    reportsOf h (raised ++ more) = reportsOf h raised ++ reportsOf h more := by
  simp [reportsOf]

theorem reportsOf_cons_self (h : Handle) (report : Report) (raised : List (Handle × Report)) :
    reportsOf h ((h, report) :: raised) = report :: reportsOf h raised := by
  simp [reportsOf]

theorem reportsOf_cons_of_ne {h own : Handle} (other : own ≠ h) (report : Report)
    (raised : List (Handle × Report)) : reportsOf h ((own, report) :: raised) = reportsOf h raised := by
  simp [reportsOf, other]

theorem reportsOf_map_self (h : Handle) (reports : List Report) :
    reportsOf h (reports.map (Prod.mk h)) = reports := by
  simp [reportsOf, List.filter_map, Function.comp_def]

theorem reportsOf_map_of_ne {h own : Handle} (other : own ≠ h) (reports : List Report) :
    reportsOf h (reports.map (Prod.mk own)) = [] := by
  simp [reportsOf, List.filter_map, Function.comp_def, other]

/-- Something that happens to simulated devices while no session asks them. -/
inductive Incident where
  /-- A millisecond passes. -/
  | pass
  /-- A further device is connected. -/
  | connect
  | declare (h : Handle) (a : Address) (bits : Nat) (value : Int)
  | declareUptime (h : Handle) (a : Address)
  /-- A register is written, though by no session. -/
  | write (h : Handle) (a : Address) (value : Int) (bits : Nat)
  | failWrite (h : Handle) (a : Address) (passing : Nat)
  | failReads (h : Handle) (a : Address) (failing : Bool)
  | failStart (h : Handle)

/-- An incident, with the reports that it raises. -/
def Incident.occur (incident : Incident) (s : Simulation) : List (Handle × Report) × Simulation :=
  match incident with
  | .pass => s.advance
  | .connect => ([], s.connect.2)
  | .declare h a bits value => ([], (s.declare h a bits value).2)
  | .declareUptime h a => ([], (s.declareUptime h a).2)
  | .write h a value bits => ([], (s.answer h (.write a value bits)).2)
  | .failWrite h a passing => ([], (s.failWrite h a passing).2)
  | .failReads h a failing => ([], (s.failReads h a failing).2)
  | .failStart h => ([], (s.failStart h).2)

/-- Several incidents. -/
def Incident.occurAll : List Incident → Simulation → List (Handle × Report) × Simulation
  | [], s => ([], s)
  | incident :: rest, s =>
    let (raised, s) := incident.occur s
    let (more, s) := occurAll rest s
    (raised ++ more, s)

/-- Simulated devices, with the incidents that will happen before the next requests. -/
structure Scene where
  simulation : Simulation
  ahead : List (List Incident)

namespace Scene

/-- The incidents before the next request happen. -/
def next (scene : Scene) : List (Handle × Report) × Scene :=
  let (raised, s) := Incident.occurAll (scene.ahead.headD []) scene.simulation
  (raised, ⟨s, scene.ahead.tail⟩)

/-- What is raised before a request is answered: first by the incidents, then by the request. -/
def announce (h : Handle) (r : Request) (scene : Scene) : List Report × Scene :=
  let (raised, scene) := scene.next
  let (reports, s) := scene.simulation.announce h r
  (reportsOf h raised ++ reports, { scene with simulation := s })

/-- The answer to a request, which may find no thread for a worker. -/
def answer (h : Handle) (r : Request) (scene : Scene) (refusal : Option String := none) :
    r.Answer × Scene :=
  let (result, s) := scene.simulation.answer h r refusal
  (result, { scene with simulation := s })

/-- A millisecond passes, behind some incidents. -/
def advance (scene : Scene) : List (Handle × Report) × Scene :=
  let (raised, scene) := scene.next
  let (more, s) := scene.simulation.advance
  (raised ++ more, { scene with simulation := s })

/-- Simulated devices as a session finds them, while the system creates every thread or refuses all of
them for the given reason. -/
def device (refusal : Option String := none) : Device Scene where
  announce := announce
  answer h r scene := scene.answer h r refusal
  sent _ _ _ scene := scene
  advance := advance
  holdsOn _ _ := false

end Scene

/-! ## The device of a handle -/

variable {R : Node → Node → List Report → Prop}

namespace Node

/-- `R` holds of a device, of what becomes of it by time, registers and injected faults, and of the reports
that it raises meanwhile. -/
structure Unasked (R : Node → Node → List Report → Prop) : Prop where
  pass : ∀ n, R n n.pass.2 n.pass.1
  change : ∀ {n n'}, n'.status = n.status → n'.worker = n.worker → n'.record = n.record → R n n' []
  trans : ∀ {n n' n'' reports more}, R n n' reports → R n' n'' more → R n n'' (reports ++ more)

theorem Unasked.refl (unasked : Unasked R) (n : Node) : R n n [] :=
  unasked.change rfl rfl rfl

theorem unasked_drifts (tracked : Nat) :
    Unasked fun n n' reports => n.Sound tracked → n.Drifts tracked n' reports where
  pass _ := pass_drifts
  change status worker record sound :=
    sound.drifts (by rw [status]) (by rw [status]) (by rw [status]; exact sound.whole)
      (by rw [engine?, engine?, worker]) record
  trans first second sound := (first sound).trans (second (first sound).sound)

theorem unasked_unmanned : Unasked fun n n' reports => n.Unmanned → n'.Unmanned ∧ reports = [] where
  pass _ := Unmanned.pass
  change status worker _ unmanned :=
    ⟨⟨status.trans unmanned.status, worker.trans unmanned.worker⟩, rfl⟩
  trans first second unmanned := by
    obtain ⟨unmanned', rfl⟩ := first unmanned
    exact second unmanned'

end Node

namespace Simulation

variable {s : Simulation} {h own : Handle} {n : Node}

theorem node?_putNode (node : s.node? h = some n) (n' : Node) : (s.putNode h n').node? h = some n' := by
  have bound : h.id < s.nodes.length := (List.getElem?_eq_some_iff.1 node).1
  simp [node?, putNode, bound]

theorem node?_putNode_of_ne (other : own ≠ h) (n' : Node) : (s.putNode own n').node? h = s.node? h := by
  have ids : own.id ≠ h.id := fun same => other (by cases own; cases h; simp_all)
  simp [node?, putNode, List.getElem?_set_ne ids]

/-- A handle belongs to a device that was just connected. -/
theorem node?_connect (s : Simulation) : s.connect.2.node? s.connect.1 = some .fresh := by
  simp [node?, connect]

theorem node?_connect_of_some (node : s.node? h = some n) : s.connect.2.node? h = some n := by
  have bound : h.id < s.nodes.length := (List.getElem?_eq_some_iff.1 node).1
  rw [node?, connect, List.getElem?_append_left bound]
  exact node

/-- Whatever is changed about another device, or about nothing that counts. -/
theorem change_unasked (unasked : Node.Unasked R) (node : s.node? h = some n) {f : Node → Node}
    (status : (f n).status = n.status) (worker : (f n).worker = n.worker)
    (record : (f n).record = n.record) :
    ∃ n', (s.change own f).2.node? h = some n' ∧ R n n' [] := by
  unfold change
  cases found : s.node? own with
  | none => exact ⟨n, node, unasked.refl n⟩
  | some n' =>
    by_cases same : own = h
    · subst same
      obtain rfl := Option.some.inj (node.symm.trans found)
      exact ⟨f n, node?_putNode node _, unasked.change status worker record⟩
    · exact ⟨n, by rw [node?_putNode_of_ne same]; exact node, unasked.refl n⟩

theorem getElem?_passFrom (first : Nat) (nodes : List Node) (i : Nat) :
    (passFrom first nodes).2[i]? = nodes[i]?.map fun n => n.pass.2 := by
  -- by induction on the devices: each passes its own millisecond
  induction nodes generalizing first i with
  | nil => simp [passFrom]
  | cons n rest ih =>
    cases i with
    | zero => simp [passFrom]
    | succ i => simpa [passFrom] using ih (first + 1) i

/-- A device reports under its own handle only. -/
theorem reportsOf_passFrom (first : Nat) (nodes : List Node) (id : Nat) :
    reportsOf ⟨id⟩ (passFrom first nodes).1 =
      if first ≤ id then (nodes[id - first]?.map fun n => n.pass.1).getD [] else [] := by
  induction nodes generalizing first with
  | nil => simp [passFrom]
  | cons n rest ih =>
    simp only [passFrom, reportsOf_append, ih (first + 1)]
    by_cases same : first = id
    · subst same
      rw [reportsOf_map_self, if_pos (Nat.le_refl _), if_neg (by omega)]
      simp
    · have other : (⟨first⟩ : Handle) ≠ ⟨id⟩ := fun eq => same (congrArg Handle.id eq)
      rw [reportsOf_map_of_ne other, List.nil_append]
      by_cases later : first ≤ id
      · obtain ⟨k, rfl⟩ : ∃ k, id = first + 1 + k := ⟨id - (first + 1), by omega⟩
        rw [if_pos (by omega), if_pos later, Nat.add_sub_cancel_left, Nat.add_assoc,
          Nat.add_sub_cancel_left, Nat.add_comm 1 k, List.getElem?_cons_succ]
      · rw [if_neg (by omega), if_neg later]

/-- A device passes its own millisecond. -/
theorem advance_node (node : s.node? h = some n) :
    s.advance.2.node? h = some n.pass.2 ∧ reportsOf h s.advance.1 = n.pass.1 := by
  have found : s.nodes[h.id]? = some n := node
  have passed := getElem?_passFrom 0 s.nodes h.id
  have own := reportsOf_passFrom 0 s.nodes h.id
  rw [found] at passed
  rw [if_pos (Nat.zero_le _), Nat.sub_zero, found] at own
  exact ⟨passed, own⟩

theorem advance_unasked (unasked : Node.Unasked R) (node : s.node? h = some n) :
    ∃ n', s.advance.2.node? h = some n' ∧ R n n' (reportsOf h s.advance.1) := by
  obtain ⟨passed, reports⟩ := advance_node node
  exact ⟨n.pass.2, passed, by rw [reports]; exact unasked.pass n⟩

end Simulation

namespace Incident

variable {s : Simulation} {h : Handle} {n : Node} {tracked : Nat}

/-- Everything but a passing millisecond and a new device changes no more than the registers and the
injected faults of one device. -/
theorem occur_change {incident : Incident} (time : incident ≠ .pass) (device : incident ≠ .connect)
    (s : Simulation) :
    incident.occur s = ([], s) ∨ ∃ own f, incident.occur s = ([], (s.change own f).2) ∧
      ∀ n : Node, (f n).status = n.status ∧ (f n).worker = n.worker ∧ (f n).record = n.record ∧
        (incident ≠ .failStart own → (f n).failsStart = n.failsStart) := by
  cases incident with
  | pass => exact absurd rfl time
  | connect => exact absurd rfl device
  | declare own a bits value =>
    simp only [occur, Simulation.declare]
    split
    next => exact .inl rfl
    next => exact .inr ⟨_, _, rfl, fun _ => ⟨rfl, rfl, rfl, fun _ => rfl⟩⟩
  | write own a value bits =>
    have changed : (s.answer own (.write a value bits)).2 =
        (s.change own fun n => { n with registers := (n.registers.write a value bits).2 }).2 := by
      unfold Simulation.answer Simulation.change
      cases s.node? own <;> rfl
    exact .inr ⟨own, _, congrArg (Prod.mk []) changed, fun _ => ⟨rfl, rfl, rfl, fun _ => rfl⟩⟩
  | declareUptime | failWrite | failReads =>
    exact .inr ⟨_, _, rfl, fun _ => ⟨rfl, rfl, rfl, fun _ => rfl⟩⟩
  | failStart own => exact .inr ⟨own, _, rfl, fun _ => ⟨rfl, rfl, rfl, fun other => absurd rfl other⟩⟩

theorem occur_unasked (unasked : Node.Unasked R) (node : s.node? h = some n) (incident : Incident) :
    ∃ n', (incident.occur s).2.node? h = some n' ∧ R n n' (reportsOf h (incident.occur s).1) := by
  by_cases time : incident = .pass
  · subst time
    exact Simulation.advance_unasked unasked node
  by_cases device : incident = .connect
  · subst device
    exact ⟨n, Simulation.node?_connect_of_some node, unasked.refl n⟩
  obtain nothing | ⟨own, f, changed, same⟩ := occur_change time device s
  · rw [nothing]
    exact ⟨n, node, unasked.refl n⟩
  · rw [changed]
    obtain ⟨status, worker, record, _⟩ := same n
    exact Simulation.change_unasked unasked node status worker record

theorem occurAll_unasked (unasked : Node.Unasked R) (node : s.node? h = some n) (incidents : List Incident) :
    ∃ n', (occurAll incidents s).2.node? h = some n' ∧ R n n' (reportsOf h (occurAll incidents s).1) := by
  -- by induction on the incidents
  induction incidents generalizing s n with
  | nil => exact ⟨n, node, unasked.refl n⟩
  | cons incident rest ih =>
    obtain ⟨n', node', first⟩ := occur_unasked unasked node incident
    obtain ⟨n'', node'', others⟩ := ih node'
    refine ⟨n'', node'', ?_⟩
    simp only [occurAll, reportsOf_append]
    exact unasked.trans first others

theorem occurAll_drifts (sound : n.Sound tracked) (node : s.node? h = some n) (incidents : List Incident) :
    ∃ n', (occurAll incidents s).2.node? h = some n' ∧
      n.Drifts tracked n' (reportsOf h (occurAll incidents s).1) := by
  obtain ⟨n', node', drifts⟩ := occurAll_unasked (Node.unasked_drifts tracked) node incidents
  exact ⟨n', node', drifts sound⟩

end Incident

namespace Scene

variable {scene : Scene} {h : Handle} {n : Node} {tracked : Nat}

/-- The device of a handle. -/
def node? (scene : Scene) (h : Handle) : Option Node := scene.simulation.node? h

/-- A request other than a stop raises nothing itself. -/
theorem announce_unasked (unasked : Node.Unasked R) (node : scene.node? h = some n) {r : Request}
    (other : r ≠ .stop) :
    ∃ n', (scene.announce h r).2.node? h = some n' ∧ R n n' (scene.announce h r).1 := by
  obtain ⟨n', node', becomes⟩ := Incident.occurAll_unasked unasked node (scene.ahead.headD [])
  have raised : n'.announce r = ([], n') := by cases r <;> first | rfl | exact absurd rfl other
  simp only [announce, Simulation.announce]
  rw [show scene.next.2.simulation.node? h = some n' from node']
  simp only [raised, List.append_nil]
  exact ⟨n', Simulation.node?_putNode node' n', becomes⟩

theorem advance_unasked (unasked : Node.Unasked R) (node : scene.node? h = some n) :
    ∃ n', scene.advance.2.node? h = some n' ∧ R n n' (reportsOf h scene.advance.1) := by
  obtain ⟨n', node', first⟩ := Incident.occurAll_unasked unasked node (scene.ahead.headD [])
  obtain ⟨n'', node'', second⟩ :=
    Simulation.advance_unasked (s := scene.next.2.simulation) unasked node'
  refine ⟨n'', node'', ?_⟩
  simp only [advance, reportsOf_append]
  exact unasked.trans first second

theorem next_drifts (sound : n.Sound tracked) (node : scene.node? h = some n) :
    ∃ n', scene.next.2.node? h = some n' ∧ n.Drifts tracked n' (reportsOf h scene.next.1) :=
  Incident.occurAll_drifts sound node _

/-- Before any request but a stop the device drifts. -/
theorem announce_drifts (sound : n.Sound tracked) (node : scene.node? h = some n) {r : Request}
    (other : r ≠ .stop) :
    ∃ n', (scene.announce h r).2.node? h = some n' ∧ n.Drifts tracked n' (scene.announce h r).1 := by
  obtain ⟨n', node', drifts⟩ := announce_unasked (Node.unasked_drifts tracked) node other
  exact ⟨n', node', drifts sound⟩

/-- Before a stop is answered the sampler is inactive. -/
theorem announce_stop (sound : n.Sound tracked) (node : scene.node? h = some n) :
    ∃ n', (scene.announce h .stop).2.node? h = some n' ∧ n.Moves tracked n' (scene.announce h .stop).1 ∧
      n'.status.phase.isActive = false := by
  obtain ⟨n', node', drifts⟩ := next_drifts sound node
  obtain ⟨moves, idle⟩ := Node.stop_moves drifts.sound
  simp only [announce, Simulation.announce]
  rw [show scene.next.2.simulation.node? h = some n' from node']
  exact ⟨n'.stop.2, Simulation.node?_putNode node' _, drifts.toMoves.trans moves, idle⟩

theorem answer_eq (node : scene.node? h = some n) (r : Request) (refusal : Option String := none) :
    (scene.answer h r refusal).1 = (n.answer r refusal).1 ∧
      (scene.answer h r refusal).2.node? h = some (n.answer r refusal).2 := by
  simp only [answer, Simulation.answer]
  rw [show scene.simulation.node? h = some n from node]
  exact ⟨rfl, Simulation.node?_putNode node _⟩

theorem advance_drifts (sound : n.Sound tracked) (node : scene.node? h = some n) :
    ∃ n', scene.advance.2.node? h = some n' ∧ n.Drifts tracked n' (reportsOf h scene.advance.1) := by
  obtain ⟨n', node', drifts⟩ := advance_unasked (Node.unasked_drifts tracked) node
  exact ⟨n', node', drifts sound⟩

end Scene

end TriggeredSampler
