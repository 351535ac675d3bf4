import TriggeredSampler.Proofs.Device.Registers
import TriggeredSampler.Proofs.Device.Stored

/-! # The registers of simulated devices

Whatever happens to simulated devices, each register answers by its own account: the accesses to other
registers, to other devices and to the samplers leave it alone.

* `Simulation.access` — an access to a register of a device.
* `Simulation.Ledger` — simulated devices, with the account of a register.
* `Simulation.Ledger.holds_after` — the account tells how the register stands, behind any events.
* `Simulation.answers_by_account` — what reads and writes answer, and what they leave alone.
-/

namespace TriggeredSampler

/-! ## What leaves the registers alone -/

namespace Node

variable {n : Node}

@[simp] theorem registers_publish (n : Node) (w : Worker) (changed : Bool) :
    (n.publish w changed).2.registers = n.registers := by
  unfold publish
  simp only
  split <;> rfl

@[simp] theorem registers_tick (n : Node) (w : Worker) : (n.tick w).2.registers = n.registers :=
  registers_publish n _ _

theorem registers_pass (n : Node) : n.pass.2.registers = n.registers := by
  unfold pass
  cases n.worker with
  | none => rfl
  | some w =>
    simp only
    split
    · rfl
    · by_cases due : w.pause = 0 <;> simp [due]

theorem registers_stop (n : Node) : n.stop.2.registers = n.registers := by
  unfold stop
  cases n.worker with
  | none =>
    simp only
    split <;> rfl
  | some w =>
    simp only
    have ticks : (if (w.ticks = 0 && !w.engine.phase.isTerminal) = true then n.tick w else ([], n)).2.registers =
        n.registers := by
      split
      · exact registers_tick n w
      · rfl
    generalize (if (w.ticks = 0 && !w.engine.phase.isTerminal) = true then n.tick w else ([], n)) = ticked
      at ticks ⊢
    obtain ⟨_, n'⟩ := ticked
    cases n'.worker with
    | none => exact ticks
    | some w' =>
      simp only
      split
      · exact ticks
      · exact (registers_publish n' _ _).trans ticks

/-- Of the requests only a write reaches the registers. -/
theorem registers_answer (n : Node) {r : Request} (other : ∀ a value bits, r ≠ .write a value bits) :
    ((n.announce r).2.answer r).2.registers = n.registers := by
  cases r with
  | write a value bits => exact absurd rfl (other a value bits)
  | configure c =>
    obtain ⟨_, _, eq⟩ | ⟨_, _, eq⟩ | ⟨_, _, eq⟩ := n.configure_cases c <;>
      exact congrArg (fun result => result.2.registers) eq
  | start reported tag =>
    show (n.start reported tag).2.registers = n.registers
    unfold start
    split
    · rfl
    split
    · rfl
    split <;> rfl
  | stop => exact n.registers_stop
  | configuration | phase | data | fault => rfl

end Node

/-- A register of a device. -/
structure Register where
  handle : Handle
  address : Address
deriving DecidableEq

namespace Simulation

variable {s : Simulation} {p q : Register} {h : Handle} {n : Node}

/-- What stays of the registers of a handle: a device keeps them, and a new one has none. -/
def Remains (h : Handle) (s s' : Simulation) : Prop :=
  match s.node? h with
  | none => s'.node? h = none ∨ s'.node? h = some .fresh
  | some n => ∃ n', s'.node? h = some n' ∧ n'.registers = n.registers

theorem Remains.of_eq {s' : Simulation} (same : s'.node? h = s.node? h) : Remains h s s' := by
  unfold Remains
  rw [same]
  cases s.node? h with
  | none => exact .inl rfl
  | some n => exact ⟨n, rfl, rfl⟩

theorem remains_serve {own : Handle} {r : Request} (other : ∀ a value bits, r ≠ .write a value bits)
    (s : Simulation) (h : Handle) : Remains h s (s.serve own r).2 := by
  by_cases same : own = h
  · subst same
    cases node : s.node? own with
    | none =>
      rw [serve_of_missing node]
      exact .of_eq rfl
    | some n =>
      rw [serve_of_node node, Remains, node]
      exact ⟨_, node?_putNode node _, n.registers_answer other⟩
  · exact .of_eq (node?_serve_of_ne same r)

theorem remains_tick (s : Simulation) (own h : Handle) : Remains h s (s.tick own) := by
  unfold tick
  cases node : s.node? own with
  | none => exact .of_eq rfl
  | some n =>
    simp only
    cases n.worker with
    | none => exact .of_eq rfl
    | some w =>
      simp only
      split
      · exact .of_eq rfl
      · by_cases same : own = h
        · subst same
          rw [Remains, node]
          exact ⟨_, node?_putNode node _, n.registers_tick w⟩
        · exact .of_eq (node?_putNode_of_ne same _)

/-! ## Accesses -/

/-- Accesses a register. -/
def access (s : Simulation) (p : Register) : Access → Except DeviceFault Unit × Simulation
  | .declare bits value => s.declare p.handle p.address bits value
  | .declareUptime => s.declareUptime p.handle p.address
  | .write value bits => s.serve p.handle (.write p.address value bits)
  | .failWrite passing => s.failWrite p.handle p.address passing
  | .failReads failing => s.failReads p.handle p.address failing

theorem access_of_node (node : s.node? p.handle = some n) (x : Access) :
    s.access p x = ((n.registers.access p.address x).1,
      s.putNode p.handle { n with registers := (n.registers.access p.address x).2 }) := by
  cases x with
  | declare bits value =>
    simp only [access, declare, Registers.access]
    cases Registers.narrow value bits with
    | error fault => exact congrArg (Prod.mk _) (putNode_self node).symm
    | ok kept => simp only [changeRegisters, change, node]
  | write value bits => exact serve_of_node node _
  | declareUptime | failWrite passing | failReads failing =>
    simp only [access, declareUptime, failWrite, failReads, changeRegisters, change, node, Registers.access]

theorem access_of_missing (missing : s.node? p.handle = none) (x : Access) :
    ∃ fault, s.access p x = (.error fault, s) := by
  cases x with
  | declare bits value =>
    simp only [access, declare]
    cases Registers.narrow value bits with
    | error fault => exact ⟨fault, rfl⟩
    | ok kept => exact ⟨unknown p.handle, by simp only [changeRegisters, change, missing]⟩
  | write value bits => exact ⟨unknown p.handle, serve_of_missing missing _⟩
  | declareUptime | failWrite passing | failReads failing =>
    exact ⟨unknown p.handle, by
      simp only [access, declareUptime, failWrite, failReads, changeRegisters, change, missing]⟩

/-- An access to another register leaves this one as it is. -/
theorem agrees_access (other : p ≠ q) (s : Simulation) (x : Access) :
    match s.node? p.handle with
    | none => (s.access q x).2.node? p.handle = none
    | some n => ∃ rs, (s.access q x).2.node? p.handle = some { n with registers := rs } ∧
        n.registers.Agrees rs p.address := by
  cases found : s.node? q.handle with
  | none =>
    obtain ⟨fault, refused⟩ := access_of_missing found x
    rw [refused]
    cases s.node? p.handle with
    | none => rfl
    | some n => exact ⟨n.registers, rfl, rfl, rfl, rfl⟩
  | some m =>
    rw [access_of_node found]
    by_cases same : q.handle = p.handle
    · have apart : p.address ≠ q.address := fun eq => other (by cases p; cases q; simp_all)
      rw [← same, found]
      exact ⟨_, node?_putNode found _, Registers.access_agrees apart _ x⟩
    · rw [node?_putNode_of_ne same]
      cases s.node? p.handle with
      | none => rfl
      | some n => exact ⟨n.registers, rfl, rfl, rfl, rfl⟩

theorem read_access_of_ne (other : p ≠ q) (s : Simulation) (x : Access) :
    (s.access q x).2.read p.handle p.address = s.read p.handle p.address := by
  have agrees := agrees_access other s x
  unfold read
  cases node : s.node? p.handle with
  | none =>
    rw [node] at agrees
    rw [show (s.access q x).2.node? p.handle = none from agrees]
  | some n =>
    rw [node] at agrees
    obtain ⟨rs, after, agrees⟩ := agrees
    rw [after]
    exact agrees.read _

/-- A write that fails changes nothing that can be read. -/
theorem read_of_failedWrite {value : Int} {bits : Nat} {fault : DeviceFault}
    (failed : (s.access p (.write value bits)).1 = .error fault) (q : Register) :
    (s.access p (.write value bits)).2.read q.handle q.address = s.read q.handle q.address := by
  cases node : s.node? p.handle with
  | none =>
    obtain ⟨_, refused⟩ := access_of_missing node (.write value bits)
    rw [refused]
  | some n =>
    rw [access_of_node node] at failed ⊢
    obtain ⟨passing, written⟩ := Registers.write_of_error failed
    have registers : (n.registers.access p.address (.write value bits)).2 =
        { n.registers with passing := passing } := written
    rw [registers, read, read]
    by_cases same : p.handle = q.handle
    · rw [← same, node?_putNode node, node]
      rfl
    · rw [node?_putNode_of_ne same]

/-! ## Histories -/

/-- The access that an event is, if it is one. -/
def Event.access? : Event → Option (Register × Access)
  | .request h (.write a value bits) => some (⟨h, a⟩, .write value bits)
  | .befall (.declare h a bits value) => some (⟨h, a⟩, .declare bits value)
  | .befall (.declareUptime h a) => some (⟨h, a⟩, .declareUptime)
  | .befall (.write h a value bits) => some (⟨h, a⟩, .write value bits)
  | .befall (.failWrite h a passing) => some (⟨h, a⟩, .failWrite passing)
  | .befall (.failReads h a failing) => some (⟨h, a⟩, .failReads failing)
  | _ => none

/-- The event attempts a write to a register. -/
def Event.isWriteTo (p : Register) (event : Event) : Bool :=
  match event.access? with
  | some (q, .write _ _) => q = p
  | _ => false

theorem Event.occur_of_access {event : Event} {x : Access} (accesses : event.access? = some (q, x))
    (s : Simulation) : event.occur s = (s.access q x).2 := by
  -- a register is written alike by a request and by anybody else
  have written : ∀ h a value bits,
      (s.answer h (.write a value bits)).2 = (s.serve h (.write a value bits)).2 := by
    intro h a value bits
    cases node : s.node? h with
    | none =>
      rw [serve_of_missing node]
      simp only [answer, node]
    | some n =>
      rw [serve_of_node node]
      simp only [answer, node]
      rfl
  cases event with
  | request h r =>
    cases r <;> cases accesses
    rfl
  | tick h => cases accesses
  | befall incident =>
    cases incident with
    | write h a value bits =>
      cases accesses
      exact written h a value bits
    | _ => cases accesses <;> rfl

/-- Any other event leaves the registers alone. -/
theorem remains_occur {event : Event} (other : event.access? = none) (s : Simulation) (h : Handle) :
    Remains h s (event.occur s) := by
  cases event with
  | request own r =>
    refine remains_serve ?_ s h
    rintro a value bits rfl
    cases other
  | tick own => exact remains_tick s own h
  | befall incident =>
    cases node : s.node? h with
    | none =>
      rw [Remains, node]
      exact occur_of_missing node incident
    | some n =>
      rw [Remains, node]
      cases incident with
      | pass => exact ⟨_, (advance_node node).1, n.registers_pass⟩
      | connect => exact ⟨n, node?_connect_of_some node, rfl⟩
      | failStart own =>
        refine ⟨_, node?_change node own _, ?_⟩
        split <;> rfl
      | _ => cases other

/-- Simulated devices, with the account of a register. -/
structure Ledger where
  simulation : Simulation
  account : Account

namespace Ledger

/-- An event happens, and is noted if it is an access to the register. -/
def next (p : Register) (l : Ledger) (event : Event) : Ledger where
  simulation := event.occur l.simulation
  account :=
    match event.access? with
    | some (q, x) => if q = p then l.account.note x (l.simulation.access q x).1 else l.account
    | none => l.account

/-- The ledger of a history that begins without a device. -/
def after (p : Register) (events : List Event) : Ledger :=
  events.foldl (next p) ⟨.empty, .fresh⟩

/-- The account tells how the register stands, and nothing is known of a register without a device. -/
structure Holds (p : Register) (l : Ledger) : Prop where
  missing : l.simulation.node? p.handle = none → l.account = .fresh
  describes : ∀ n, l.simulation.node? p.handle = some n → l.account.Describes n.registers p.address

variable {l : Ledger}

theorem Holds.access (holds : l.Holds p) {event : Event} {x : Access}
    (accesses : event.access? = some (p, x)) : (l.next p event).Holds p := by
  have account : (l.next p event).account = l.account.note x (l.simulation.access p x).1 := by
    rw [next, accesses]
    exact if_pos rfl
  have simulation : (l.next p event).simulation = (l.simulation.access p x).2 :=
    event.occur_of_access accesses l.simulation
  cases node : l.simulation.node? p.handle with
  | none =>
    obtain ⟨fault, refused⟩ := access_of_missing node x
    rw [refused] at account simulation
    refine ⟨fun _ => ?_, fun n found => ?_⟩
    · rw [account, holds.missing node]
      cases x <;> rfl
    · rw [simulation, node] at found
      cases found
  | some n =>
    rw [access_of_node node] at account simulation
    dsimp only at account simulation
    have after := node?_putNode node { n with registers := (n.registers.access p.address x).2 }
    rw [← simulation] at after
    refine ⟨fun none => ?_, fun n' found => ?_⟩
    · cases after.symm.trans none
    · obtain rfl := Option.some.inj (after.symm.trans found)
      rw [account]
      exact (holds.describes n node).access x

theorem Holds.access_of_ne (holds : l.Holds p) {event : Event} {x : Access}
    (accesses : event.access? = some (q, x)) (other : p ≠ q) : (l.next p event).Holds p := by
  have account : (l.next p event).account = l.account := by
    rw [next, accesses]
    exact if_neg (Ne.symm other)
  have agrees := agrees_access other l.simulation x
  rw [← event.occur_of_access accesses l.simulation] at agrees
  cases node : l.simulation.node? p.handle with
  | none =>
    rw [node] at agrees
    refine ⟨fun _ => account.trans (holds.missing node), fun n found => ?_⟩
    cases agrees.symm.trans found
  | some n =>
    rw [node] at agrees
    obtain ⟨rs, after, agrees⟩ := agrees
    refine ⟨fun none => ?_, fun n' found => ?_⟩
    · cases after.symm.trans none
    · obtain rfl := Option.some.inj (after.symm.trans found)
      rw [account]
      exact (holds.describes n node).agrees agrees

theorem Holds.remains (holds : l.Holds p) {event : Event} (other : event.access? = none) :
    (l.next p event).Holds p := by
  have account : (l.next p event).account = l.account := by rw [next, other]
  have remains := remains_occur other l.simulation p.handle
  cases node : l.simulation.node? p.handle with
  | none =>
    rw [Remains, node] at remains
    have nothing := account.trans (holds.missing node)
    refine ⟨fun _ => nothing, fun n found => ?_⟩
    obtain still | new := remains
    · cases still.symm.trans found
    · obtain rfl := Option.some.inj (new.symm.trans found)
      rw [nothing]
      exact Account.describes_fresh p.address
  | some n =>
    rw [Remains, node] at remains
    obtain ⟨n', after, same⟩ := remains
    refine ⟨fun none => ?_, fun n'' found => ?_⟩
    · cases after.symm.trans none
    · obtain rfl := Option.some.inj (after.symm.trans found)
      rw [account, same]
      exact holds.describes n node

/-- The account tells how the register stands, behind any events. -/
theorem holds_after (p : Register) (events : List Event) : (after p events).Holds p := by
  have start : Holds p ⟨.empty, .fresh⟩ := ⟨fun _ => rfl, fun n node => by cases node⟩
  unfold after
  generalize (⟨.empty, .fresh⟩ : Ledger) = l at start ⊢
  -- by induction on the events
  induction events generalizing l with
  | nil => exact start
  | cons event rest ih =>
    refine ih (l.next p event) ?_
    rcases accesses : event.access? with _ | ⟨q, x⟩
    · exact start.remains accesses
    · by_cases own : p = q
      · subst own
        exact start.access accesses
      · exact start.access_of_ne accesses own

/-! ## Injected faults -/

/-- Every attempt to write is counted, whatever is answered; nothing but a new fault starts the count anew. -/
theorem fault_next {event : Event} {passing attempts : Nat}
    (fault : l.account.fault = some (passing, attempts))
    (calm : ∀ n, event.access? ≠ some (p, .failWrite n)) :
    (l.next p event).account.fault =
      some (passing, attempts + if event.isWriteTo p then 1 else 0) := by
  unfold next Event.isWriteTo
  rcases accesses : event.access? with _ | ⟨q, x⟩
  · exact fault
  by_cases own : q = p
  swap
  · simp only [if_neg own]
    cases x <;> simp [own, fault]
  subst own
  simp only [if_pos]
  generalize (l.simulation.access q x).1 = result
  cases x with
  | failWrite n => exact absurd accesses (calm n)
  | write value bits => cases result <;> simp [Account.note, Account.attempt, fault]
  | declare bits value => cases result <;> simp [Account.note, fault]
  | declareUptime => cases result <;> simp [Account.note, fault]
  | failReads failing => cases result <;> simp [Account.note, fault]

theorem fault_foldl {passing attempts : Nat} (events : List Event)
    (fault : l.account.fault = some (passing, attempts))
    (calm : ∀ event ∈ events, ∀ n, event.access? ≠ some (p, .failWrite n)) :
    (events.foldl (next p) l).account.fault = some (passing, attempts + events.countP (·.isWriteTo p)) := by
  induction events generalizing l attempts with
  | nil => exact fault
  | cons event rest ih =>
    obtain ⟨first, others⟩ := List.forall_mem_cons.1 calm
    rw [List.foldl_cons, ih (fault_next fault first) others, List.countP_cons]
    congr 2
    omega

/-- Behind an injected fault the account holds the attempts made since. -/
theorem fault_behind {before after : List Event} {passing : Nat}
    (present : (Ledger.after p before).simulation.node? p.handle ≠ none)
    (calm : ∀ event ∈ after, ∀ n, event.access? ≠ some (p, .failWrite n)) :
    (Ledger.after p (before ++ .befall (.failWrite p.handle p.address passing) :: after)).account.fault =
      some (passing, after.countP (·.isWriteTo p)) := by
  obtain ⟨n, node⟩ := Option.ne_none_iff_exists'.1 present
  have injected : ((Ledger.after p before).next p
      (.befall (.failWrite p.handle p.address passing))).account.fault = some (passing, 0) := by
    have granted : ((Ledger.after p before).simulation.access p (.failWrite passing)).1 = .ok () := by
      rw [access_of_node node]
      rfl
    simp only [next, Event.access?, granted, if_pos]
    rfl
  have counted := fault_foldl after injected calm
  rw [Nat.zero_add] at counted
  rw [← counted, Ledger.after, List.foldl_append, List.foldl_cons]
  rfl

end Ledger

/-- **A register answers by its account.** Behind any events, a read gives what the last successful declaration or
write of that very register has left of its value, and a write is refused for the reasons of the account. A write
that fails changes nothing that can be read, and an access to another register changes nothing about this one.
An injected fault meets the write before which as many were attempted as it lets pass, and no other. -/
theorem answers_by_account (p : Register) (events : List Event) :
    let l := Ledger.after p events
    let s := l.simulation
    s.read p.handle p.address = (match s.node? p.handle with
        | none => .error (unknown p.handle)
        | some n => l.account.reading p.address (n.age / 1000)) ∧
      (∀ value bits, (s.access p (.write value bits)).1 = match s.node? p.handle with
        | none => .error (unknown p.handle)
        | some _ => l.account.answer p.address bits) ∧
      (∀ value bits fault, (s.access p (.write value bits)).1 = .error fault → ∀ q : Register,
        (s.access p (.write value bits)).2.read q.handle q.address = s.read q.handle q.address) ∧
      (∀ q x, p ≠ q → (s.access q x).2.read p.handle p.address = s.read p.handle p.address) ∧
      ∀ before passing after, events = before ++ .befall (.failWrite p.handle p.address passing) :: after →
        (Ledger.after p before).simulation.node? p.handle ≠ none →
        (∀ event ∈ after, ∀ n, event.access? ≠ some (p, .failWrite n)) →
        ∀ value bits, (s.access p (.write value bits)).1 =
          if after.countP (·.isWriteTo p) = passing then .error (Registers.unanswered p.address)
          else l.account.usual p.address bits := by
  intro l s
  have holds : l.Holds p := Ledger.holds_after p events
  have written : ∀ value bits, (s.access p (.write value bits)).1 = match s.node? p.handle with
      | none => .error (unknown p.handle)
      | some _ => l.account.answer p.address bits := by
    intro value bits
    cases node : s.node? p.handle with
    | none => exact congrArg Prod.fst (serve_of_missing node _)
    | some n =>
      rw [access_of_node node]
      exact (holds.describes n node).write value bits
  refine ⟨?_, written, fun value bits fault failed q => read_of_failedWrite failed q,
    fun q x other => read_access_of_ne other s x, ?_⟩
  · unfold read
    cases node : s.node? p.handle with
    | none => rfl
    | some n => exact (holds.describes n node).read _
  · intro before passing after split present calm value bits
    have fault : l.account.fault = some (passing, after.countP (·.isWriteTo p)) := by
      simp only [l, split]
      exact Ledger.fault_behind present calm
    rw [written value bits]
    cases node : s.node? p.handle with
    | none =>
      rw [holds.missing node] at fault
      cases fault
    | some n =>
      have due : l.account.isDue = true ↔ after.countP (·.isWriteTo p) = passing := by
        rw [Account.isDue, fault, Option.any_some, beq_iff_eq, eq_comm]
      simp only [Account.answer, due]

/-- A register that was declared with 32 bits and written with 8. A fault that lets one write pass has seen
one, so the next write meets it. -/
theorem answers_of_faultyRegister :
    let p : Register := ⟨⟨0⟩, ⟨0x2400, 1⟩⟩
    let before : List Event := [.befall .connect, .befall (.declare ⟨0⟩ ⟨0x2400, 1⟩ 32 5)]
    let after : List Event := [.request ⟨0⟩ (.write ⟨0x2400, 1⟩ 0x1FF 8)]
    let events := before ++ .befall (.failWrite ⟨0⟩ ⟨0x2400, 1⟩ 1) :: after
    let s := (Ledger.after p events).simulation
    let failed := s.access p (.write 7 32)
    s.read ⟨0⟩ ⟨0x2400, 1⟩ = .ok (-1) ∧ failed.1 = .error (Registers.unanswered ⟨0x2400, 1⟩) ∧
      failed.2.read ⟨0⟩ ⟨0x2400, 1⟩ = .ok (-1) := by
  intro p before after events s failed
  obtain ⟨reads, -, spares, -, counts⟩ := answers_by_account p events
  have account : (Ledger.after p events).account = ⟨some (.value 0x1FF 8), false, some (1, 1)⟩ := by decide
  have present : (s.node? p.handle).isSome = true := by decide
  obtain ⟨n, node⟩ := Option.isSome_iff_exists.1 present
  rw [show (Ledger.after p events).simulation.node? p.handle = some n from node, account] at reads
  have fails := counts before 1 after rfl (by decide) (by simp [after, Event.access?]) 7 32
  rw [if_pos (by decide)] at fails
  exact ⟨reads, fails, (spares 7 32 _ fails p).trans reads⟩

end Simulation

end TriggeredSampler
