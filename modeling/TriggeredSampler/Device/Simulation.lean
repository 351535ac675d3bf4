import TriggeredSampler.Device.Node

/-! # A set of simulated devices

The devices of a `Simulation` are numbered in the order of their connection.

* `Simulation.connect` — connects a further device.
* `Simulation.device` — the behaviour of the set.
* `Simulation.declare`, `Simulation.failWrite`, ... — registers and injected faults.
-/

namespace TriggeredSampler

/-- Simulated devices, in the order of their connection. -/
structure Simulation where
  nodes : List Node

namespace Simulation

/-- No device is connected. -/
def empty : Simulation := ⟨[]⟩

/-- Connects a further device. -/
def connect (s : Simulation) : Handle × Simulation :=
  (⟨s.nodes.length⟩, ⟨s.nodes ++ [.fresh]⟩)

/-- The fault of a handle that no device has. -/
def unknown (h : Handle) : DeviceFault :=
  ⟨.invalidHandle, 0, "no device " ++ h.text⟩

/-- The device of a handle. -/
def node? (s : Simulation) (h : Handle) : Option Node := s.nodes[h.id]?

/-- Replaces the device of a handle. -/
def putNode (s : Simulation) (h : Handle) (n : Node) : Simulation :=
  ⟨s.nodes.set h.id n⟩

/-- The answer about a handle that no device has. -/
def refuse (h : Handle) : (r : Request) → r.Answer
  | .write .. => .error (unknown h)
  | .configure .. => .error (unknown h)
  | .configuration => .error (unknown h)
  | .start .. => .error (unknown h)
  | .stop => .error (unknown h)
  | .phase => .error (unknown h)
  | .data => .error (unknown h)
  | .fault => some (unknown h)

/-- A configuration is checked before its handle. -/
def refuseFirst (h : Handle) (r : Request) : r.Answer :=
  match r with
  | .configure c =>
    match c.validate with
    | .error defect => .error (.ofDefect defect)
    | .ok () => .error (unknown h)
  | r => refuse h r

/-- What a request raises before it is answered. -/
def announce (h : Handle) (r : Request) (s : Simulation) : List Report × Simulation :=
  match s.node? h with
  | none => ([], s)
  | some n =>
    let (reports, n) := n.announce r
    (reports, s.putNode h n)

/-- The answer to a request, which may find no thread for a worker. -/
def answer (h : Handle) (r : Request) (s : Simulation) (refusal : Option String := none) :
    r.Answer × Simulation :=
  match s.node? h with
  | none => (refuseFirst h r, s)
  | some n =>
    let (result, n) := n.answer r refusal
    (result, s.putNode h n)

/-- A millisecond passes for the devices from the handle `id` on. -/
def passFrom : (id : Nat) → List Node → List (Handle × Report) × List Node
  | _, [] => ([], [])
  | id, n :: rest =>
    let (reports, n) := n.pass
    let (more, rest) := passFrom (id + 1) rest
    (reports.map (Prod.mk ⟨id⟩) ++ more, n :: rest)

/-- A millisecond passes. -/
def advance (s : Simulation) : List (Handle × Report) × Simulation :=
  let (reports, nodes) := passFrom 0 s.nodes
  (reports, ⟨nodes⟩)

/-- The behaviour of simulated devices, while the system creates every thread or refuses all of them for
the given reason. It does not depend on whether reports are heard, and a refused start drops its sender. -/
def device (refusal : Option String := none) : Device Simulation where
  announce := announce
  answer h r s := answer h r s refusal
  sent _ _ _ s := s
  advance := advance
  holdsOn _ _ := false

/-! ## Registers and injected faults -/

/-- Changes the device of a handle. -/
def change (s : Simulation) (h : Handle) (f : Node → Node) : Except DeviceFault Unit × Simulation :=
  match s.node? h with
  | none => (.error (unknown h), s)
  | some n => (.ok (), s.putNode h (f n))

/-- Changes the registers of a device. -/
def changeRegisters (s : Simulation) (h : Handle) (f : Registers → Registers) :
    Except DeviceFault Unit × Simulation :=
  s.change h fun n => { n with registers := f n.registers }

/-- Declares a register of `bits` bits that holds `value`. The width is checked before the handle. -/
def declare (s : Simulation) (h : Handle) (a : Address) (bits : Nat) (value : Int) :
    Except DeviceFault Unit × Simulation :=
  match Registers.narrow value bits with
  | .error fault => (.error fault, s)
  | .ok kept => s.changeRegisters h (·.declare a kept)

/-- Declares the register of the seconds since a device was connected. -/
def declareUptime (s : Simulation) (h : Handle) (a : Address) :
    Except DeviceFault Unit × Simulation :=
  s.changeRegisters h (·.declareUptime a)

/-- Lets `passing` more writes pass and fails the one after them. -/
def failWrite (s : Simulation) (h : Handle) (a : Address) (passing : Nat) :
    Except DeviceFault Unit × Simulation :=
  s.changeRegisters h (·.failWrite a passing)

/-- Makes all reads of an address fail, or lets them succeed again. -/
def failReads (s : Simulation) (h : Handle) (a : Address) (failing : Bool) :
    Except DeviceFault Unit × Simulation :=
  s.changeRegisters h (·.failReads a failing)

/-- Makes the next start fail. -/
def failStart (s : Simulation) (h : Handle) : Except DeviceFault Unit × Simulation :=
  s.change h fun n => { n with failsStart := true }

/-- Reads an address. -/
def read (s : Simulation) (h : Handle) (a : Address) : Except DeviceFault Int :=
  match s.node? h with
  | none => .error (unknown h)
  | some n => n.read a

end Simulation

end TriggeredSampler
