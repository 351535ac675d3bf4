import TriggeredSampler.Address
import TriggeredSampler.Failure

/-! # The registers of a simulated device

Registers must be declared before they can be read or written. A stored register keeps the low bits
of what was written, in the width of the write, and reads back as a signed number of that width.
Reads of an address can be made to fail, and so can one of the next writes to it.

* `Registers.read`, `Registers.write` — access.
* `Registers.declare`, `Registers.declareUptime` — declaration.
* `Registers.failReads`, `Registers.failWrite` — injected faults.
-/

namespace TriggeredSampler

/-- What stands at a declared address. -/
inductive Cell where
  /-- The value last written, as a signed number of its width. -/
  | stored (value : Int)
  /-- The whole seconds since the device was connected; read only. -/
  | uptime
deriving DecidableEq

/-- The registers of one device, with the faults injected into them. -/
structure Registers where
  cells : Address → Option Cell
  /-- The addresses that cannot be read. -/
  mute : Address → Bool
  /-- The number of writes that still pass before the one that fails. -/
  passing : Address → Option Nat

namespace Registers

/-- No register is declared. -/
def empty : Registers := ⟨fun _ => none, fun _ => false, fun _ => none⟩

/-- The map that differs from `f` at `a` only. -/
def put {α : Type} (f : Address → α) (a : Address) (x : α) : Address → α :=
  fun b => if b = a then x else f b

/-- The fault of an address that does not exist. -/
def missing (a : Address) : DeviceFault :=
  ⟨.addressNotFound, 0x06020000, "object " ++ a.text ++ " does not exist"⟩

/-- The low `bits` of a value as a signed number. Only four widths are supported. -/
def narrow (value : Int) (bits : Nat) : Except DeviceFault Int :=
  if bits = 8 ∨ bits = 16 ∨ bits = 32 ∨ bits = 64 then .ok (value.bmod (Nat.pow 2 bits))
  else .error ⟨.invalidArguments, 0, "unsupported bit length " ++ toString bits⟩

/-- Reads an address, `uptime` seconds after the device was connected. -/
def read (rs : Registers) (uptime : Nat) (a : Address) : Except DeviceFault Int :=
  if rs.mute a then .error ⟨.timeout, 0, "no response reading " ++ a.text⟩
  else
    match rs.cells a with
    | some (.stored value) => .ok value
    | some .uptime => .ok uptime
    | none => .error (missing a)

/-- Writes to a declared address that may be written. -/
def store (rs : Registers) (a : Address) (value : Int) (bits : Nat) :
    Except DeviceFault Unit × Registers :=
  match rs.cells a with
  | none => (.error (missing a), rs)
  | some .uptime => (.error ⟨.invalidArguments, 0, a.text ++ " is read only"⟩, rs)
  | some (.stored _) =>
    match narrow value bits with
    | .error fault => (.error fault, rs)
    | .ok kept => (.ok (), { rs with cells := put rs.cells a (some (.stored kept)) })

/-- Writes to an address. An injected fault comes before everything else, and is used up by the
write that it fails. -/
def write (rs : Registers) (a : Address) (value : Int) (bits : Nat) :
    Except DeviceFault Unit × Registers :=
  match rs.passing a with
  | some 0 =>
    (.error ⟨.timeout, 0, "no response writing " ++ a.text⟩,
      { rs with passing := put rs.passing a none })
  | some (left + 1) => { rs with passing := put rs.passing a (some left) }.store a value bits
  | none => rs.store a value bits

/-- Declares a register that holds `kept`. -/
def declare (rs : Registers) (a : Address) (kept : Int) : Registers :=
  { rs with cells := put rs.cells a (some (.stored kept)) }

/-- Declares the register of the seconds since the device was connected. -/
def declareUptime (rs : Registers) (a : Address) : Registers :=
  { rs with cells := put rs.cells a (some .uptime) }

/-- Lets `passing` more writes to `a` pass and fails the one after them. -/
def failWrite (rs : Registers) (a : Address) (passing : Nat) : Registers :=
  { rs with passing := put rs.passing a (some passing) }

/-- Makes all reads of `a` fail, or lets them succeed again. -/
def failReads (rs : Registers) (a : Address) (failing : Bool) : Registers :=
  { rs with mute := put rs.mute a failing }

end Registers

end TriggeredSampler
