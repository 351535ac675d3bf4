import Mathlib.Algebra.Group.Nat.Defs
import TriggeredSampler.Device.Registers

/-! # What a register remembers

An `Account` tells about one register what its owner can know: what was last put into it, whether its reads
fail, and how many writes were attempted since a fault was injected. It is kept from the accesses and their
answers alone; nothing else decides what the register answers next.

* `Registers.extended` — the value that a register of some width reads back as.
* `Account.note` — an account behind an access and its answer.
* `Account.Describes.access` — accesses keep the account true.
* `Account.Describes.read`, `Account.Describes.write` — what is answered, from the account.
* `Registers.write_of_error`, `Registers.access_agrees` — what no access changes.
-/

namespace TriggeredSampler

namespace Registers

/-! ## Widths -/

/-- The widths that a register can have. -/
def isWidth (bits : Nat) : Bool := [8, 16, 32, 64].contains bits

/-- The low `bits` of a value, extended by their sign to 64 bits. -/
def extended (value : Int) (bits : Nat) : Int :=
  (((BitVec.ofInt 64 value).setWidth bits).signExtend 64).toInt

theorem extended_eq {bits : Nat} (fits : bits ≤ 64) (value : Int) :
    extended value bits = value.bmod (2 ^ bits) := by
  -- what stands above the low bits is a multiple of their range
  have multiple : ((2 ^ bits : Nat) : Int) ∣ ((2 ^ 64 : Nat) : Int) :=
    Int.natCast_dvd_natCast.2 (Nat.pow_dvd_pow 2 fits)
  have positive : 0 ≤ value % ((2 ^ 64 : Nat) : Int) := Int.emod_nonneg value (by decide)
  rw [extended, BitVec.toInt_signExtend_of_le fits, BitVec.toInt_setWidth, BitVec.toNat_ofInt,
    Int.toNat_of_nonneg positive, ← Int.emod_bmod, Int.emod_emod_of_dvd value multiple, Int.emod_bmod]

/-- The fault of a width that no register can have. -/
def unsupported (bits : Nat) : DeviceFault :=
  ⟨.invalidArguments, 0, "unsupported bit length " ++ toString bits⟩

theorem narrow_eq (value : Int) (bits : Nat) :
    narrow value bits = if isWidth bits then .ok (extended value bits) else .error (unsupported bits) := by
  have widths : isWidth bits = true ↔ bits = 8 ∨ bits = 16 ∨ bits = 32 ∨ bits = 64 := by
    simp [isWidth]
  unfold narrow
  by_cases width : isWidth bits = true
  · have fits : bits ≤ 64 := by
      have := widths.1 width
      omega
    rw [if_pos (widths.1 width), if_pos width, extended_eq fits]
    rfl
  · rw [if_neg (mt widths.2 width), if_neg width]
    rfl

/-! ## Accesses -/

theorem put_self {α : Type} (f : Address → α) (a : Address) (x : α) : put f a x a = x := if_pos rfl

theorem put_of_ne {α : Type} {a b : Address} (other : b ≠ a) (f : Address → α) (x : α) : put f a x b = f b :=
  if_neg other

/-- The fault of a write that meets an injected one. -/
def unanswered (a : Address) : DeviceFault :=
  ⟨.timeout, 0, "no response writing " ++ a.text⟩

/-- An injected fault lets one write less pass. -/
def countDown (rs : Registers) (a : Address) : Registers :=
  { rs with passing := put rs.passing a ((rs.passing a).map (· - 1)) }

@[simp] theorem countDown_cells (rs : Registers) (a : Address) : (rs.countDown a).cells = rs.cells := rfl

@[simp] theorem countDown_mute (rs : Registers) (a : Address) : (rs.countDown a).mute = rs.mute := rfl

theorem write_eq (rs : Registers) (a : Address) (value : Int) (bits : Nat) :
    rs.write a value bits =
      if rs.passing a = some 0 then (.error (unanswered a), { rs with passing := put rs.passing a none })
      else (rs.countDown a).store a value bits := by
  unfold write
  split
  next due =>
    rw [if_pos due]
    rfl
  next left going =>
    rw [if_neg (by simp [going]), countDown, going]
    rfl
  next calm =>
    have same : put rs.passing a none = rs.passing := by
      funext b
      unfold put
      split
      next own => rw [own, calm]
      next => rfl
    rw [if_neg (by simp [calm]), countDown, calm, Option.map_none, same]

/-- A write that meets no fault stores the value, or is refused and changes nothing. -/
theorem store_cases (rs : Registers) (a : Address) (value : Int) (bits : Nat) :
    (∃ fault, rs.store a value bits = (.error fault, rs)) ∨
      rs.store a value bits = (.ok (), rs.declare a (extended value bits)) := by
  unfold store
  split
  next => exact .inl ⟨_, rfl⟩
  next => exact .inl ⟨_, rfl⟩
  next =>
    rw [narrow_eq]
    by_cases width : isWidth bits = true
    · rw [if_pos width]
      exact .inr rfl
    · rw [if_neg width]
      exact .inl ⟨_, rfl⟩

end Registers

/-- What is done to a register, apart from reading it. -/
inductive Access where
  | declare (bits : Nat) (value : Int)
  | declareUptime
  | write (value : Int) (bits : Nat)
  | failWrite (passing : Nat)
  | failReads (failing : Bool)

/-- Accesses the register at an address. -/
def Registers.access (rs : Registers) (a : Address) : Access → Except DeviceFault Unit × Registers
  | .declare bits value =>
    match narrow value bits with
    | .error fault => (.error fault, rs)
    | .ok kept => (.ok (), rs.declare a kept)
  | .declareUptime => (.ok (), rs.declareUptime a)
  | .write value bits => rs.write a value bits
  | .failWrite passing => (.ok (), rs.failWrite a passing)
  | .failReads failing => (.ok (), rs.failReads a failing)

namespace Registers

variable {rs rs' : Registers} {a b : Address}

/-- A write that fails, for whatever reason, does no more than count an injected fault down. -/
theorem write_of_error {value : Int} {bits : Nat} {fault : DeviceFault}
    (failed : (rs.write a value bits).1 = .error fault) :
    ∃ passing, (rs.write a value bits).2 = { rs with passing := passing } := by
  rw [write_eq] at failed ⊢
  split at failed
  next due =>
    rw [if_pos due]
    exact ⟨_, rfl⟩
  next calm =>
    rw [if_neg calm]
    obtain ⟨_, refused⟩ | stored := (rs.countDown a).store_cases a value bits
    · exact ⟨_, congrArg Prod.snd refused⟩
    · rw [stored] at failed
      cases failed

/-- A stored register that can be read, and that takes the next `writes` writes. -/
structure Takes (rs : Registers) (a : Address) (writes : Nat) : Prop where
  stored : ∃ value, rs.cells a = some (.stored value)
  audible : rs.mute a = false
  calm : ∀ left, rs.passing a = some left → writes ≤ left

/-- What is written is read back, in the width of the write. -/
theorem Takes.write {writes : Nat} (takes : rs.Takes a (writes + 1)) (value : Int) {bits : Nat}
    (width : isWidth bits = true) :
    (rs.write a value bits).1 = .ok () ∧ (rs.write a value bits).2.Takes a writes ∧
      ∀ uptime, (rs.write a value bits).2.read uptime a = .ok (extended value bits) := by
  obtain ⟨before, stored⟩ := takes.stored
  have calm : ¬rs.passing a = some 0 := fun due => Nat.not_succ_le_zero _ (takes.calm 0 due)
  have written : rs.write a value bits =
      (.ok (), (rs.countDown a).declare a (extended value bits)) := by
    rw [write_eq, if_neg calm]
    unfold store
    simp only [countDown_cells, stored, narrow_eq, if_pos width]
    rfl
  rw [written]
  refine ⟨rfl, ⟨⟨_, put_self ..⟩, takes.audible, fun left passing => ?_⟩, fun uptime => ?_⟩
  · obtain ⟨more, passing', rfl⟩ := Option.map_eq_some_iff.1 ((put_self ..).symm.trans passing)
    have := takes.calm more passing'
    omega
  · simp [read, declare, put, takes.audible]

/-- Two sets of registers do not differ at an address. -/
structure Agrees (rs rs' : Registers) (b : Address) : Prop where
  cells : rs'.cells b = rs.cells b
  mute : rs'.mute b = rs.mute b
  passing : rs'.passing b = rs.passing b

theorem Agrees.read (agrees : rs.Agrees rs' b) (uptime : Nat) : rs'.read uptime b = rs.read uptime b := by
  unfold Registers.read
  rw [agrees.cells, agrees.mute]

theorem store_agrees (other : b ≠ a) (rs : Registers) (value : Int) (bits : Nat) :
    rs.Agrees (rs.store a value bits).2 b := by
  obtain ⟨_, refused⟩ | stored := rs.store_cases a value bits
  · rw [refused]
    exact ⟨rfl, rfl, rfl⟩
  · rw [stored]
    exact ⟨put_of_ne other _ _, rfl, rfl⟩

/-- No access reaches another address. -/
theorem access_agrees (other : b ≠ a) (rs : Registers) (x : Access) : rs.Agrees (rs.access a x).2 b := by
  cases x with
  | declare bits value =>
    simp only [access]
    split
    · exact ⟨rfl, rfl, rfl⟩
    · exact ⟨put_of_ne other _ _, rfl, rfl⟩
  | declareUptime => exact ⟨put_of_ne other _ _, rfl, rfl⟩
  | write value bits =>
    simp only [access, write_eq]
    split
    · exact ⟨rfl, rfl, put_of_ne other _ _⟩
    · obtain ⟨cells, mute, passing⟩ := store_agrees other (rs.countDown a) value bits
      exact ⟨cells, mute, passing.trans (put_of_ne other _ _)⟩
  | failWrite passing => exact ⟨rfl, rfl, put_of_ne other _ _⟩
  | failReads failing => exact ⟨rfl, put_of_ne other _ _, rfl⟩

end Registers

/-- What was put into a register. -/
inductive Content where
  /-- A value, in the width of the declaration or of the write that brought it. -/
  | value (given : Int) (bits : Nat)
  /-- The seconds since the device was connected. -/
  | uptime
deriving DecidableEq

/-- What is known of a register from its accesses and their answers. -/
structure Account where
  /-- What the last successful declaration or write put into it. -/
  content : Option Content
  /-- Its reads are made to fail. -/
  failing : Bool
  /-- The number of writes that the last injected fault lets pass, and of those attempted since. -/
  fault : Option (Nat × Nat)
deriving DecidableEq

namespace Account

/-- Nothing was done to the register. -/
def fresh : Account := ⟨none, false, none⟩

/-- A write was attempted. -/
def attempt (account : Account) : Account :=
  { account with fault := account.fault.map fun fault => (fault.1, fault.2 + 1) }

/-- Notes an access and its answer. -/
def note (account : Account) (x : Access) (result : Except DeviceFault Unit) : Account :=
  match x, result with
  | .declare bits value, .ok () => { account with content := some (.value value bits) }
  | .declareUptime, .ok () => { account with content := some .uptime }
  | .write value bits, .ok () => { account.attempt with content := some (.value value bits) }
  | .write _ _, .error _ => account.attempt
  | .failWrite passing, .ok () => { account with fault := some (passing, 0) }
  | .failReads failing, .ok () => { account with failing := failing }
  | _, .error _ => account

/-- The next write meets the injected fault: as many were attempted as it lets pass. -/
def isDue (account : Account) : Bool :=
  account.fault.any fun fault => fault.1 == fault.2

/-- The answer to a read, `uptime` seconds after the device was connected. -/
def reading (account : Account) (a : Address) (uptime : Nat) : Except DeviceFault Int :=
  if account.failing then .error ⟨.timeout, 0, "no response reading " ++ a.text⟩
  else
    match account.content with
    | none => .error (Registers.missing a)
    | some .uptime => .ok uptime
    | some (.value given bits) => .ok (Registers.extended given bits)

/-- The answer to a write that meets no injected fault. -/
def usual (account : Account) (a : Address) (bits : Nat) : Except DeviceFault Unit :=
  match account.content with
  | none => .error (Registers.missing a)
  | some .uptime => .error ⟨.invalidArguments, 0, a.text ++ " is read only"⟩
  | some (.value _ _) => if Registers.isWidth bits then .ok () else .error (Registers.unsupported bits)

/-- The answer to a write. -/
def answer (account : Account) (a : Address) (bits : Nat) : Except DeviceFault Unit :=
  if account.isDue then .error (Registers.unanswered a) else account.usual a bits

/-- The number of writes that still pass before the one that fails. -/
def remaining (account : Account) : Option Nat :=
  account.fault.bind fun fault => if fault.2 ≤ fault.1 then some (fault.1 - fault.2) else none

theorem remaining_eq_zero_iff (account : Account) : account.remaining = some 0 ↔ account.isDue = true := by
  unfold remaining isDue
  cases account.fault with
  | none => simp
  | some fault =>
    simp only [Option.bind_some, Option.any_some, beq_iff_eq]
    split <;> simp <;> omega

/-- Each attempt counts the fault down, and the one that meets it uses it up. -/
theorem remaining_attempt (account : Account) :
    account.attempt.remaining = if account.isDue then none else account.remaining.map (· - 1) := by
  unfold remaining isDue attempt
  rcases account.fault with _ | ⟨passing, attempts⟩
  · rfl
  simp only [Option.map_some, Option.bind_some, Option.any_some, beq_iff_eq]
  rcases Nat.lt_trichotomy attempts passing with before | rfl | behind
  · rw [if_pos (show attempts + 1 ≤ passing from before), if_neg (by omega), if_pos (by omega)]
    rfl
  · rw [if_neg (by omega), if_pos rfl]
  · rw [if_neg (by omega), if_neg (by omega), if_neg (by omega)]
    rfl

/-- The account tells how the register at an address stands. -/
structure Describes (account : Account) (rs : Registers) (a : Address) : Prop where
  cell : rs.cells a = account.content.map fun
    | .value given bits => .stored (Registers.extended given bits)
    | .uptime => .uptime
  mute : rs.mute a = account.failing
  passing : rs.passing a = account.remaining

variable {account : Account} {rs rs' : Registers} {a : Address}

theorem describes_fresh (a : Address) : fresh.Describes .empty a := ⟨rfl, rfl, rfl⟩

theorem Describes.agrees (describes : account.Describes rs a) (agrees : rs.Agrees rs' a) :
    account.Describes rs' a :=
  ⟨agrees.cells.trans describes.cell, agrees.mute.trans describes.mute, agrees.passing.trans describes.passing⟩

theorem Describes.read (describes : account.Describes rs a) (uptime : Nat) :
    rs.read uptime a = account.reading a uptime := by
  unfold Registers.read reading
  rw [describes.mute, describes.cell]
  rcases account.content with _ | ⟨_ | _⟩ <;> rfl

theorem Describes.store (describes : account.Describes rs a) (value : Int) (bits : Nat) :
    (rs.store a value bits).1 = account.usual a bits := by
  unfold Registers.store usual
  rw [describes.cell, Registers.narrow_eq]
  rcases account.content with _ | ⟨_ | _⟩
  · rfl
  · by_cases width : Registers.isWidth bits = true <;> simp [width]
  · rfl

theorem Describes.due_iff (describes : account.Describes rs a) :
    rs.passing a = some 0 ↔ account.isDue = true := by
  rw [describes.passing, remaining_eq_zero_iff]

/-- A write that does not meet the injected fault counts it down. -/
theorem Describes.attempt (describes : account.Describes rs a) (calm : ¬account.isDue = true) :
    account.attempt.Describes (rs.countDown a) a where
  cell := describes.cell
  mute := describes.mute
  passing := (Registers.put_self ..).trans (by rw [remaining_attempt, if_neg calm, describes.passing])

/-- What a write is answered follows from the account. -/
theorem Describes.write (describes : account.Describes rs a) (value : Int) (bits : Nat) :
    (rs.write a value bits).1 = account.answer a bits := by
  rw [Registers.write_eq, answer]
  simp only [describes.due_iff]
  split
  next => rfl
  next calm => exact (describes.attempt calm).store value bits

theorem Describes.note_write (describes : account.Describes rs a) (value : Int) (bits : Nat) :
    (account.note (.write value bits) (rs.write a value bits).1).Describes (rs.write a value bits).2 a := by
  simp only [Registers.write_eq, describes.due_iff]
  split
  next due =>
    refine ⟨describes.cell, describes.mute, (Registers.put_self ..).trans ?_⟩
    rw [note, remaining_attempt, if_pos due]
  next calm =>
    have counted := describes.attempt calm
    obtain ⟨fault, refused⟩ | stored := (rs.countDown a).store_cases a value bits
    · rw [refused]
      exact counted
    · rw [stored]
      exact ⟨Registers.put_self .., counted.mute, counted.passing⟩

/-- Accesses keep the account true. -/
theorem Describes.access (describes : account.Describes rs a) (x : Access) :
    (account.note x (rs.access a x).1).Describes (rs.access a x).2 a := by
  cases x with
  | declare bits value =>
    simp only [Registers.access, Registers.narrow_eq]
    by_cases width : Registers.isWidth bits = true
    · rw [if_pos width]
      exact ⟨Registers.put_self .., describes.mute, describes.passing⟩
    · rw [if_neg width]
      exact describes
  | declareUptime =>
    exact ⟨Registers.put_self .., describes.mute, describes.passing⟩
  | write value bits => exact describes.note_write value bits
  | failWrite passing =>
    exact ⟨describes.cell, describes.mute, Registers.put_self ..⟩
  | failReads failing =>
    exact ⟨describes.cell, Registers.put_self .., describes.passing⟩

end Account

end TriggeredSampler
