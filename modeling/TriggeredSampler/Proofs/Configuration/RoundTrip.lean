import Mathlib.Algebra.Group.Nat.Defs
import TriggeredSampler.Configuration.Record

/-! # Reading a record back

Every step of reading undoes the step of writing that it belongs to, whatever stands behind the bytes that
were written.

* `Record.takeNumber_bytesOf`, `Record.takeTrigger_ofTrigger`, `Record.takeAddresses_ofAddress` — the
  steps.
* `Configuration.decode_encode` — the record of a configuration holds the configuration.
-/

namespace TriggeredSampler

namespace Record

variable {α β : Type} {rest : List UInt8}

/-! ## Numbers -/

@[simp] theorem length_bytesOf (width n : Nat) : (bytesOf width n).length = width := by
  induction width generalizing n with
  | zero => rfl
  | succ width ih => simp [bytesOf, ih]

theorem number_bytesOf {width n : Nat} (fits : n < 256 ^ width) : number (bytesOf width n) = n := by
  induction width generalizing n with
  | zero =>
    have zero : n = 0 := by simpa using fits
    rw [zero]
    rfl
  | succ width ih =>
    have higher : n / 256 < 256 ^ width := by
      rw [Nat.pow_succ] at fits
      exact Nat.div_lt_of_lt_mul (by omega)
    rw [bytesOf, number, ih higher, UInt8.toNat_ofNat']
    omega

/-! ## Steps of reading -/

/-- A step that succeeds hands over what is left. -/
theorem bind_of_ok {read : Reader α} {next : α → Reader β} {bytes : List UInt8} {a : α}
    (ok : read bytes = .ok (a, rest)) : (read >>= next) bytes = next a rest := by
  simp only [bind, StateT.bind, ok, Except.bind]

theorem take_append (field : Field) {bytes : List UInt8} {width : Nat} (length : bytes.length = width) :
    take field width (bytes ++ rest) = .ok (bytes, rest) := by
  have enough : ¬(bytes ++ rest).length < width := by
    rw [List.length_append]
    omega
  rw [take, if_neg enough, List.take_left' length, List.drop_left' length]

theorem takeNumber_bytesOf (field : Field) {width n : Nat} (fits : n < 256 ^ width) :
    takeNumber field width (bytesOf width n ++ rest) = .ok (n, rest) := by
  rw [takeNumber, bind_of_ok (take_append field (length_bytesOf width n)), number_bytesOf fits]
  rfl

theorem takeNumber_cons (field : Field) (byte : UInt8) :
    takeNumber field 1 (byte :: rest) = .ok (byte.toNat, rest) := by
  have same : bytesOf 1 byte.toNat = [byte] := by simp [bytesOf]
  have fits : byte.toNat < 256 ^ 1 := byte.toNat_lt
  have read : takeNumber field 1 (bytesOf 1 byte.toNat ++ rest) = .ok (byte.toNat, rest) :=
    takeNumber_bytesOf field fits
  rwa [same] at read

theorem takeMode_cons (mode : Mode) : takeMode (mode.code :: rest) = .ok (mode, rest) := by
  have known : Mode.ofCode? mode.code.toNat = some mode := by cases mode <;> rfl
  rw [takeMode, bind_of_ok (takeNumber_cons .mode mode.code), known]
  rfl

theorem flags_eq (c : Configuration) :
    c.software = ((flags c).toNat % 2 == 1) ∧ c.newFirmware = ((flags c).toNat / 2 % 2 == 1) := by
  unfold flags
  cases c.software <;> cases c.newFirmware <;> exact ⟨rfl, rfl⟩

/-- The flags of a configuration are the two lowest bits of a byte that tell its two switches. -/
theorem flags_eq_iff {c : Configuration} {byte : UInt8} :
    flags c = byte &&& 3 ↔
      c.software = (byte.toNat % 2 == 1) ∧ c.newFirmware = (byte.toNat / 2 % 2 == 1) := by
  have low : (byte &&& 3).toNat = byte.toNat % 4 := by
    rw [UInt8.toNat_and]
    exact Nat.and_two_pow_sub_one_eq_mod byte.toNat 2
  rw [← UInt8.toNat_inj, low, flags]
  cases c.software <;> cases c.newFirmware <;> simp <;> omega

/-! ## Addresses and triggers -/

@[simp] theorem length_ofAddress (a : Address) : (ofAddress a).length = 3 := by
  simp [ofAddress]

theorem address_ofAddress (a : Address) : address (ofAddress a) = a := by
  have index : (bytesOf 2 a.index.toNat).length = 2 := length_bytesOf 2 a.index.toNat
  have fits : a.index.toNat < 256 ^ 2 := a.index.toNat_lt
  rw [address, ofAddress, List.take_left' index, List.drop_left' index, number_bytesOf fits]
  simp [number]

theorem takeTrigger_ofTrigger (field : Field) (t : Trigger) :
    takeTrigger field (ofTrigger t ++ rest) = .ok (t, rest) := by
  have length : (ofTrigger t).length = 8 := by simp [ofTrigger]
  have condition : number ((ofTrigger t).take 1) = t.condition.code.toNat := by
    simp [ofTrigger, number]
  have place : ((ofTrigger t).drop 1).take 3 = ofAddress t.address := by
    rw [ofTrigger, List.drop_one, List.tail_cons, List.take_left' (length_ofAddress t.address)]
  have value : number ((ofTrigger t).drop 4) = t.value.toNat := by
    have fits : t.value.toNat < 256 ^ 4 := t.value.toNat_lt
    rw [ofTrigger, List.drop_succ_cons, List.drop_left' (length_ofAddress t.address),
      number_bytesOf fits]
  rw [takeTrigger, bind_of_ok (take_append field length)]
  simp only [condition, Condition.ofCode?_code, place, address_ofAddress, value, UInt32.ofNat_toNat]
  rfl

theorem takeAddresses_ofAddress (tracked : List Address) :
    takeAddresses tracked.length (tracked.flatMap ofAddress ++ rest) = .ok (tracked, rest) := by
  induction tracked with
  | nil => rfl
  | cons a others ih =>
    rw [List.length_cons, takeAddresses, List.flatMap_cons, List.append_assoc,
      bind_of_ok (take_append .trackedAddress (length_ofAddress a)), address_ofAddress, bind_of_ok ih]
    rfl

theorem takeCount_cons {count : Nat} (fits : count ≤ Configuration.maxTracked) :
    takeCount (UInt8.ofNat count :: rest) = .ok (count, rest) := by
  have same : (UInt8.ofNat count).toNat = count := by
    rw [UInt8.toNat_ofNat']
    exact Nat.mod_eq_of_lt (Nat.lt_of_le_of_lt fits (by decide))
  rw [takeCount, bind_of_ok (takeNumber_cons .addressCount _), same, if_neg (by omega)]
  rfl

/-! ## Configurations -/

end Record

/-- The bytes before the number of addresses, with any flags. -/
def Configuration.front (c : Configuration) (flags : UInt8) : List UInt8 :=
  Record.bytesOf 4 c.version.toNat ++ [c.mode.code, flags] ++ Record.bytesOf 2 c.period.toNat ++
    Record.bytesOf 4 c.duration.toNat ++ Record.bytesOf 2 c.preTrigger.toNat ++
    Record.ofTrigger c.start ++ Record.ofTrigger c.stop

theorem Configuration.encode_eq (c : Configuration) :
    c.encode = c.front (Record.flags c) ++
      UInt8.ofNat c.tracked.length :: c.tracked.flatMap Record.ofAddress := by
  simp [encode, front]

namespace Record

/-- Behind the front of a record, the addresses are left to be read. -/
theorem takeConfiguration_front {c : Configuration} {byte : UInt8} (same : flags c = byte &&& 3) :
    takeConfiguration (c.front byte ++ rest) =
      (do return { c with tracked := ← takeAddresses (← takeCount) } : Reader Configuration) rest := by
  have version : c.version.toNat < 256 ^ 4 := c.version.toNat_lt
  have period : c.period.toNat < 256 ^ 2 := c.period.toNat_lt
  have duration : c.duration.toNat < 256 ^ 4 := c.duration.toNat_lt
  have preTrigger : c.preTrigger.toNat < 256 ^ 2 := c.preTrigger.toNat_lt
  obtain ⟨software, newFirmware⟩ := flags_eq_iff.1 same
  simp only [Configuration.front, List.append_assoc, List.cons_append, List.nil_append]
  rw [takeConfiguration, bind_of_ok (takeNumber_bytesOf .version version),
    bind_of_ok (takeMode_cons c.mode), bind_of_ok (takeNumber_cons .flags byte),
    bind_of_ok (takeNumber_bytesOf .period period), bind_of_ok (takeNumber_bytesOf .duration duration),
    bind_of_ok (takeNumber_bytesOf .preTrigger preTrigger),
    bind_of_ok (takeTrigger_ofTrigger .startTrigger c.start),
    bind_of_ok (takeTrigger_ofTrigger .stopTrigger c.stop)]
  simp only [← software, ← newFirmware, UInt32.ofNat_toNat, UInt16.ofNat_toNat]

/-- A configuration is read from its bytes, whatever the other bits of its flags are. -/
theorem takeConfiguration_written {c : Configuration} {byte : UInt8} (same : flags c = byte &&& 3)
    (fits : c.tracked.length ≤ Configuration.maxTracked) :
    takeConfiguration (c.front byte ++ UInt8.ofNat c.tracked.length :: (c.tracked.flatMap ofAddress ++ rest)) =
      .ok (c, rest) := by
  rw [takeConfiguration_front same, bind_of_ok (takeCount_cons fits),
    bind_of_ok (takeAddresses_ofAddress c.tracked)]
  rfl

theorem takeConfiguration_encode {c : Configuration} (fits : c.tracked.length ≤ Configuration.maxTracked) :
    takeConfiguration (c.encode ++ rest) = .ok (c, rest) := by
  have low : flags c = flags c &&& 3 := flags_eq_iff.2 (flags_eq c)
  rw [Configuration.encode_eq, List.append_assoc, List.cons_append, takeConfiguration_written low fits]

end Record

/-- The record of a configuration with no more addresses than can be tracked holds the configuration. -/
theorem Configuration.decode_encode {c : Configuration} (fits : c.tracked.length ≤ maxTracked) :
    decode c.encode = .ok c := by
  have read : Record.takeConfiguration (c.encode ++ []) = .ok (c, []) :=
    Record.takeConfiguration_encode fits
  rw [List.append_nil] at read
  rw [decode, read]

end TriggeredSampler
