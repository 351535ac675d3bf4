import TriggeredSampler.Configuration.Basic
import TriggeredSampler.Configuration.Defect

/-! # The binary record of a configuration

A device stores a configuration as a record. All numbers are little endian.

```text
version                          4
mode                             1
flags                            1   bit 0 software, bit 1 newer firmware sampler
period                           2
duration                         4
samples before the trigger       2
start trigger, stop trigger      8 each: condition 1, index 2, subindex 1, value 4
number of tracked addresses      1
tracked addresses                3 each: index 2, subindex 1
```

* `Configuration.encode` — the record of a configuration.
* `Configuration.decode` — the configuration of a record, or the first flaw of the record.
* `Record.Flaw.message`, `Record.Flaw.defect` — the wording of a flaw, and the flaw as a defect.
-/

namespace TriggeredSampler

namespace Record

/-- The fields a record can end within. -/
inductive Field where
  | version
  | mode
  | flags
  | period
  | duration
  | preTrigger
  | startTrigger
  | stopTrigger
  | addressCount
  | trackedAddress
deriving DecidableEq

/-- The name of a field in messages. -/
def Field.name : Field → String
  | version => "version"
  | mode => "mode"
  | flags => "flags"
  | period => "period"
  | duration => "duration"
  | preTrigger => "pre-trigger samples"
  | startTrigger => "start trigger"
  | stopTrigger => "stop trigger"
  | addressCount => "address count"
  | trackedAddress => "tracked address"

/-- Why a record does not decode. -/
inductive Flaw where
  /-- The record ends within a field. -/
  | truncated (field : Field)
  /-- The mode has an unknown code. -/
  | unknownMode (code : UInt8)
  /-- The condition of a trigger has an unknown code. -/
  | unknownCondition (field : Field) (code : UInt8)
  /-- More addresses are announced than can be tracked. -/
  | addressCount (count : Nat)
  /-- Bytes are left behind the last address. -/
  | trailing (bytes : List UInt8)
deriving DecidableEq

/-- The wording of a flaw. -/
def Flaw.message : Flaw → String
  | truncated field => field.name ++ ": failed to fill whole buffer"
  | unknownMode code => "unknown sampler mode " ++ toString code.toNat
  | unknownCondition field code =>
    field.name ++ ": unknown condition 0x" ++ Hexadecimal.upper 2 code.toNat
  | addressCount count => toString count ++ " tracked addresses"
  | trailing bytes =>
    toString bytes.length ++ " trailing bytes: " ++ Hexadecimal.ofBytes bytes

/-- A flaw as a reason to reject the configuration. -/
def Flaw.defect (flaw : Flaw) : Defect := .malformedRecord flaw.message

/-! ## Numbers -/

/-- The lowest `width` bytes of `n`, lowest first. -/
def bytesOf : (width n : Nat) → List UInt8
  | 0, _ => []
  | width + 1, n => UInt8.ofNat n :: bytesOf width (n / 256)

/-- The number with the given bytes, lowest first. -/
def number : List UInt8 → Nat
  | [] => 0
  | byte :: rest => byte.toNat + 256 * number rest

/-! ## Writing -/

/-- The flags of a configuration. -/
def flags (c : Configuration) : UInt8 :=
  (if c.software then 1 else 0) ||| (if c.newFirmware then 2 else 0)

/-- The three bytes of an address. -/
def ofAddress (a : Address) : List UInt8 :=
  bytesOf 2 a.index.toNat ++ [a.subindex]

/-- The eight bytes of a trigger. -/
def ofTrigger (t : Trigger) : List UInt8 :=
  t.condition.code :: (ofAddress t.address ++ bytesOf 4 t.value.toNat)

/-! ## Reading -/

/-- A step of reading: a value and the bytes behind it, or a flaw. -/
abbrev Reader := StateT (List UInt8) (Except Flaw)

/-- The next `width` bytes, which belong to `field`. -/
def take (field : Field) (width : Nat) : Reader (List UInt8) := fun bytes =>
  if bytes.length < width then .error (.truncated field)
  else .ok (bytes.take width, bytes.drop width)

/-- The next `width` bytes as a number. -/
def takeNumber (field : Field) (width : Nat) : Reader Nat := do
  return number (← take field width)

/-- The address in three bytes. -/
def address (bytes : List UInt8) : Address :=
  ⟨UInt16.ofNat (number (bytes.take 2)), UInt8.ofNat (number (bytes.drop 2))⟩

/-- The mode. -/
def takeMode : Reader Mode := do
  let code ← takeNumber .mode 1
  match Mode.ofCode? code with
  | some mode => return mode
  | none => throw (.unknownMode (UInt8.ofNat code))

/-- A trigger. All its bytes are read before its condition is looked at. -/
def takeTrigger (field : Field) : Reader Trigger := do
  let bytes ← take field 8
  let code := number (bytes.take 1)
  match Condition.ofCode? code with
  | some condition =>
    return ⟨condition, address ((bytes.drop 1).take 3), UInt32.ofNat (number (bytes.drop 4))⟩
  | none => throw (.unknownCondition field (UInt8.ofNat code))

/-- As many addresses as are announced. -/
def takeAddresses : Nat → Reader (List Address)
  | 0 => return []
  | count + 1 => do
    let first := address (← take .trackedAddress 3)
    let rest ← takeAddresses count
    return first :: rest

/-- The number of addresses. -/
def takeCount : Reader Nat := do
  let count ← takeNumber .addressCount 1
  if Configuration.maxTracked < count then throw (.addressCount count)
  return count

/-- A configuration; the record may go on behind it. -/
def takeConfiguration : Reader Configuration := do
  let version ← takeNumber .version 4
  let mode ← takeMode
  let flags ← takeNumber .flags 1
  let period ← takeNumber .period 2
  let duration ← takeNumber .duration 4
  let preTrigger ← takeNumber .preTrigger 2
  let start ← takeTrigger .startTrigger
  let stop ← takeTrigger .stopTrigger
  let count ← takeCount
  let tracked ← takeAddresses count
  return {
    version := UInt32.ofNat version
    mode := mode
    software := flags % 2 == 1
    newFirmware := flags / 2 % 2 == 1
    period := UInt16.ofNat period
    duration := UInt32.ofNat duration
    preTrigger := UInt16.ofNat preTrigger
    start := start
    stop := stop
    tracked := tracked }

end Record

namespace Configuration

/-- The record of a configuration. It announces the low byte of the number of addresses. -/
def encode (c : Configuration) : List UInt8 :=
  Record.bytesOf 4 c.version.toNat ++ [c.mode.code, Record.flags c] ++
    Record.bytesOf 2 c.period.toNat ++ Record.bytesOf 4 c.duration.toNat ++
    Record.bytesOf 2 c.preTrigger.toNat ++ Record.ofTrigger c.start ++ Record.ofTrigger c.stop ++
    [UInt8.ofNat c.tracked.length] ++ c.tracked.flatMap Record.ofAddress

/-- The configuration that a record holds, with no byte left over. -/
def decode (bytes : List UInt8) : Except Record.Flaw Configuration :=
  match Record.takeConfiguration bytes with
  | .error flaw => .error flaw
  | .ok (c, []) => .ok c
  | .ok (_, rest) => .error (.trailing rest)

end Configuration

end TriggeredSampler
