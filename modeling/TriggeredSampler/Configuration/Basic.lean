import TriggeredSampler.Trigger.Basic

/-! # Sampler configurations

A `Configuration` says what a sampler records, how often, when it starts and stops, and whether it
repeats.

* `Configuration.ofMode` — the empty configuration of a mode.
* `Configuration.sampleCount` — the samples of one iteration of a firmware sampler.
-/

namespace TriggeredSampler

/-- How a sampler repeats. -/
inductive Mode where
  /-- A single iteration. -/
  | normal
  /-- Iterations without end, each waiting for the start trigger. -/
  | repetitive
  /-- One iteration without end, in software only. -/
  | continuous
deriving DecidableEq, Inhabited

namespace Mode

/-- The code a device stores for the mode. -/
def code : Mode → UInt8
  | normal => 0
  | repetitive => 1
  | continuous => 2

/-- The mode a code stands for. -/
def ofCode? (code : Nat) : Option Mode :=
  match code with
  | 0 => some normal
  | 1 => some repetitive
  | 2 => some continuous
  | _ => none

end Mode

/-- What a sampler has to do. -/
structure Configuration where
  /-- The format of the configuration. -/
  version : UInt32
  /-- How the sampler repeats. -/
  mode : Mode
  /-- Triggers and timing are evaluated in software instead of by the firmware. -/
  software : Bool
  /-- The newer firmware sampler is used. -/
  newFirmware : Bool
  /-- The sampling period in milliseconds. -/
  period : UInt16
  /-- The duration in milliseconds, 0 if it is not limited. -/
  duration : UInt32
  /-- The number of samples before the trigger; stored, but not used. -/
  preTrigger : UInt16
  /-- What the sampler waits for. -/
  start : Trigger
  /-- What ends an iteration early. -/
  stop : Trigger
  /-- The addresses recorded, in the order of the columns. -/
  tracked : List Address
deriving DecidableEq

namespace Configuration

/-- The only supported version. -/
def supportedVersion : UInt32 := 0x01000000

/-- The largest number of tracked addresses. -/
def maxTracked : Nat := 12

/-- The empty configuration of a mode; continuous sampling exists in software only. -/
def ofMode (mode : Mode) : Configuration where
  version := supportedVersion
  mode := mode
  software := mode == .continuous
  newFirmware := false
  period := 0
  duration := 0
  preTrigger := 0
  start := .unset
  stop := .unset
  tracked := []

instance : Inhabited Configuration := ⟨ofMode .normal⟩

/-- The samples of one iteration of a firmware sampler: one at the start and one per whole period of
the duration. A software sampler, or one without duration or period, counts none. -/
def sampleCount (c : Configuration) : Option Nat :=
  if c.software ∨ c.duration = 0 ∨ c.period = 0 then none
  else some (1 + c.duration.toNat / c.period.toNat)

end Configuration

end TriggeredSampler
