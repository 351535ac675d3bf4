import TriggeredSampler.Text.Hexadecimal

/-! # Why a configuration is rejected

`Defect` names each reason for which a sampler configuration is refused, `Defect.message` words it.
-/

namespace TriggeredSampler

/-- A reason to reject a configuration. -/
inductive Defect where
  /-- The version is not the supported one. -/
  | unsupportedVersion (version : Nat)
  /-- No address is tracked, or too many. -/
  | trackedCount (count : Nat)
  /-- The sampling period is zero. -/
  | noPeriod
  /-- The start trigger is not set. -/
  | noStartTrigger
  /-- A firmware sampler has no duration. -/
  | noDuration
  /-- A software sampler has neither a duration nor a stop trigger. -/
  | noEnd
  /-- Continuous mode in firmware. -/
  | continuousInFirmware
  /-- Continuous mode with a duration or a stop trigger. -/
  | continuousWithEnd
  /-- The firmware buffers cannot hold the samples of one iteration. -/
  | overCapacity (samples max tracked : Nat)
  /-- A stored record does not decode. -/
  | malformedRecord (detail : String)
deriving DecidableEq

namespace Defect

/-- The wording of a defect. -/
def message : Defect → String
  | unsupportedVersion v => "unsupported configuration version 0x" ++ Hexadecimal.upper 8 v
  | trackedCount n =>
    toString n ++ " tracked addresses given, between 1 and 12 are allowed"
  | noPeriod => "sampling period must be between 1 and 65535 ms"
  | noStartTrigger => "start trigger is required and cannot be TC_FALSE"
  | noDuration => "the duration is required to calculate the number of samples"
  | noEnd => "no conditions to end sampling"
  | continuousInFirmware => "continuous sampling is not supported in firmware mode"
  | continuousWithEnd => "duration and stop condition are incompatible with continuous mode"
  | overCapacity samples max tracked =>
    toString samples ++ " samples per address exceed the firmware buffers (" ++ toString max ++
      " max for " ++ toString tracked ++ " tracked addresses)"
  | malformedRecord detail => "malformed configuration record: " ++ detail

end Defect

end TriggeredSampler
