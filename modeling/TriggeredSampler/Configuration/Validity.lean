import TriggeredSampler.Configuration.Basic
import TriggeredSampler.Storage.Plan

/-! # Which configurations can run

* `Mode.checkEnding` — which modes may run with which ends, in firmware and in software.
* `Configuration.validate` — the first defect of a configuration, if it has one.
-/

namespace TriggeredSampler

/-- A firmware sampler needs a duration; a software sampler needs a duration or a stop trigger;
continuous sampling exists in software only and has neither. -/
def Mode.checkEnding (mode : Mode) (software : Bool) (duration : UInt32) (stops : Bool) :
    Except Defect Unit :=
  match mode, software with
  | .continuous, false => .error .continuousInFirmware
  | .continuous, true => if duration ≠ 0 ∨ stops then .error .continuousWithEnd else .ok ()
  | _, false => if duration = 0 then .error .noDuration else .ok ()
  | _, true => if duration = 0 ∧ !stops then .error .noEnd else .ok ()

namespace Configuration

/-- A firmware sampler must be able to store one iteration. -/
def checkStorage (c : Configuration) : Except Defect Unit :=
  match c.sampleCount with
  | none => .ok ()
  | some samples => (Plan.make? c.tracked.length samples).map fun _ => ()

/-- The first defect of a configuration, in the order version, tracked addresses, period, start
trigger, end, storage. -/
def validate (c : Configuration) : Except Defect Unit :=
  if c.version ≠ supportedVersion then .error (.unsupportedVersion c.version.toNat)
  else if c.tracked.length = 0 ∨ maxTracked < c.tracked.length then
    .error (.trackedCount c.tracked.length)
  else if c.period = 0 then .error .noPeriod
  else if !c.start.isSet then .error .noStartTrigger
  else
    match c.mode.checkEnding c.software c.duration c.stop.isSet with
    | .error defect => .error defect
    | .ok () => c.checkStorage

end Configuration

end TriggeredSampler
