import TriggeredSampler.Failure

/-! # The lifecycle of a run

A `Lifecycle` is the phase of a sampler together with the cause of a failure, which exists exactly
in the failed phase. Once a run is over, only a new configuration changes anything.

* `Lifecycle.configure`, `Lifecycle.arm` — the requests that can be refused.
* `Lifecycle.fire`, `Lifecycle.finish`, `Lifecycle.cancel`, `Lifecycle.fail` — the events of a run;
  each tells whether it took effect.
* `Lifecycle.follow` — taking over a phase that a device reports.
-/

namespace TriggeredSampler

/-- The phase of a sampler, with the cause `ε` of its failure. -/
inductive Lifecycle (ε : Type) where
  | unconfigured
  | configured
  | ready
  | running
  | completed
  | failed (cause : ε)
  | cancelled
deriving DecidableEq

namespace Lifecycle

variable {ε : Type}

/-- The phase without the cause. -/
def phase : Lifecycle ε → Phase
  | unconfigured => .unconfigured
  | configured => .configured
  | ready => .ready
  | running => .running
  | completed => .completed
  | failed _ => .failed
  | cancelled => .cancelled

/-- Why the run failed. -/
def cause : Lifecycle ε → Option ε
  | failed e => some e
  | _ => none

/-- Accepts a configuration, unless a run is active. -/
def configure (l : Lifecycle ε) : Except Misuse (Lifecycle ε) :=
  if l.phase.isActive then .error .alreadyActive else .ok configured

/-- Starts waiting for the start trigger. A run that is over must be configured again first. -/
def arm (l : Lifecycle ε) : Except Misuse (Lifecycle ε) :=
  match l with
  | configured => .ok ready
  | ready | running => .error .alreadyActive
  | _ => .error .notConfigured

/-- The start trigger was met. -/
def fire (l : Lifecycle ε) : Bool × Lifecycle ε :=
  match l with
  | ready => (true, running)
  | other => (false, other)

/-- The iteration ended by itself; the sampler waits again if another one follows. -/
def finish (l : Lifecycle ε) (again : Bool) : Bool × Lifecycle ε :=
  match l with
  | running => (true, if again then ready else completed)
  | other => (false, other)

/-- Ends the run from outside, unless it is over. -/
def cancel (l : Lifecycle ε) : Bool × Lifecycle ε :=
  if l.phase.isTerminal then (false, l) else (true, cancelled)

/-- Ends the run by an error, unless it is over. -/
def fail (l : Lifecycle ε) (cause : ε) : Bool × Lifecycle ε :=
  if l.phase.isTerminal then (false, l) else (true, failed cause)

/-- Takes over a reported phase; `false` if nothing changed. Reports that come after the end are
ignored, a phase that cannot be reached is refused. A failure has to come with its cause, through
`fail`. -/
def follow (l : Lifecycle ε) (reported : Phase) : Except Phase (Bool × Lifecycle ε) :=
  if l.phase.isTerminal ∨ l.phase = reported then .ok (false, l)
  else
    match l, reported with
    | ready, .running => .ok (true, running)
    | running, .ready => .ok (true, ready)
    | ready, .completed => .ok (true, completed)
    | running, .completed => .ok (true, completed)
    | _, .cancelled => .ok (true, cancelled)
    | _, other => .error other

end Lifecycle

end TriggeredSampler
