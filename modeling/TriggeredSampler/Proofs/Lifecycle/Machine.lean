import TriggeredSampler.Lifecycle

/-! # A lifecycle as two fields

A `Machine` keeps the phase and the cause of a failure beside each other, so that nothing but its
operations keeps them together: all but a new configuration and a failure leave the cause alone.
`Lifecycle.machine` shows a lifecycle in this form, and every operation of a machine refines that of the
lifecycle.

* `Machine.configure`, ..., `Machine.follow` — the operations.
* `Lifecycle.configure_machine`, ..., `Lifecycle.follow_machine` — their refinement.
* `Lifecycle.isSome_cause_machine` — the machine of a lifecycle has a cause exactly when it failed.
-/

namespace TriggeredSampler

/-- The phase of a sampler beside the error that ended its run. -/
structure Machine (ε : Type) where
  phase : Phase
  cause : Option ε
deriving DecidableEq

namespace Machine

variable {ε : Type}

/-- Accepts a configuration, unless a run is active, and forgets the last failure. -/
def configure (m : Machine ε) : Except Misuse (Machine ε) :=
  if m.phase.isActive then .error .alreadyActive else .ok ⟨.configured, none⟩

/-- Starts waiting for the start trigger. -/
def arm (m : Machine ε) : Except Misuse (Machine ε) :=
  match m.phase with
  | .configured => .ok { m with phase := .ready }
  | .ready | .running => .error .alreadyActive
  | _ => .error .notConfigured

/-- The start trigger was met. -/
def fire (m : Machine ε) : Bool × Machine ε :=
  if m.phase ≠ .ready then (false, m) else (true, { m with phase := .running })

/-- The iteration ended by itself. -/
def finish (m : Machine ε) (again : Bool) : Bool × Machine ε :=
  if m.phase ≠ .running then (false, m)
  else (true, { m with phase := if again then .ready else .completed })

/-- Ends the run from outside, unless it is over. -/
def cancel (m : Machine ε) : Bool × Machine ε :=
  if m.phase.isTerminal then (false, m) else (true, { m with phase := .cancelled })

/-- Ends the run by an error, unless it is over. -/
def fail (m : Machine ε) (cause : ε) : Bool × Machine ε :=
  if m.phase.isTerminal then (false, m) else (true, ⟨.failed, some cause⟩)

/-- Another phase that a run goes to when it is reported. -/
def reaches : (current reported : Phase) → Bool
  | .ready, .running | .running, .ready | .ready, .completed | .running, .completed => true
  | _, .cancelled => true
  | _, _ => false

/-- Takes over a reported phase. -/
def follow (m : Machine ε) (reported : Phase) : Except Phase (Bool × Machine ε) :=
  if m.phase.isTerminal then .ok (false, m)
  else if m.phase = reported then .ok (false, m)
  else if reaches m.phase reported then .ok (true, { m with phase := reported })
  else .error reported

end Machine

namespace Lifecycle

variable {ε : Type} (l : Lifecycle ε)

/-- The lifecycle as two fields. -/
def machine : Machine ε := ⟨l.phase, l.cause⟩

theorem isSome_cause_machine : l.machine.cause.isSome = true ↔ l.machine.phase = .failed := by
  cases l <;> simp [machine, phase, cause]

theorem configure_machine : l.machine.configure = l.configure.map machine := by
  cases l <;> rfl

theorem arm_machine : l.machine.arm = l.arm.map machine := by
  cases l <;> rfl

theorem fire_machine : l.machine.fire = l.fire.map id machine := by
  cases l <;> rfl

theorem finish_machine (again : Bool) : l.machine.finish again = (l.finish again).map id machine := by
  cases l <;> cases again <;> rfl

theorem cancel_machine : l.machine.cancel = l.cancel.map id machine := by
  cases l <;> rfl

theorem fail_machine (e : ε) : l.machine.fail e = (l.fail e).map id machine := by
  cases l <;> rfl

theorem follow_machine (reported : Phase) :
    l.machine.follow reported = (l.follow reported).map (Prod.map id machine) := by
  cases l <;> cases reported <;> rfl

end Lifecycle

end TriggeredSampler
