/-! # Phases of a sampler

```text
unconfigured → configured → ready → running → completed
                              ↑        |    ↘ failed
                              +--------+    ↘ cancelled
                         (repeated iterations)
```

* `Phase.isTerminal` — the run is over: completed, failed or cancelled.
* `Phase.isActive` — the run may still produce data: ready or running.
* `Phase.name`, `Phase.ofCode?` — the name and the code a device reports it by.
-/

namespace TriggeredSampler

/-- Where a sampler stands. -/
inductive Phase where
  /-- No configuration was accepted yet. -/
  | unconfigured
  /-- A configuration was accepted, nothing is started. -/
  | configured
  /-- Started, waiting for the start trigger. -/
  | ready
  /-- Sampling. -/
  | running
  /-- Ended by itself. -/
  | completed
  /-- Ended by an error. -/
  | failed
  /-- Ended from outside. -/
  | cancelled
deriving DecidableEq, Inhabited

namespace Phase

/-- The run is over. -/
def isTerminal : Phase → Bool
  | completed | failed | cancelled => true
  | _ => false

/-- The run was started and is not over. -/
def isActive : Phase → Bool
  | ready | running => true
  | _ => false

/-- The name used in messages. -/
def name : Phase → String
  | unconfigured => "Unconfigured"
  | configured => "Configured"
  | ready => "Ready"
  | running => "Running"
  | completed => "Completed"
  | failed => "Failed"
  | cancelled => "Cancelled"

/-- The phase a code stands for. -/
def ofCode? (code : Nat) : Option Phase :=
  match code with
  | 0 => some unconfigured
  | 1 => some configured
  | 2 => some ready
  | 3 => some running
  | 4 => some completed
  | 5 => some failed
  | 6 => some cancelled
  | _ => none

end Phase

end TriggeredSampler
