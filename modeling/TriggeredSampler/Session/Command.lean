import TriggeredSampler.Session.Operations

/-! # The commands of a session

A `Command` is an operation of the session's owner as a value, and a `Reply` what it returned.

* `Station.perform` — what a command does.
-/

namespace TriggeredSampler

/-- An operation of the session's owner. -/
inductive Command where
  | configure (configuration : Configuration)
  /-- Start without a handler. -/
  | start (tag : Int)
  /-- Start with a handler that reacts as given. With a `refusal` the system creates no thread for it, for
  that reason. -/
  | startNotified (reactions : List Reaction) (tag : Int) (refusal : Option String := none)
  | stop
  | poll
  | pollRows
  | refresh
  | waitRunning
  | waitFinished
  | deviceConfiguration
  | drop

/-- What a command returned. -/
inductive Reply where
  | finished (result : Except Failure Unit)
  | batches (result : Except Failure (List Batch))
  | rows (result : Except Failure (List Row))
  | phase (result : Except Failure Phase)
  | configuration (result : Except Failure Configuration)
  /-- The session was dropped. -/
  | dropped

namespace Station

variable {σ : Type}

/-- Does what the command says. -/
def perform (dev : Device σ) (command : Command) (st : Station σ) : Reply × Station σ :=
  match command with
  | .configure c => (st.configure dev c).map .finished id
  | .start tag => (st.start dev none tag none).map .finished id
  | .startNotified reactions tag refusal =>
    (st.start dev (some reactions) tag refusal).map .finished id
  | .stop => (st.halt dev).map .finished id
  | .poll => (st.pollData dev).map .batches id
  | .pollRows => (st.pollRows dev).map .rows id
  | .refresh => (st.refreshPhase dev).map .phase id
  | .waitRunning => (st.waitRunning dev).map .phase id
  | .waitFinished => (st.waitFinished dev).map .phase id
  | .deviceConfiguration => (st.deviceConfiguration dev).map .configuration id
  | .drop => (.dropped, st.drop dev)

end Station

end TriggeredSampler
