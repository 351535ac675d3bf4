import TriggeredSampler.Configuration.Validity
import TriggeredSampler.Session.Delivery

/-! # The operations of a session

These are the operations of the session's owner, who is never inside a handler. Reports that a
request raises are delivered before the request is answered.

Whether the system creates a thread for a handler is not theirs to decide: the reason of a refusal comes in
with the start.

* `Station.configure`, `Station.start`, `Station.halt`, `Station.pollData`, `Station.pollRows`,
  `Station.refreshPhase`, `Station.deviceConfiguration`, `Station.drop` — the operations.
* `Station.elapse`, `Station.waitUntil` — time passes; a wait looks at the session now and then.
-/

namespace TriggeredSampler.Station

variable {σ : Type}

/-- A request of the owner: what it raises is delivered before it is answered. -/
def line (dev : Device σ) : Line σ := fun r st =>
  let (reports, raised) := dev.announce st.session.handle r st.device
  let delivered := reports.foldl (receive dev) { st with device := raised }
  let (answer, device) := dev.answer delivered.session.handle r delivered.device
  (answer, { delivered with device := device })

/-! ## Configuring -/

/-- The state of a session that accepts a configuration: numbering starts anew, nothing is notified,
panics are forgotten. -/
def adopt (c : Configuration) (l : Lifecycle Failure) (st : Station σ) : Station σ :=
  { st with session := { st.session with
      configuration := some c
      lifecycle := l
      tracked := c.tracked.length
      numbering := .start c.tracked.length
      notified := false
      panic := none } }

/-- Checks a configuration, stores it on the device and accepts it. -/
def configure (dev : Device σ) (c : Configuration) (st : Station σ) :
    Except Failure Unit × Station σ :=
  match c.validate with
  | .error defect => (.error (.configuration defect), st)
  | .ok () =>
    if st.session.phase.isActive then (.error (.misuse .alreadyActive), st)
    else
      match line dev (.configure c) (st.join dev) with
      | (.error fault, st) => (.error (.device fault), st.fail (.device fault))
      | (.ok (), st) =>
        match st.session.lifecycle.configure with
        | .error m => (.error (.misuse m), st)
        | .ok l => (.ok (), st.adopt c l)

/-! ## Starting -/

/-- The write around a start: the trigger value raised by `offset`, or nothing if the session does
not drive its start trigger. -/
def writeTrigger (dev : Device σ) (trigger : Trigger) (offset : Int) (st : Station σ) :
    Except DeviceFault Unit × Station σ :=
  if st.session.options.armsTrigger && trigger.condition.readsAddress then
    line dev
      (.write trigger.address (trigger.value.toNat + offset) st.session.options.triggerBits) st
  else (.ok (), st)

/-- A handler is called on a thread of its own, which the system may refuse. -/
def threadFault (handler : Option (List Reaction)) (refusal : Option String) : Option DeviceFault :=
  if handler.isSome then refusal.map .ofRefusal else none

@[simp] theorem threadFault_of_created (handler : Option (List Reaction)) : threadFault handler none = none := by
  cases handler <;> rfl

@[simp] theorem threadFault_of_polled (refusal : Option String) : threadFault none refusal = none := rfl

/-- Opens the delivery to a handler, or prepares for polling. -/
def openDelivery (handler : Option (List Reaction)) (tag : Int) (st : Station σ) : Station σ :=
  { st with session := { st.session with
      notified := handler.isSome
      delivery := handler.map fun reactions => ⟨tag, reactions, []⟩ } }

/-- The last step of a start. A sampler whose trigger could not be activated is stopped. -/
def activate (dev : Device σ) (trigger : Trigger) (st : Station σ) :
    Except Failure Unit × Station σ :=
  match st.writeTrigger dev trigger 1 with
  | (.ok (), st) => (.ok (), st)
  | (.error fault, st) =>
    let halted := (line dev .stop (st.fail (.device fault))).2
    (.error (.device fault), halted.join dev)

/-- The device refused a start. The delivery ends without a closing notice, unless the device holds on to
the sender. -/
def dismiss (dev : Device σ) (st : Station σ) : Station σ :=
  if dev.holdsOn st.session.handle st.device then st else st.endDelivery

/-- Starts the sampler on the device. -/
def launch (dev : Device σ) (trigger : Trigger) (handler : Option (List Reaction)) (tag : Int)
    (st : Station σ) : Except Failure Unit × Station σ :=
  match st.session.lifecycle.arm with
  | .error m => (.error (.misuse m), st.endDelivery)
  | .ok l =>
    let armed := { st with session := { st.session with lifecycle := l } }
    match line dev (.start handler.isSome tag) armed with
    | (.error fault, st) =>
      (.error (.device fault), ((st.fail (.device fault)).dismiss dev).join dev)
    | (.ok (), st) => st.activate dev trigger

/-- The start trigger of a session that can be started. -/
def startTrigger (st : Station σ) : Except Misuse Trigger :=
  match st.session.phase with
  | .configured =>
    match st.session.configuration with
    | some c => .ok c.start
    | none => .error .notConfigured
  | .ready | .running => .error .alreadyActive
  | _ => .error .notConfigured

/-- Starts the configured sampler, with a handler for its reports or to be polled. The trigger value
is written before the sampler starts, and the value above it once it runs. A handler that gets no thread
is an error that nobody records: the session stays configured. -/
def start (dev : Device σ) (handler : Option (List Reaction)) (tag : Int) (refusal : Option String)
    (st : Station σ) : Except Failure Unit × Station σ :=
  match st.startTrigger with
  | .error m => (.error (.misuse m), st)
  | .ok trigger =>
    match st.writeTrigger dev trigger 0 with
    | (.error fault, st) => (.error (.device fault), st.fail (.device fault))
    | (.ok (), st) =>
      match threadFault handler refusal with
      | some fault => (.error (.device fault), st.join dev)
      | none => ((st.join dev).openDelivery handler tag).launch dev trigger handler tag

/-! ## The other operations -/

/-- Stops the run. -/
def halt (dev : Device σ) (st : Station σ) : Except Failure Unit × Station σ :=
  st.stop (line dev)

/-- Takes the data buffered since the last poll. -/
def pollData (dev : Device σ) (st : Station σ) : Except Failure (List Batch) × Station σ :=
  st.poll (line dev)

/-- Takes the data buffered since the last poll, split into samples and numbered. -/
def pollRows (dev : Device σ) (st : Station σ) : Except Failure (List Row) × Station σ :=
  match st.poll (line dev) with
  | (.error f, st) => (.error f, st)
  | (.ok data, st) =>
    let (rows, session) := st.session.number data
    (rows.mapError .ofBreach, { st with session := session })

/-- Asks the device for its phase and follows it. -/
def refreshPhase (dev : Device σ) (st : Station σ) : Except Failure Phase × Station σ :=
  st.refresh (line dev)

/-- Reads the configuration back from the device. -/
def deviceConfiguration (dev : Device σ) (st : Station σ) :
    Except Failure Configuration × Station σ :=
  let (answer, st) := line dev .configuration st
  (answer.mapError .device, st)

/-- Drops the session: a run that is not over is stopped, and its last notice delivered. -/
def drop (dev : Device σ) (st : Station σ) : Station σ :=
  if st.session.live then (st.release (line dev)).join dev else st

/-! ## Waiting -/

/-- Receives a report that was raised by time passing, if it comes from the own handle. -/
def overhear (dev : Device σ) (st : Station σ) (report : Handle × Report) : Station σ :=
  if report.1 = st.session.handle then st.receive dev report.2 else st

/-- Lets some milliseconds pass. -/
def elapse (dev : Device σ) : (milliseconds : Nat) → Station σ → Station σ
  | 0, st => st
  | milliseconds + 1, st =>
    let (reports, device) := dev.advance st.device
    elapse dev milliseconds (reports.foldl (overhear dev) { st with device := device })

/-- One look of a wait: the phase, which a polled session asks its device for. -/
def look (dev : Device σ) (st : Station σ) : Except Failure Phase × Station σ :=
  if st.session.notified then (.ok st.session.phase, st) else st.refreshPhase dev

/-- Looks at the session up to `looks` times, without a pause, until `done` holds of its phase and of
whether a delivery is under way; `none` if it never did. -/
def lookUntil (dev : Device σ) (done : Phase → Bool → Bool) :
    (looks : Nat) → Station σ → Except Failure (Option Phase) × Station σ
  | 0, st => (.ok none, st)
  | looks + 1, st =>
    match st.look dev with
    | (.error f, st) => (.error f, st)
    | (.ok phase, st) =>
      if done phase st.session.delivery.isSome then (.ok (some phase), st)
      else lookUntil dev done looks st

/-- Looks at the session until `done` holds or no time is left. Looks are followed by a poll
interval, or by a millisecond if there is none, at the end of which an idle delivery notices that the
session is over. When no time is left a last look is taken. -/
def waitUntil (dev : Device σ) (done : Phase → Bool → Bool) (left : Nat) (st : Station σ) :
    Except Failure Phase × Station σ :=
  match st.lookUntil dev done (if left = 0 then 1 else st.session.options.looks) with
  | (.error f, st) => (.error f, st)
  | (.ok (some phase), st) => (.ok phase, st)
  | (.ok none, st) =>
    if _h : left = 0 then
      (.error (.timeout (.ofMilliseconds st.session.options.waitLimit)), st)
    else
      let pause := min (max st.session.options.pollInterval 1) left
      waitUntil dev done (left - pause) ((st.elapse dev pause).close dev)
termination_by left
decreasing_by omega

/-- Waits until the start trigger fired or the run is over. -/
def waitRunning (dev : Device σ) (st : Station σ) : Except Failure Phase × Station σ :=
  st.waitUntil dev (fun phase _ => phase == .running || phase.isTerminal)
    st.session.options.waitLimit

/-- Waits until the run is over and its last notice was delivered. -/
def waitFinished (dev : Device σ) (st : Station σ) : Except Failure Phase × Station σ :=
  st.waitUntil dev (fun phase delivering => phase.isTerminal && !delivering)
    st.session.options.waitLimit

end TriggeredSampler.Station
