import TriggeredSampler.Session.Command

/-! # Calls and the requests they make

The owner of a session and its handlers reach it through different `Port`s. A port can be watched: it
then keeps the `Moment`s at which the device answered. Watching changes nothing else.

* `Station.call` — a call through a port.
* `Station.call_owner`, `Station.react_call` — the calls of the owner and of a handler.
* `Port.watched` — the watched port.
-/

namespace TriggeredSampler

variable {σ α : Type}

/-- An operation that an owner or a handler may try. -/
inductive Operation where
  | configure (configuration : Configuration)
  /-- Start with a handler, for which there may be no thread, or without. -/
  | start (handler : Option (List Reaction)) (tag : Int) (refusal : Option String)
  | stop
  | poll
  | pollRows
  | refresh

/-- How a caller reaches a session. -/
structure Port (σ : Type) where
  line : Station.Line σ
  /-- Waits for the delivery under way to end. -/
  join : Station σ → Station σ
  /-- The device refused a start: the delivery ends, unless the device holds on to the sender. -/
  dismiss : Station σ → Station σ
  /-- The caller is a handler. -/
  inside : Bool

namespace Port

/-- The port of the session's owner. -/
def owner (dev : Device σ) : Port σ := ⟨Station.line dev, Station.join dev, Station.dismiss dev, false⟩

/-- The port of a handler, which does not wait for its own delivery. -/
def handler (dev : Device σ) : Port σ := ⟨Station.lineInside dev, id, Station.dismiss dev, true⟩

end Port

namespace Station

/-! ## Calls through a port -/

def configureAt (port : Port σ) (c : Configuration) (st : Station σ) : Except Failure Unit × Station σ :=
  if port.inside then (.error (.misuse .reentrantCall), st)
  else
    match c.validate with
    | .error defect => (.error (.configuration defect), st)
    | .ok () =>
      if st.session.phase.isActive then (.error (.misuse .alreadyActive), st)
      else
        match port.line (.configure c) (port.join st) with
        | (.error fault, st) => (.error (.device fault), st.fail (.device fault))
        | (.ok (), st) =>
          match st.session.lifecycle.configure with
          | .error m => (.error (.misuse m), st)
          | .ok l => (.ok (), st.adopt c l)

def writeTriggerAt (line : Line σ) (trigger : Trigger) (offset : Int) (st : Station σ) :
    Except DeviceFault Unit × Station σ :=
  if st.session.options.armsTrigger && trigger.condition.readsAddress then
    line (.write trigger.address (trigger.value.toNat + offset) st.session.options.triggerBits) st
  else (.ok (), st)

def activateAt (port : Port σ) (trigger : Trigger) (st : Station σ) :
    Except Failure Unit × Station σ :=
  match st.writeTriggerAt port.line trigger 1 with
  | (.ok (), st) => (.ok (), st)
  | (.error fault, st) =>
    let halted := (port.line .stop (st.fail (.device fault))).2
    (.error (.device fault), port.join halted)

def launchAt (port : Port σ) (trigger : Trigger) (handler : Option (List Reaction)) (tag : Int)
    (st : Station σ) : Except Failure Unit × Station σ :=
  match st.session.lifecycle.arm with
  | .error m => (.error (.misuse m), st.endDelivery)
  | .ok l =>
    let armed := { st with session := { st.session with lifecycle := l } }
    match port.line (.start handler.isSome tag) armed with
    | (.error fault, st) =>
      (.error (.device fault), port.join (port.dismiss (st.fail (.device fault))))
    | (.ok (), st) => st.activateAt port trigger

def startAt (port : Port σ) (handler : Option (List Reaction)) (tag : Int) (refusal : Option String)
    (st : Station σ) : Except Failure Unit × Station σ :=
  if port.inside then (.error (.misuse .reentrantCall), st)
  else
    match st.startTrigger with
    | .error m => (.error (.misuse m), st)
    | .ok trigger =>
      match st.writeTriggerAt port.line trigger 0 with
      | (.error fault, st) => (.error (.device fault), st.fail (.device fault))
      | (.ok (), st) =>
        match threadFault handler refusal with
        | some fault => (.error (.device fault), port.join st)
        | none => ((port.join st).openDelivery handler tag).launchAt port trigger handler tag

def pollRowsAt (line : Line σ) (st : Station σ) : Except Failure (List Row) × Station σ :=
  match st.poll line with
  | (.error f, st) => (.error f, st)
  | (.ok data, st) =>
    let (rows, session) := st.session.number data
    (rows.mapError .ofBreach, { st with session := session })

theorem poll_of_notified (line : Line σ) {st : Station σ} (notified : st.session.notified = true) :
    st.poll line = (.error (.misuse .pollWithHandler), st) :=
  if_pos notified

theorem pollRows_of_notified (line : Line σ) {st : Station σ} (notified : st.session.notified = true) :
    st.pollRowsAt line = (.error (.misuse .pollWithHandler), st) := by
  simp only [pollRowsAt, poll_of_notified line notified]

def deviceConfigurationAt (line : Line σ) (st : Station σ) : Except Failure Configuration × Station σ :=
  let (answer, st) := line .configuration st
  (answer.mapError .device, st)

/-- What a call returns, and what it does. -/
def call (port : Port σ) (call : Operation) (st : Station σ) : Reply × Station σ :=
  match call with
  | .configure c => (st.configureAt port c).map .finished id
  | .start handler tag refusal => (st.startAt port handler tag refusal).map .finished id
  | .stop => (st.stop port.line).map .finished id
  | .poll => (st.poll port.line).map .batches id
  | .pollRows => (st.pollRowsAt port.line).map .rows id
  | .refresh => (st.refresh port.line).map .phase id

end Station

/-- The command of the owner that makes the call. -/
def Operation.command : Operation → Command
  | .configure c => .configure c
  | .start none tag _ => .start tag
  | .start (some reactions) tag refusal => .startNotified reactions tag refusal
  | .stop => .stop
  | .poll => .poll
  | .pollRows => .pollRows
  | .refresh => .refresh

/-- The fault of the call because of a thread that it needs and does not get. -/
def Operation.threadFault : Operation → Option DeviceFault
  | .start handler _ refusal => Station.threadFault handler refusal
  | _ => none

/-- What a handler's call returned. -/
def Reply.outcome : Reply → Outcome
  | .finished result => .finished result
  | .batches result => .polled result
  | _ => .silent

namespace Station

theorem call_owner (dev : Device σ) (call : Operation) (st : Station σ) :
    st.call (.owner dev) call = st.perform dev call.command := by
  cases call with
  | start handler tag refusal => cases handler <;> rfl
  | _ => rfl

theorem deviceConfiguration_owner (dev : Device σ) (st : Station σ) :
    st.deviceConfigurationAt (Port.owner dev).line = st.deviceConfiguration dev := rfl

end Station

/-! ## Watching a port -/

/-- A request was answered; the session at that time. -/
structure Moment where
  request : Request
  answer : request.Answer
  session : Session

/-- A device state, with the moments so far. -/
structure Watched (σ : Type) where
  device : σ
  moments : List Moment

namespace Station

/-- The station with the moments so far. -/
def watching (moments : List Moment) (st : Station σ) : Station (Watched σ) :=
  ⟨st.session, ⟨st.device, moments⟩⟩

/-- The line that keeps the moments. -/
def watched (line : Line σ) : Line (Watched σ) := fun r st =>
  let answered := line r ⟨st.session, st.device.device⟩
  (answered.1,
    answered.2.watching (st.device.moments ++ [⟨r, answered.1, answered.2.session⟩]))

variable (line : Line σ) (st : Station σ) (moments : List Moment)

@[simp] theorem session_watching : (st.watching moments).session = st.session := rfl

@[simp] theorem mk_watching (s : Session) :
    (⟨s, (st.watching moments).device⟩ : Station (Watched σ)) =
      (⟨s, st.device⟩ : Station σ).watching moments := rfl

@[simp] theorem fail_watching (f : Failure) :
    (st.watching moments).fail f = (st.fail f).watching moments := rfl

@[simp] theorem watched_line (r : Request) :
    watched line r (st.watching moments) = ((line r st).1,
      (line r st).2.watching (moments ++ [⟨r, (line r st).1, (line r st).2.session⟩])) := rfl

end Station

namespace Port

/-- The port that keeps the moments. -/
def watched (port : Port σ) : Port (Watched σ) where
  line := Station.watched port.line
  join st := (port.join ⟨st.session, st.device.device⟩).watching st.device.moments
  dismiss st := (port.dismiss ⟨st.session, st.device.device⟩).watching st.device.moments
  inside := port.inside

variable (port : Port σ) (dev : Device σ)

@[simp] theorem line_watched : port.watched.line = Station.watched port.line := rfl
@[simp] theorem inside_watched : port.watched.inside = port.inside := rfl

@[simp] theorem join_watched (st : Station σ) (moments : List Moment) :
    port.watched.join (st.watching moments) = (port.join st).watching moments := rfl

@[simp] theorem dismiss_watched (st : Station σ) (moments : List Moment) :
    port.watched.dismiss (st.watching moments) = (port.dismiss st).watching moments := rfl

@[simp] theorem line_owner : (owner dev).line = Station.line dev := rfl
@[simp] theorem join_owner : (owner dev).join = Station.join dev := rfl
@[simp] theorem dismiss_owner : (owner dev).dismiss = Station.dismiss dev := rfl
@[simp] theorem inside_owner : (owner dev).inside = false := rfl
@[simp] theorem line_handler : (handler dev).line = Station.lineInside dev := rfl
@[simp] theorem inside_handler : (handler dev).inside = true := rfl

end Port

end TriggeredSampler
