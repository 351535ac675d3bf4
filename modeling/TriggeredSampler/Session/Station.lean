import TriggeredSampler.Session.Basic

/-! # A session at its device

A `Station` joins a session with the state of its device. The operations here serve every caller: the
`Line` they take says how a request reaches the device and what becomes of the reports it raises.

* `Station.lineInside` — the line of a handler: the reports wait in the queue of the delivery until
  the handler returns.
* `Station.stop`, `Station.refresh`, `Station.poll`, `Station.release` — the operations that a
  handler may use as well.
-/

namespace TriggeredSampler

/-- A session and the state of its device. -/
structure Station (σ : Type) where
  session : Session
  device : σ

namespace Station

variable {σ : Type}

/-- How a request reaches the device. -/
abbrev Line (σ : Type) := (r : Request) → Station σ → r.Answer × Station σ

/-- Queues a report behind those that wait; without a delivery it is lost. -/
def enqueue (dev : Device σ) (st : Station σ) (report : Report) : Station σ :=
  let device := dev.sent st.session.handle report st.session.delivery.isSome st.device
  match st.session.delivery with
  | none => { st with device := device }
  | some d =>
    { session := { st.session with delivery := some { d with queue := d.queue ++ [report] } }
      device := device }

/-- A request made while a handler runs. -/
def lineInside (dev : Device σ) : Line σ := fun r st =>
  let (reports, raised) := dev.announce st.session.handle r st.device
  let queued := reports.foldl (enqueue dev) { st with device := raised }
  let (answer, device) := dev.answer queued.session.handle r queued.device
  (answer, { queued with device := device })

/-- Ends the run by a failure, unless it is over. -/
def fail (st : Station σ) (f : Failure) : Station σ :=
  { st with session := st.session.fail f }

/-- Stops the run. Once it is over this does nothing; before the first configuration there is
nothing to stop at the device. -/
def stop (line : Line σ) (st : Station σ) : Except Failure Unit × Station σ :=
  if st.session.phase.isTerminal then (.ok (), st)
  else if st.session.phase = .unconfigured then (.ok (), { st with session := st.session.cancel })
  else
    match line .stop st with
    | (.error fault, st) => (.error (.device fault), st.fail (.device fault))
    | (.ok (), st) => (.ok (), { st with session := st.session.cancel })

/-- Asks the device for the fault behind a reported failure. -/
def faultBehind (line : Line σ) (reported : Phase) (st : Station σ) :
    Option DeviceFault × Station σ :=
  if reported = .failed then line .fault st else (none, st)

/-- Asks the device for its phase and follows it. -/
def refresh (line : Line σ) (st : Station σ) : Except Failure Phase × Station σ :=
  match line .phase st with
  | (.error fault, st) => (.error (.device fault), st.fail (.device fault))
  | (.ok reported, st) =>
    let (fault, st) := st.faultBehind line reported
    let followed := { st with session := st.session.follow reported fault }
    (.ok followed.session.phase, followed)

/-- Takes the data that the device buffered. Malformed data fails the run and stops the sampler. -/
def fetch (line : Line σ) (st : Station σ) : Except Failure (List Batch) × Station σ :=
  match line .data st with
  | (.error fault, st) => (.error (.device fault), st.fail (.device fault))
  | (.ok data, st) =>
    match st.session.checkData data with
    | .error breach => (.error (.ofBreach breach), (line .stop (st.fail (.ofBreach breach))).2)
    | .ok () => (.ok data, st)

/-- Takes the data buffered since the last poll. The phase is refreshed first, so that a poll that
reports the end has returned everything. -/
def poll (line : Line σ) (st : Station σ) : Except Failure (List Batch) × Station σ :=
  if st.session.notified then (.error (.misuse .pollWithHandler), st)
  else if st.session.phase = .unconfigured then (.error (.misuse .notConfigured), st)
  else
    match st.refresh line with
    | (.error f, st) => (.error f, st)
    | (.ok _, st) => st.fetch line

/-- Gives the session up, stopping a run that is not over. -/
def release (line : Line σ) (st : Station σ) : Station σ :=
  let released := { st with session := { st.session with live := false } }
  if released.session.phase.isActive then (released.stop line).2 else released

end Station

end TriggeredSampler
