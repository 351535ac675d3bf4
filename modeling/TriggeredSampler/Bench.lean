import TriggeredSampler.Session.Command

/-! # Sessions that share a device

A `Bench` holds sessions in numbered slots, all on one device. A handle is registered while a session is
bound to it, and no other session can be bound to it then. What the device raises for a handle goes to the
session that has a delivery under way on it, whichever session made the request.

* `Bench.bind`, `Bench.drop` — sessions come and go.
* `Bench.visit`, `Bench.perform`, `Bench.stop` — an operation of one session, while the others share
  the device with it.
* `Bench.request`, `Bench.send`, `Bench.hangUp`, `Bench.await` — the device by itself.
* `Bench.settle` — sessions that are over deliver their closing notices.
-/

namespace TriggeredSampler

/-- Sessions in numbered slots, the handles they are bound to, and the state of the device they share. -/
structure Bench (σ : Type) where
  slots : List (Nat × Session)
  /-- The handles registered as bound. -/
  bindings : List Handle
  device : σ

namespace Bench

variable {σ : Type}

/-- No session is bound. -/
def start (device : σ) : Bench σ := ⟨[], [], device⟩

/-- The session in a slot; a dropped one stays there. -/
def session? (b : Bench σ) (slot : Nat) : Option Session := b.slots.lookup slot

/-- Where a slot stands among the slots: behind them if it was never used. -/
def place (b : Bench σ) (slot : Nat) : Nat := b.slots.findIdx fun entry => entry.1 == slot

/-- The bench without a slot. -/
def without (b : Bench σ) (slot : Nat) : Bench σ :=
  { b with slots := b.slots.eraseIdx (b.place slot) }

/-- Puts a session into a slot, in place of what was there. -/
def put (b : Bench σ) (slot : Nat) (s : Session) : Bench σ :=
  { b with slots := (b.without slot).slots.insertIdx (b.place slot) (slot, s) }

/-! ## Bindings -/

/-- Registers a handle that is not registered yet. -/
def acquire (b : Bench σ) (h : Handle) : Except Misuse (Bench σ) :=
  if h ∈ b.bindings then .error (.handleBound h.id) else .ok { b with bindings := h :: b.bindings }

/-- The binding of a session goes with it: the registered handles once the session `before` has become
`after`. -/
def unbind (before after : Session) (bindings : List Handle) : List Handle :=
  if before.live && !after.live then bindings.erase before.handle else bindings

/-! ## Reports -/

/-- The session that has a delivery under way on the handle, with its slot. -/
def listener? (b : Bench σ) (h : Handle) : Option (Nat × Session) :=
  b.slots.find? fun entry => entry.2.handle == h && entry.2.delivery.isSome

/-- A report of the device goes to the session that has a delivery under way on the handle; without one
it is lost. -/
def send (dev : Device σ) (b : Bench σ) (h : Handle) (report : Report) : Bench σ :=
  match b.listener? h with
  | none => { b with device := dev.sent h report false b.device }
  | some (slot, s) =>
    let st := Station.receive dev ⟨s, b.device⟩ report
    { b.put slot st.session with bindings := unbind s st.session b.bindings, device := st.device }

/-- The device will report no more on a handle: the delivery ends without a closing notice. -/
def hangUp (b : Bench σ) (h : Handle) : Bench σ :=
  { b with slots := b.slots.map fun entry =>
      if entry.2.handle == h then (entry.1, { entry.2 with delivery := none }) else entry }

/-! ## The device as one session sees it -/

/-- Delivers the reports that other sessions listen for, and returns the rest. -/
def divert (dev : Device σ) : List (Handle × Report) → Bench σ → List (Handle × Report) × Bench σ
  | [], b => ([], b)
  | report :: rest, b =>
    if (b.listener? report.1).isSome then divert dev rest (b.send dev report.1 report.2)
    else
      let (kept, b) := divert dev rest b
      (report :: kept, b)

/-- The device together with the sessions in `b`, as seen by a session that is not among them. -/
def shared (dev : Device σ) : Device (Bench σ) where
  announce h r b :=
    let (reports, device) := dev.announce h r b.device
    let (kept, b) := divert dev (reports.map (Prod.mk h)) { b with device := device }
    (kept.map Prod.snd, b)
  answer h r b :=
    let (answer, device) := dev.answer h r b.device
    (answer, { b with device := device })
  sent h report heard b := { b with device := dev.sent h report heard b.device }
  advance b :=
    let (reports, device) := dev.advance b.device
    divert dev reports { b with device := device }
  holdsOn h b := dev.holdsOn h b.device

/-- Takes the session out of a slot for an operation, and puts it back. -/
def visit {α : Type} (b : Bench σ) (slot : Nat) (s : Session)
    (operation : Station (Bench σ) → α × Station (Bench σ)) : α × Bench σ :=
  let (result, st) := operation ⟨s, b.without slot⟩
  (result, { st.device with
    slots := st.device.slots.insertIdx (b.place slot) (slot, st.session)
    bindings := unbind s st.session st.device.bindings })

/-! ## Sessions -/

/-- A command to the session in a slot; `none` if there is none, or if it was dropped. -/
def perform (dev : Device σ) (b : Bench σ) (slot : Nat) (command : Command) :
    Option (Reply × Bench σ) :=
  match b.session? slot with
  | none => none
  | some s =>
    if s.live then some (b.visit slot s (Station.perform (shared dev) command)) else none

/-- Stops the session that was bound in a slot, even if it was dropped since. -/
def stop (dev : Device σ) (b : Bench σ) (slot : Nat) : Option (Except Failure Unit × Bench σ) :=
  (b.session? slot).map fun s => b.visit slot s (Station.halt (shared dev))

/-- Drops the session in a slot. -/
def drop (dev : Device σ) (b : Bench σ) (slot : Nat) : Bench σ :=
  match b.session? slot with
  | none => b
  | some s => (b.visit slot s fun st => ((), st.drop (shared dev))).2

/-- Binds a new session to a handle that is not registered, and puts it into a slot. The session that
was there is dropped afterwards. -/
def bind (dev : Device σ) (b : Bench σ) (slot : Nat) (h : Handle) (options : Options) :
    Except Failure Unit × Bench σ :=
  match b.acquire h with
  | .error m => (.error (.misuse m), b)
  | .ok b => (.ok (), (b.drop dev slot).put slot (.bind h options))

/-- Takes the notes of the session in a slot. -/
def takeNotes (b : Bench σ) (slot : Nat) : List Note × Bench σ :=
  match b.session? slot with
  | none => ([], b)
  | some s => (s.notes, b.put slot { s with notes := [] })

/-- The sessions in the given slots deliver their closing notices, if they are due. -/
def settle (dev : Device σ) : List Nat → Bench σ → Bench σ
  | [], b => b
  | slot :: rest, b =>
    match b.session? slot with
    | none => settle dev rest b
    | some s => settle dev rest (b.visit slot s fun st => ((), st.close (shared dev))).2

/-- All sessions deliver their closing notices, if they are due. -/
def settleAll (dev : Device σ) (b : Bench σ) : Bench σ :=
  b.settle dev (b.slots.map Prod.fst)

/-! ## The device by itself -/

/-- A request that no session makes. -/
def request (dev : Device σ) (b : Bench σ) (h : Handle) (r : Request) : r.Answer × Bench σ :=
  let (reports, device) := dev.announce h r b.device
  let told := reports.foldl (fun b report => b.send dev h report) { b with device := device }
  let (answer, device) := dev.answer h r told.device
  (answer, { told with device := device })

/-- A millisecond passes. -/
def pass (dev : Device σ) (b : Bench σ) : Bench σ :=
  let (reports, device) := dev.advance b.device
  reports.foldl (fun b report => b.send dev report.1 report.2) { b with device := device }

/-- Asks a device for its phase once a millisecond until `done` holds of it, at most `left` times
more. -/
def await (dev : Device σ) (h : Handle) (done : Phase → Bool) (limit : Nat) :
    (left : Nat) → Bench σ → Except Failure Phase × Bench σ
  | left, b =>
    match b.request dev h .phase with
    | (.error fault, b) => (.error (.device fault), b)
    | (.ok phase, b) =>
      if done phase then (.ok phase, b)
      else
        match left with
        | 0 => (.error (.timeout (.ofMilliseconds limit)), b)
        | left + 1 => await dev h done limit left (b.pass dev)

end Bench

end TriggeredSampler
