import TriggeredSampler.Session.Station

/-! # The delivery of reports

The reports of a run are delivered to its handler one at a time and in order. Each is applied to the
session, shown to the handler as a notice, and followed by the handler's reaction. A notice in a
terminal phase is the last one. A run that the session ended by itself gets a closing notice.

A report that the handler's own requests raise waits until the handler has returned; all others are
delivered at once.

* `Station.react` — what a reaction does.
* `Station.deliver` — one report, from acceptance to the end of the reaction.
* `Station.receive` — a report from the device, with everything that it brings about.
* `Station.close` — the closing notice, if it is due.
* `Station.join` — the wait for the end of a delivery.
-/

namespace TriggeredSampler.Station

variable {σ : Type}

/-- What a handler does with a notice. Configuring and starting are refused from inside a handler;
of a dropped session only the stop is left. -/
def react (dev : Device σ) (reaction : Reaction) (st : Station σ) : Outcome × Station σ :=
  match reaction with
  | .nothing => (.silent, st)
  | .stop =>
    let (result, st) := st.stop (lineInside dev)
    (.finished result, st)
  | .configure _ =>
    (if st.session.live then .finished (.error (.misuse .reentrantCall)) else .silent, st)
  | .start _ =>
    (if st.session.live then .finished (.error (.misuse .reentrantCall)) else .silent, st)
  | .poll =>
    if st.session.live then
      let (result, st) := st.poll (lineInside dev)
      (.polled result, st)
    else (.silent, st)
  | .drop => (.silent, if st.session.live then st.release (lineInside dev) else st)
  | .panic _ => (.silent, st)

/-- The panic of a reaction; one without a text is called unknown. -/
def panicOf : Reaction → Option String
  | .panic message => some (message.getD "unknown panic payload")
  | _ => none

/-- Takes the handler's next reaction; behind the last one it does nothing. -/
def nextReaction (st : Station σ) : Reaction × Station σ :=
  match st.session.delivery with
  | none => (.nothing, st)
  | some d =>
    (d.reactions.headD .nothing,
      { st with session := { st.session with
          delivery := some { d with reactions := d.reactions.tail } } })

/-- Shows a notice to the handler and notes what came of it. -/
def notify (dev : Device σ) (notice : Notice) (st : Station σ) : Station σ :=
  let (reaction, st) := st.nextReaction
  let (outcome, st) := st.react dev reaction
  { st with session := { st.session with
      notes := st.session.notes ++ [⟨notice, outcome⟩]
      panic := panicOf reaction <|> st.session.panic } }

/-- Ends the delivery; what is still queued is discarded. -/
def endDelivery (st : Station σ) : Station σ :=
  { st with session := { st.session with delivery := none } }

/-- Shows a notice, the last one if it is in a terminal phase. -/
def present (dev : Device σ) (notice : Notice) (st : Station σ) : Station σ :=
  let notified := st.notify dev notice
  if notice.phase.isTerminal then notified.endDelivery else notified

/-- Delivers one report. A sampler that sent malformed data is stopped before the handler sees the
notice. -/
def deliver (dev : Device σ) (report : Report) (st : Station σ) : Station σ :=
  let (notice, malformed, session) := st.session.accept report
  let accepted := { st with session := session }
  let halted := if malformed then (lineInside dev .stop accepted).2 else accepted
  halted.present dev notice

/-- Takes the first report off the queue. -/
def dequeue (st : Station σ) : Option (Report × Station σ) :=
  match st.session.delivery with
  | none => none
  | some d =>
    match d.queue with
    | [] => none
    | report :: rest =>
      some (report, { st with session := { st.session with delivery := some { d with queue := rest } } })

/-- Delivers up to `rounds` of the queued reports. -/
def drain (dev : Device σ) : (rounds : Nat) → Station σ → Station σ
  | 0, st => st
  | rounds + 1, st =>
    match st.dequeue with
    | none => st
    | some (report, st) => drain dev rounds (st.deliver dev report)

/-- The number of reports that wait. -/
def queued (st : Station σ) : Nat :=
  match st.session.delivery with
  | none => 0
  | some d => d.queue.length

/-- Delivers everything that waits. A reaction adds to the queue only by ending the session, and the
next report is then the last one delivered: one round more than reports is enough. -/
def drainAll (dev : Device σ) (st : Station σ) : Station σ :=
  st.drain dev (st.queued + 1)

/-- Receives a report and delivers everything that waits then. -/
def receive (dev : Device σ) (st : Station σ) (report : Report) : Station σ :=
  (st.enqueue dev report).drainAll dev

/-- The delivery of a session that is over delivers its closing notice. -/
def close (dev : Device σ) (st : Station σ) : Station σ :=
  match st.session.delivery with
  | none => st
  | some d =>
    if st.session.phase.isTerminal then st.present dev (st.session.closing d) else st

/-- Waits for the delivery under way to end. Once the session is over it does: with the first report that
is queued, or else with the closing notice. -/
def join (dev : Device σ) (st : Station σ) : Station σ :=
  match st.session.delivery with
  | none => st
  | some _ =>
    if st.session.phase.isTerminal then (st.drainAll dev).close dev
    else { st with session := { st.session with stalled := true } }

end TriggeredSampler.Station
