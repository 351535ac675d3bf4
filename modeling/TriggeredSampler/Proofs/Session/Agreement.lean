import TriggeredSampler.Proofs.Device.Twins
import TriggeredSampler.Proofs.Session.Serving

/-! # Polls and notices tell the same rows

One run of a simulated device is polled by one session, and reported to the handler of another. Whenever the
first session polls, it has got the rows that the handler of the other one has seen.

* `Beat` — what happens during a run.
* `Station.Agree` — the two sessions between the beats.
* `Station.polls_eq_notices` — the rows of the polls are those of the notices.
-/

namespace TriggeredSampler

/-- What happens while a run is under way. -/
inductive Beat where
  /-- The registers of the device change. -/
  | change (f : Registers → Registers)
  /-- A millisecond passes. -/
  | pass
  /-- A session that can be polled is polled. -/
  | poll

def Beat.isPoll : Beat → Bool
  | .poll => true
  | _ => false

/-- The reaction leaves the run alone. -/
def Reaction.isQuiet : Reaction → Bool
  | .stop | .drop => false
  | _ => true

/-- The rows that the handlers have seen. -/
def Session.shown (s : Session) : List Row := s.notes.flatMap fun note => note.notice.rows

theorem Session.accept_of_numbered {s : Session} {report : Report}
    {rows : List Row} {n : Numbering} (whole : wholeSamples s.tracked report.data = true)
    (numbered : s.numbering.number report.data = (.ok rows, n)) :
    s.accept report =
      ((({ s with numbering := n }).follow report.phase report.fault).notice report.data rows report.tag,
        false, ({ s with numbering := n }).follow report.phase report.fault) := by
  rw [accept, checkData_eq_ok_iff.2 whole]
  simp only [Session.number, numbered]

/-- The write around a start, as the registers of the device take it. -/
def Session.writeAt (s : Session) (trigger : Trigger) (offset : Int) (rs : Registers) :
    Except DeviceFault Unit × Registers :=
  if s.options.armsTrigger && trigger.condition.readsAddress then
    rs.write trigger.address (trigger.value.toNat + offset) s.options.triggerBits
  else (.ok (), rs)

namespace Station

/-- A beat, without the poll. -/
def beat (st : Station Simulation) : Beat → Station Simulation
  | .change f => { st with device := (st.device.changeRegisters st.session.handle f).2 }
  | .pass => st.pass Simulation.device
  | .poll => st

/-- The beats of a session with a handler. -/
def listen (st : Station Simulation) (beats : List Beat) : Station Simulation := beats.foldl beat st

/-- The beats of a session without, and the results of the polls. -/
def pollAlong : List Beat → Station Simulation → List (Except Failure (List Row)) × Station Simulation
  | [], st => ([], st)
  | .poll :: rest, st =>
    let (rows, st) := st.pollRows Simulation.device
    let (more, st) := pollAlong rest st
    (rows :: more, st)
  | beat :: rest, st => pollAlong rest (st.beat beat)

variable {c : Configuration} {h : Handle} {m p q : Node} {st st' : Station Simulation}

/-! ## Requests to a simulated device -/

theorem line_simulation (handle : st.session.handle = h) (node : st.device.node? h = some m) {r : Request}
    (other : r ≠ .stop) :
    ∃ device, line Simulation.device r st = ((m.answer r).1, ⟨st.session, device⟩) ∧
      device.node? h = some (m.answer r).2 := by
  subst handle
  have silent : m.announce r = ([], m) := by cases r <;> first | rfl | exact absurd rfl other
  have announced : Simulation.announce st.session.handle r st.device =
      ([], st.device.putNode st.session.handle m) := by
    unfold Simulation.announce
    rw [node]
    simp only [silent]
  have same := Simulation.node?_putNode node m
  refine ⟨_, ?_, Simulation.node?_putNode same _⟩
  unfold line
  simp only [Simulation.device, announced, List.foldl_nil, Simulation.answer]
  rw [same]

/-- A session follows the phase of its device, and nothing else changes. -/
theorem refresh_simulation (handle : st.session.handle = h) (node : st.device.node? h = some m) :
    ∃ followed device, st.refresh (line Simulation.device) = (.ok followed.phase, ⟨followed, device⟩) ∧
      device.node? h = some m ∧ followed = { st.session with lifecycle := followed.lifecycle } ∧
      st.session.lifecycle.Onward followed.lifecycle := by
  obtain ⟨device, asked, node⟩ := line_simulation handle node (r := .phase) (by simp)
  have blamed : ∃ fault device', faultBehind (line Simulation.device) m.status.phase ⟨st.session, device⟩ =
      (fault, ⟨st.session, device'⟩) ∧ device'.node? h = some m := by
    unfold faultBehind
    split
    next =>
      obtain ⟨device', asked, node'⟩ := @line_simulation h m ⟨st.session, device⟩ handle node .fault (by simp)
      exact ⟨_, device', asked, node'⟩
    next => exact ⟨none, device, rfl, node⟩
  obtain ⟨fault, device', blames, node'⟩ := blamed
  refine ⟨st.session.follow m.status.phase fault, device', ?_, node', Session.follow_eq ..,
    Session.follow_onward ..⟩
  unfold Station.refresh
  rw [asked]
  simp only [Node.answer, blames]

/-- A session that is polled, and its device. -/
structure Polls (c : Configuration) (h : Handle) (p : Node) (st : Station Simulation) : Prop where
  handle : st.session.handle = h
  node : st.device.node? h = some p
  notified : st.session.notified = false
  begun : st.session.phase.begun = true
  tracked : st.session.tracked = c.tracked.length
  numbering : st.session.numbering.tracked = c.tracked.length
  whole : wholeSamples c.tracked.length p.status.data = true

/-- A poll gets everything that waits, numbered behind the rows before. -/
theorem Polls.pollRows (polls : Polls c h p st) {rows : List Row} {n : Numbering}
    (numbered : st.session.numbering.number p.status.data = (.ok rows, n)) :
    ∃ polled, st.pollRows Simulation.device = (.ok rows, polled) ∧
      Polls c h { p with status := { p.status with data := [] } } polled ∧
      polled.session.numbering = n := by
  obtain ⟨handle, node, notified, begun, tracked, numbering, whole⟩ := polls
  have configured : st.session.phase ≠ .unconfigured := by
    intro phase
    rw [phase] at begun
    cases begun
  obtain ⟨followed, device, refreshed, node, frame, onward⟩ := refresh_simulation handle node
  have handle' : followed.handle = h := by rw [frame, handle]
  have tracked' : followed.tracked = c.tracked.length := by rw [frame, tracked]
  obtain ⟨device', taken, node'⟩ := @line_simulation h p ⟨followed, device⟩ handle' node .data (by simp)
  have checked : followed.checkData p.status.data = .ok () := by
    rw [Session.checkData_eq_ok_iff, tracked', whole]
  have same : followed.numbering = st.session.numbering := by rw [frame]
  have kept : n.tracked = c.tracked.length := by
    have tracks := st.session.numbering.tracked_number p.status.data
    rw [numbered] at tracks
    rw [tracks, numbering]
  refine ⟨⟨{ followed with numbering := n }, device'⟩, ?_,
    ⟨handle', node', by simp only; rw [frame, notified], onward.begun begun, tracked', kept, rfl⟩, rfl⟩
  unfold Station.pollRows Station.poll
  rw [if_neg (by simp [notified]), if_neg configured, refreshed]
  simp only [fetch, taken, Node.answer, checked, Session.number, same, numbered]
  rfl

/-! ## Reports to a handler -/

variable {σ : Type} (dev : Device σ)

theorem foldl_overhear_of_singleton {st : Station σ} {raised : List (Handle × Report)} {report : Report}
    (one : reportsOf st.session.handle raised = [report])
    (same : (st.receive dev report).session.handle = st.session.handle) :
    raised.foldl (overhear dev) st = st.receive dev report := by
  -- by induction on the reports, of which one comes from the own handle
  induction raised with
  | nil => cases one
  | cons entry rest ih =>
    obtain ⟨own, first⟩ := entry
    by_cases mine : own = st.session.handle
    · rw [mine, reportsOf_cons_self] at one
      obtain ⟨rfl, silent⟩ := List.cons.inj one
      rw [List.foldl_cons, overhear, if_pos mine, foldl_overhear_of_nil]
      rw [same, silent]
    · rw [reportsOf_cons_of_ne mine] at one
      rw [List.foldl_cons, overhear, if_neg mine, ih one]

theorem pass_of_report {st told : Station σ} {report : Report}
    (one : reportsOf st.session.handle (dev.advance st.device).1 = [report])
    (received : ({ st with device := (dev.advance st.device).2 } : Station σ).receive dev report = told)
    (same : told.session.handle = st.session.handle) : st.pass dev = told := by
  subst received
  exact @foldl_overhear_of_singleton _ dev ⟨st.session, _⟩ _ report one same

/-- A report that finds no other waiting is delivered. -/
theorem receive_eq {st : Station σ} {d : Delivery} (delivery : st.session.delivery = some d)
    (idle : d.queue = []) (report : Report) :
    st.receive dev report =
      (deliver dev report ⟨st.session, dev.sent st.session.handle report true st.device⟩).drain dev 1 := by
  have queued : st.enqueue dev report = ⟨{ st.session with
      delivery := some { d with queue := [report] } }, dev.sent st.session.handle report true st.device⟩ := by
    unfold enqueue
    simp [delivery, idle]
  have waiting : ({ d with queue := [] } : Delivery) = d := by rw [← idle]
  have session : ({ st.session with delivery := some d } : Session) = st.session := by rw [← delivery]
  rw [receive, queued, drainAll]
  simp [Station.queued, drain, dequeue, waiting, session]

theorem react_of_isQuiet (st : Station σ) {reaction : Reaction} (quiet : reaction.isQuiet = true)
    (notified : st.session.notified = true) : (st.react dev reaction).2 = st := by
  cases reaction with
  | stop | drop => cases quiet
  | poll =>
    simp only [react, poll, notified, if_true]
    split <;> rfl
  | _ => rfl

/-- A notice is shown to a handler that leaves the run alone. -/
theorem present_of_isQuiet (st : Station σ) {d : Delivery} (notified : st.session.notified = true)
    (delivery : st.session.delivery = some d) (quiet : ∀ reaction ∈ d.reactions, reaction.isQuiet = true)
    (notice : Notice) :
    ∃ outcome panic, st.present dev notice = ⟨{ st.session with
      delivery := if notice.phase.isTerminal then none else some { d with reactions := d.reactions.tail }
      notes := st.session.notes ++ [⟨notice, outcome⟩]
      panic := panic }, st.device⟩ := by
  obtain ⟨reacted, outcome, panic, reacts, notifies⟩ := notify_react dev delivery notice
  have next : (d.reactions.headD .nothing).isQuiet = true := by
    cases reactions : d.reactions with
    | nil => rfl
    | cons first rest => exact quiet first (by simp [reactions])
  have same := react_of_isQuiet dev (st.awaiting { d with reactions := d.reactions.tail }) next notified
  rw [reacts] at same
  obtain rfl : reacted = _ := same
  refine ⟨outcome, panic, ?_⟩
  unfold present
  rw [notifies]
  by_cases ended : notice.phase.isTerminal = true
  · simp [ended, noting, awaiting, endDelivery]
  · simp [ended, noting, awaiting]

/-- A report is shown to a handler that leaves the run alone, in the phase that the session follows to. -/
theorem receive_of_isQuiet (st : Station σ) {d : Delivery} {report : Report} {rows : List Row}
    {n : Numbering} (notified : st.session.notified = true) (delivery : st.session.delivery = some d)
    (idle : d.queue = []) (quiet : ∀ reaction ∈ d.reactions, reaction.isQuiet = true)
    (whole : wholeSamples st.session.tracked report.data = true)
    (numbered : st.session.numbering.number report.data = (.ok rows, n)) {followed : Session}
    (follows : ({ st.session with numbering := n }).follow report.phase report.fault = followed) :
    ∃ outcome panic, st.receive dev report = ⟨{ followed with
        delivery := if followed.phase.isTerminal then none else some { d with reactions := d.reactions.tail }
        notes := followed.notes ++ [⟨followed.notice report.data rows report.tag, outcome⟩]
        panic := panic }, dev.sent st.session.handle report true st.device⟩ := by
  have frame := ({ st.session with numbering := n } : Session).follow_eq report.phase report.fault
  have accepts := Session.accept_of_numbered whole numbered
  rw [follows] at frame accepts
  obtain ⟨outcome, panic, presents⟩ := present_of_isQuiet dev
    ⟨followed, dev.sent st.session.handle report true st.device⟩
    (by rw [frame]; exact notified) (by rw [frame]; exact delivery) quiet
    (followed.notice report.data rows report.tag)
  refine ⟨outcome, panic, ?_⟩
  rw [receive_eq dev delivery idle, deliver]
  simp only [accepts, Bool.false_eq_true, if_false, presents]
  -- nothing waits behind the report
  by_cases ended : followed.phase.isTerminal = true <;>
    simp [drain, dequeue, Session.notice, ended, idle]

/-- A session whose handler leaves the run alone, and its device. -/
structure Listens (c : Configuration) (h : Handle) (q : Node) (st : Station Simulation) : Prop where
  handle : st.session.handle = h
  node : st.device.node? h = some q
  notified : st.session.notified = true
  tracked : st.session.tracked = c.tracked.length
  phase : st.session.phase = q.status.phase
  delivery : st.session.phase.isActive = true → ∃ d, st.session.delivery = some d ∧ d.queue = [] ∧
    ∀ reaction ∈ d.reactions, reaction.isQuiet = true

/-- A report is shown at once, its rows numbered behind those before. -/
theorem Listens.receive {q' : Node} {device : Simulation} {report : Report} {rows : List Row}
    {n : Numbering} (listens : Listens c h q st) (active : q.status.phase.isActive = true)
    (node : device.node? h = some q') (phase : report.phase = q'.status.phase)
    (begun : report.phase.begun = true) (explained : report.phase = .failed → report.fault.isSome = true)
    (whole : wholeSamples c.tracked.length report.data = true)
    (numbered : st.session.numbering.number report.data = (.ok rows, n)) :
    ∃ shown, Station.receive Simulation.device ⟨st.session, device⟩ report = shown ∧
      Listens c h q' shown ∧ shown.session.numbering = n ∧
      shown.session.shown = st.session.shown ++ rows := by
  obtain ⟨handle, _, notified, tracked, same, delivering⟩ := listens
  rw [← same] at active
  obtain ⟨d, delivery, idle, quiet⟩ := delivering active
  have follows := (Session.follow_reported (s := { st.session with numbering := n }) active begun explained).1
  have frame := ({ st.session with numbering := n } : Session).follow_eq report.phase report.fault
  generalize followed : ({ st.session with numbering := n } : Session).follow report.phase report.fault = s
    at follows frame
  obtain ⟨outcome, panic, received⟩ := receive_of_isQuiet Simulation.device
    ⟨st.session, device⟩ notified delivery idle quiet (by rw [tracked, whole]) numbered followed
  refine ⟨_, received, ⟨?_, node, ?_, ?_, follows.trans phase, ?_⟩, ?_, ?_⟩
  · rw [frame]
    exact handle
  · rw [frame]
    exact notified
  · rw [frame]
    exact tracked
  · intro going
    have going : s.phase.isActive = true := going
    refine ⟨{ d with reactions := d.reactions.tail }, ?_, idle, ?_⟩
    · simp [Phase.isTerminal_of_isActive going]
    · exact fun reaction member => quiet reaction (List.mem_of_mem_tail member)
  · rw [frame]
  · rw [frame]
    simp [Session.shown, Session.notice]

/-! ## The beats of a run -/

/-- Two sessions on one run: `st` is polled, and got the rows `taken`; the handler of `st'` has seen these
and the rows that wait to be polled. -/
structure Agree (c : Configuration) (h : Handle) (taken : List Row) (st st' : Station Simulation) :
    Prop where
  nodes : ∃ p q, Polls c h p st ∧ Listens c h q st' ∧ Node.Twins c st'.session.numbering p q ∧
    ∃ rows, st.session.numbering.number p.status.data = (.ok rows, st'.session.numbering) ∧
      taken ++ rows = st'.session.shown
  reached : Numbering.Reached st'.session.shown st'.session.numbering

variable {taken : List Row}

theorem Agree.poll (agree : Agree c h taken st st') :
    ∃ rows polled, st.pollRows Simulation.device = (.ok rows, polled) ∧
      taken ++ rows = st'.session.shown ∧ Agree c h (taken ++ rows) polled st' := by
  obtain ⟨⟨p, q, polls, listens, twins, rows, numbered, shown⟩, reached⟩ := agree
  obtain ⟨polled, result, polls', numbering⟩ := polls.pollRows numbered
  refine ⟨rows, polled, result, shown, ⟨_, q, polls', listens, ?_, [], ?_, ?_⟩, reached⟩
  · exact ⟨twins.tracked, twins.registers, twins.age, twins.working⟩
  · rw [numbering]
    rfl
  · rw [List.append_nil, shown]

theorem Agree.change (agree : Agree c h taken st st') (f : Registers → Registers) :
    Agree c h taken (st.beat (.change f)) (st'.beat (.change f)) := by
  obtain ⟨⟨p, q, polls, listens, twins, waits⟩, reached⟩ := agree
  have changes : ∀ {m : Node} {s : Simulation}, s.node? h = some m →
      (s.changeRegisters h f).2.node? h = some { m with registers := f m.registers } := by
    intro m s node
    unfold Simulation.changeRegisters Simulation.change
    rw [node]
    exact Simulation.node?_putNode node _
  refine ⟨⟨{ p with registers := f p.registers }, { q with registers := f q.registers },
    { polls with node := ?_ }, { listens with node := ?_ }, twins.change f, waits⟩, reached⟩
  · rw [beat, polls.handle]
    exact changes polls.node
  · rw [beat, listens.handle]
    exact changes listens.node

theorem Agree.pass (agree : Agree c h taken st st') :
    Agree c h taken (st.beat .pass) (st'.beat .pass) := by
  obtain ⟨⟨p, q, polls, listens, twins, rows, numbered, shown⟩, reached⟩ := agree
  obtain ⟨node, raised⟩ := Simulation.advance_node polls.node
  obtain ⟨node', raised'⟩ := Simulation.advance_node listens.node
  obtain ⟨silent, outcome⟩ := twins.pass
  have passed : st.beat .pass = ⟨st.session, st.device.advance.2⟩ := by
    apply pass_of_silent
    rw [polls.handle, ← silent]
    exact raised
  rw [passed]
  rcases outcome with ⟨silent', twins', data, phase⟩ | ⟨report, more, n', one, tells⟩
  · -- the device does not report either
    have passed' : st'.beat .pass = ⟨st'.session, st'.device.advance.2⟩ := by
      apply pass_of_silent
      rw [listens.handle, ← silent']
      exact raised'
    rw [passed']
    refine ⟨⟨p.pass.2, q.pass.2, { polls with node := node, whole := ?_ },
      { listens with node := node', phase := listens.phase.trans phase.symm }, twins', rows, ?_, shown⟩,
      reached⟩
    · rw [data]
      exact polls.whole
    · rw [data]
      exact numbered
  · -- what one device reports joins what waits at the other
    obtain ⟨told, received, listens', numbering, shown'⟩ := listens.receive tells.active node' tells.phase
      tells.begun tells.explained tells.whole tells.numbered
    have passed' : st'.beat .pass = told := by
      apply pass_of_report _ _ received (listens'.handle.trans listens.handle.symm)
      rw [listens.handle, ← one]
      exact raised'
    rw [passed']
    refine ⟨⟨p.pass.2, q.pass.2, { polls with node := node, whole := ?_ }, listens', ?_, rows ++ more,
      ?_, ?_⟩, ?_⟩
    · rw [tells.buffered]
      exact Node.wholeSamples_buffer _ polls.whole tells.whole
    · rw [numbering]
      exact tells.twins
    · rw [tells.buffered, Numbering.number_buffer, numbering]
      · exact Numbering.number_append_of_ok numbered tells.numbered
      · rw [polls.numbering]
        exact polls.whole
      · rw [polls.numbering]
        exact tells.whole
    · rw [← List.append_assoc, shown, shown']
    · rw [shown', numbering]
      exact tells.reached _ reached

theorem Agree.along (agree : Agree c h taken st st') (beats : List Beat) :
    ∃ polls : List (List Row), (st.pollAlong beats).1 = polls.map .ok ∧
      Agree c h (taken ++ polls.flatten) (st.pollAlong beats).2 (st'.listen beats) := by
  induction beats generalizing taken st st' with
  | nil => exact ⟨[], rfl, by simpa [pollAlong, listen] using agree⟩
  | cons beat rest ih =>
    cases beat with
    | change f => exact ih (agree.change f)
    | pass => exact ih agree.pass
    | poll =>
      obtain ⟨rows, polled, result, _, agree⟩ := agree.poll
      obtain ⟨polls, results, agree⟩ := ih agree
      refine ⟨rows :: polls, ?_, ?_⟩
      · simp [pollAlong, result, results]
      · simp only [pollAlong, result]
        rw [List.flatten_cons, ← List.append_assoc]
        exact agree

theorem pollAlong_append (beats others : List Beat) (st : Station Simulation) :
    st.pollAlong (beats ++ others) =
      ((st.pollAlong beats).1 ++ ((st.pollAlong beats).2.pollAlong others).1,
        ((st.pollAlong beats).2.pollAlong others).2) := by
  induction beats generalizing st with
  | nil => rfl
  | cons beat rest ih => cases beat <;> simp [pollAlong, ih]

theorem listen_filter (st : Station Simulation) (beats : List Beat) :
    st.listen (beats.filter fun beat => !beat.isPoll) = st.listen beats := by
  unfold listen
  induction beats generalizing st with
  | nil => rfl
  | cons beat rest ih =>
    cases beat with
    | poll => simpa [Beat.isPoll, Station.beat] using ih st
    | _ => simpa [Beat.isPoll] using ih _

/-- With a last poll, the polls got the rows that the handler has seen. -/
theorem Agree.polls (agree : Agree c h [] st st') (beats : List Beat) :
    ∃ polls : List (List Row), (st.pollAlong (beats ++ [.poll])).1 = polls.map .ok ∧
      polls.flatten = (st'.listen (beats.filter fun beat => !beat.isPoll)).session.shown ∧
      Consecutive polls.flatten := by
  obtain ⟨polls, results, along⟩ := agree.along beats
  obtain ⟨rows, polled, result, shown, last⟩ := along.poll
  rw [List.nil_append] at shown
  have all : (polls ++ [rows]).flatten = (st'.listen beats).session.shown := by
    rw [List.flatten_append, List.flatten_singleton, shown]
  refine ⟨polls ++ [rows], ?_, by rw [listen_filter, all], by rw [all]; exact last.reached.toConsecutive⟩
  rw [pollAlong_append, results]
  simp [pollAlong, result]

/-! ## Configuring and starting -/

/-- A session that was bound to a device, and accepted a configuration together with it. -/
structure Prepared (c : Configuration) (h : Handle) (m : Node) (st : Station Simulation) : Prop where
  handle : st.session.handle = h
  node : st.device.node? h = some m
  valid : c.validate = .ok ()
  record : m.record = some c.encode
  configuration : st.session.configuration = some c
  lifecycle : st.session.lifecycle = .configured
  tracked : st.session.tracked = c.tracked.length
  numbering : st.session.numbering = .start c.tracked.length
  delivery : st.session.delivery = none
  notes : st.session.notes = []

theorem prepared_of_configure {options : Options} {s : Simulation}
    (accepted : (⟨.bind h options, s⟩ : Station Simulation).configure Simulation.device c = (.ok (), st)) :
    ∃ m, Prepared c h m st := by
  unfold Station.configure at accepted
  cases valid : c.validate with
  | error defect => simp [valid] at accepted
  | ok _ =>
    have idle : (Session.bind h options).phase.isActive = false := rfl
    simp only [valid, idle, Bool.false_eq_true, if_false] at accepted
    have joined : (⟨.bind h options, s⟩ : Station Simulation).join Simulation.device =
        ⟨.bind h options, s⟩ := rfl
    rw [joined] at accepted
    cases node : s.node? h with
    | none =>
      have refused : line Simulation.device (.configure c) ⟨.bind h options, s⟩ =
          (.error (Simulation.unknown h), ⟨.bind h options, s⟩) := by
        simp [line, Simulation.device, Simulation.announce, Simulation.answer, Session.bind, node,
          Simulation.refuseFirst, valid]
      rw [refused] at accepted
      cases accepted
    | some m =>
      obtain ⟨device, answered, node'⟩ :=
        @line_simulation h m ⟨.bind h options, s⟩ rfl node (.configure c) (by simp)
      rw [answered] at accepted
      cases active : m.status.phase.isActive with
      | true => simp [Node.answer, Node.configure, valid, active] at accepted
      | false =>
        have adopts : (Session.bind h options).lifecycle.configure = .ok .configured := rfl
        simp only [Node.answer, Node.configure, valid, active, Bool.false_eq_true, if_false, adopts]
          at accepted node'
        cases accepted
        exact ⟨_, rfl, node', valid, rfl, rfl, rfl, rfl, rfl, rfl, rfl⟩

theorem writeTrigger_simulation (handle : st.session.handle = h) (node : st.device.node? h = some m)
    (trigger : Trigger) (offset : Int) :
    ∃ device, st.writeTrigger Simulation.device trigger offset =
        ((st.session.writeAt trigger offset m.registers).1, ⟨st.session, device⟩) ∧
      device.node? h = some { m with registers := (st.session.writeAt trigger offset m.registers).2 } := by
  unfold Station.writeTrigger Session.writeAt
  split
  next =>
    exact line_simulation handle node (r := .write trigger.address (trigger.value.toNat + offset)
      st.session.options.triggerBits) (by simp)
  next => exact ⟨st.device, rfl, node⟩

/-- A run goes on exactly if the device takes the write behind the start. -/
theorem activate_simulation (handle : st.session.handle = h) (node : st.device.node? h = some m)
    (trigger : Trigger) :
    (∃ device, (st.session.writeAt trigger 1 m.registers).1 = .ok () ∧
        st.activate Simulation.device trigger = (.ok (), ⟨st.session, device⟩) ∧
        device.node? h = some { m with registers := (st.session.writeAt trigger 1 m.registers).2 }) ∨
      ((st.session.writeAt trigger 1 m.registers).1 ≠ .ok () ∧
        (st.activate Simulation.device trigger).1 ≠ .ok ()) := by
  obtain ⟨device, written, node'⟩ := writeTrigger_simulation handle node trigger 1
  unfold activate
  rw [written]
  cases second : (st.session.writeAt trigger 1 m.registers).1 with
  | error fault => exact .inr ⟨by simp, by simp⟩
  | ok _ => exact .inl ⟨device, rfl, rfl, node'⟩

/-- The device takes the writes around a start and the start between them, after which it is `m'`. -/
structure Starts (s : Session) (c : Configuration) (m : Node) (reported : Bool) (tag : Int) (m' : Node) :
    Prop where
  first : (s.writeAt c.start 0 m.registers).1 = .ok ()
  started : ({ m with registers := (s.writeAt c.start 0 m.registers).2 } : Node).start reported tag =
    (.ok (), m')
  second : (s.writeAt c.start 1 m'.registers).1 = .ok ()

/-- A start succeeds exactly if the device takes everything. -/
theorem Prepared.start_cases (prepared : Prepared c h m st) (handler : Option (List Reaction)) (tag : Int) :
    (∃ m' device, Starts st.session c m handler.isSome tag m' ∧
        st.start Simulation.device handler tag none = (.ok (), ⟨st.session.armed handler tag, device⟩) ∧
        device.node? h =
          some { m' with registers := (st.session.writeAt c.start 1 m'.registers).2 }) ∨
      ((st.start Simulation.device handler tag none).1 ≠ .ok () ∧
        ∀ m', ¬Starts st.session c m handler.isSome tag m') := by
  have startable : st.startTrigger = .ok c.start := by
    unfold startTrigger Session.phase
    rw [prepared.lifecycle, prepared.configuration]
    rfl
  have joined : ∀ device, (⟨st.session, device⟩ : Station Simulation).join Simulation.device =
      ⟨st.session, device⟩ := fun _ => join_of_closed _ prepared.delivery
  obtain ⟨device, written, node⟩ := writeTrigger_simulation prepared.handle prepared.node c.start 0
  unfold Station.start
  rw [startable]
  simp only [written]
  cases first : (st.session.writeAt c.start 0 m.registers).1 with
  | error fault =>
    refine .inr ⟨by simp, fun m' starts => ?_⟩
    rw [starts.first] at first
    cases first
  | ok _ =>
    simp only [joined, threadFault_of_created]
    unfold launch openDelivery
    simp only [prepared.lifecycle, Lifecycle.arm]
    obtain ⟨device', answered, node'⟩ := @line_simulation h _ ⟨st.session.armed handler tag, device⟩
      prepared.handle node (.start handler.isSome tag) (by simp)
    unfold Session.armed at answered
    rw [answered]
    rcases started : ({ m with registers := (st.session.writeAt c.start 0 m.registers).2 } : Node).start
      handler.isSome tag with ⟨result, m'⟩
    simp only [Node.answer, started] at node' ⊢
    cases result with
    | error fault =>
      refine .inr ⟨by simp, fun m' starts => ?_⟩
      cases started.symm.trans starts.started
    | ok _ =>
      rcases @activate_simulation h m' ⟨st.session.armed handler tag, device'⟩ prepared.handle node'
        c.start with ⟨device'', second, activated, node''⟩ | ⟨second, fails⟩
      · exact .inl ⟨m', device'', ⟨first, started, second⟩, activated, node''⟩
      · refine .inr ⟨fails, fun m'' starts => ?_⟩
        cases started.symm.trans starts.started
        exact second starts.second

/-- A start for the polls succeeds for the notices as well, and the two sessions agree. -/
theorem Prepared.agree (prepared : Prepared c h m st) {polled : Station Simulation} {tag : Int}
    (started : st.start Simulation.device none tag none = (.ok (), polled)) {reactions : List Reaction}
    (quiet : ∀ reaction ∈ reactions, reaction.isQuiet = true) (tag' : Int) :
    ∃ notified, st.start Simulation.device (some reactions) tag' none = (.ok (), notified) ∧
      Agree c h [] polled notified := by
  rcases prepared.start_cases none tag with ⟨p, device, starts, result, node⟩ | ⟨fails, _⟩
  swap
  · exact absurd (congrArg Prod.fst started) fails
  obtain rfl : polled = ⟨st.session.armed none tag, device⟩ := (Prod.mk.inj (started.symm.trans result)).2
  -- the device that reports takes the same requests
  obtain ⟨q, started', twins, fresh, fresh'⟩ :=
    Node.start_twins (m := { m with registers := (st.session.writeAt c.start 0 m.registers).2 })
      prepared.record (Configuration.validate_eq_ok_iff.1 prepared.valid).2.2.1 starts.started tag'
  have starts' : Starts st.session c m true tag' q :=
    ⟨starts.first, started', twins.registers ▸ starts.second⟩
  rcases prepared.start_cases (some reactions) tag' with ⟨q', device', again, result', node'⟩ | ⟨_, fails⟩
  swap
  · exact absurd starts' (fails q)
  obtain rfl : q = q' := (Prod.mk.inj (started'.symm.trans again.started)).2
  refine ⟨_, result', ⟨⟨_, _, ⟨prepared.handle, node, rfl, rfl, prepared.tracked, ?_, ?_⟩,
    ⟨prepared.handle, node', rfl, prepared.tracked, ?_, ?_⟩, ?_, [], ?_, ?_⟩, ?_⟩⟩
  · simp [Session.armed, prepared.numbering, Numbering.start]
  · simp [fresh, wholeSamples]
  · rw [fresh']
    rfl
  · exact fun _ => ⟨⟨tag', reactions, []⟩, rfl, rfl, quiet⟩
  · rw [← twins.registers]
    have same : (st.session.armed (some reactions) tag').numbering = .start c.tracked.length :=
      prepared.numbering
    rw [same]
    have written := twins.change fun rs => (st.session.writeAt c.start 1 rs).2
    rwa [← twins.registers] at written
  · rw [fresh]
    rfl
  · simp [Session.shown, Session.armed, prepared.notes]
  · simp only [Session.shown, Session.armed, prepared.notes, prepared.numbering]
    exact Numbering.reached_start _

/-- **Polls and notices tell the same rows.** Let a session accept a configuration, and its device a start
without a handler. Then the device accepts a start with a handler that gets its thread, and whatever the registers do during the
run, and wherever the polls fall in it: the rows of the polls, with one poll behind everything else, are the
rows that the handler has seen after the same history. They go from the first row of iteration 0 on without a
gap. This holds at any time of the run, and once it is over. -/
theorem polls_eq_notices {options : Options} {s : Simulation} {configured polled : Station Simulation}
    (accepted : (⟨.bind h options, s⟩ : Station Simulation).configure Simulation.device c =
      (.ok (), configured))
    {tag : Int} (started : configured.start Simulation.device none tag none = (.ok (), polled))
    {reactions : List Reaction} (quiet : ∀ reaction ∈ reactions, reaction.isQuiet = true) (tag' : Int) :
    ∃ notified, configured.start Simulation.device (some reactions) tag' none = (.ok (), notified) ∧
      ∀ beats : List Beat, ∃ polls : List (List Row),
        (polled.pollAlong (beats ++ [.poll])).1 = polls.map .ok ∧
          polls.flatten = (notified.listen (beats.filter fun beat => !beat.isPoll)).session.shown ∧
          Consecutive polls.flatten := by
  obtain ⟨m, prepared⟩ := prepared_of_configure accepted
  obtain ⟨notified, result, agree⟩ := prepared.agree started quiet tag'
  exact ⟨notified, result, agree.polls⟩

/-- Three rows, of which the second and the third are polled together. -/
theorem polls_eq_notices_threeSamples :
    let counting : Registers := Registers.empty.declare ⟨0x2000, 0⟩ 7
    let bound : Station Simulation := ⟨.bind ⟨0⟩ .standard, ⟨[{ Node.fresh with registers := counting }]⟩⟩
    let configured := (bound.configure Simulation.device Engine.threeSamples).2
    let polled := (configured.start Simulation.device none 1 none).2
    let beats : List Beat := [.poll] ++ List.replicate 6 .pass ++
      [.poll, .change fun rs => rs.declare ⟨0x2000, 0⟩ 8] ++ List.replicate 18 .pass
    let rows : List (List Row) := [[], [⟨0, 0, [⟨7, 0⟩]⟩], [⟨0, 1, [⟨8, 10⟩]⟩, ⟨0, 2, [⟨8, 20⟩]⟩]]
    (polled.pollAlong (beats ++ [.poll])).1 = rows.map .ok ∧
      ∃ notified, configured.start Simulation.device (some [.poll, .nothing]) 2 none = (.ok (), notified) ∧
        (notified.listen (beats.filter fun beat => !beat.isPoll)).session.shown = rows.flatten := by
  intro counting bound configured polled beats rows
  have accepted : bound.configure Simulation.device Engine.threeSamples = (.ok (), configured) :=
    Prod.ext (by decide +kernel) rfl
  have started : configured.start Simulation.device none 1 none = (.ok (), polled) :=
    Prod.ext (by decide +kernel) rfl
  have results : (polled.pollAlong (beats ++ [.poll])).1 = rows.map .ok := by decide +kernel
  have quiet : ∀ reaction ∈ [Reaction.poll, .nothing], reaction.isQuiet = true := by decide
  obtain ⟨notified, starts, agree⟩ := polls_eq_notices accepted started quiet 2
  obtain ⟨polls, polled, shown, _⟩ := agree beats
  have same : rows = polls :=
    List.map_injective_iff.2 (fun _ _ => Except.ok.inj) (results.symm.trans polled)
  exact ⟨results, notified, starts, by rw [← shown, same]⟩

end Station

end TriggeredSampler
