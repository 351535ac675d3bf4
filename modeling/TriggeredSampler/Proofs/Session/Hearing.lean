import TriggeredSampler.Proofs.Session.Orderly
import TriggeredSampler.Proofs.Session.Telling

/-! # What a handler hears of an orderly run

As long as the session goes on its handler hears every report. A handler that ends the run hears only one
more report, the one that is next in the queue.

* `Station.deliver_reacts` — what the reaction to a report adds to the journal.
* `Station.Hearing`, `Station.Heard` — a run under way, and a run that is over.
* `Station.Follows.receive` — a report is received.
-/

namespace TriggeredSampler

variable {σ : Type}

theorem Session.follow_of_active {s : Session} {reported : Phase} (active : s.phase.isActive = true)
    (begun : reported.begun = true) (fault : Option DeviceFault) :
    (s.follow reported fault).phase.isTerminal = reported.isTerminal := by
  unfold Session.phase at active ⊢
  cases lifecycle : s.lifecycle with
  | ready | running =>
    cases reported <;> simp_all [Phase.begun, Phase.isActive, Phase.isTerminal, Session.follow,
      Session.fail, Lifecycle.fail, Lifecycle.follow]
  | _ => simp [lifecycle, Phase.isActive] at active

namespace Station

variable (dev : Device σ) {st st' : Station (Journal σ)} {d : Delivery} {report : Report}

/-! ## Reactions to a report -/

/-- A stop that a handler asks for, the reports that it raises, and its answer. -/
def stopEntries (a : Request.stop.Answer) (reports : List Report) : List Entry :=
  .asked .stop :: (reports.map fun report => .sent report true) ++ [.answered .stop a]

@[simp] theorem openStops_stopEntries (a : Request.stop.Answer) (reports : List Report) :
    openStops (stopEntries a reports) = 0 := by
  simp [stopEntries, Entry.stops]

@[simp] theorem sentReports_stopEntries (a : Request.stop.Answer) (reports : List Report) :
    sentReports (stopEntries a reports) = reports := by
  simp [stopEntries]

theorem stop_of_active (active : st.session.phase.isActive = true)
    (delivering : st.session.delivery.isSome = true) :
    ∃ a reports, (st.stop (lineInside dev.journaled)).2.device.entries =
      st.device.entries ++ stopEntries a reports := by
  have going := Phase.isTerminal_of_isActive active
  have configured : st.session.phase ≠ .unconfigured := by
    intro unconfigured
    rw [unconfigured] at active
    cases active
  obtain ⟨a, reports, device, eq⟩ := lineInside_eq dev .stop st
  refine ⟨a, reports, ?_⟩
  unfold stop
  rw [if_neg (by simp [going]), if_neg configured, eq, delivering]
  cases a with
  | error fault => simp [stopEntries, Station.fail]
  | ok _ => simp [stopEntries]

/-- A reaction does nothing at the device, or it ends the run. -/
theorem react_cases (st : Station (Journal σ)) (notified : st.session.notified = true)
    (active : st.session.phase.isActive = true) (delivering : st.session.delivery.isSome = true)
    (reaction : Reaction) :
    ((st.react dev.journaled reaction).2 = st ∧ reaction ≠ .stop) ∨
      ((reaction = .stop ∨ reaction = .drop) ∧
        (st.react dev.journaled reaction).2.session.phase.isTerminal = true ∧
        ∃ a reports, (st.react dev.journaled reaction).2.device.entries =
          st.device.entries ++ stopEntries a reports) := by
  cases reaction with
  | stop =>
    obtain ⟨_, _, ended, _⟩ := stop_inside dev st
    exact .inr ⟨.inl rfl, ended, stop_of_active dev active delivering⟩
  | drop =>
    simp only [react]
    split
    next =>
      obtain ⟨_, _, ended, _⟩ := stop_inside dev { st with session := { st.session with live := false } }
      have released : st.release (lineInside dev.journaled) =
          (({ st with session := { st.session with live := false } } : Station (Journal σ)).stop
            (lineInside dev.journaled)).2 := by
        unfold release
        exact if_pos active
      rw [released]
      exact .inr ⟨by simp, ended, stop_of_active dev active delivering⟩
    next => exact .inl ⟨rfl, by simp⟩
  | poll =>
    refine .inl ⟨?_, by simp⟩
    simp only [react, poll, notified, if_true]
    split <;> rfl
  | _ => exact .inl ⟨rfl, by simp⟩

/-- A report in an active phase leaves the session active and the device alone, unless the handler ends
the run. -/
theorem deliver_reacts (sound : st.session.Sound) (delivery : st.session.delivery = some d)
    (active : st.session.phase.isActive = true)
    (whole : wholeSamples st.session.tracked report.data = true)
    (reported : report.phase.isActive = true) :
    ((st.deliver dev.journaled report).session.phase.isActive = true ∧
        (st.deliver dev.journaled report).device.entries = st.device.entries ∧
        d.reactions.head? ≠ some .stop) ∨
      ((st.deliver dev.journaled report).session.phase.isTerminal = true ∧
        (d.reactions.head? = some .stop ∨ d.reactions.head? = some .drop) ∧
        ∃ a reports, (st.deliver dev.journaled report).device.entries =
          st.device.entries ++ stopEntries a reports) := by
  have accepted := st.session.accept_accepted sound.numbering report
  unfold deliver
  generalize st.session.accept report = result at accepted ⊢
  obtain ⟨notice, malformed, session⟩ := result
  simp only at accepted ⊢
  obtain rfl : malformed = false := by simpa [whole] using accepted.detected
  have ongoing : session.phase.isActive = true := by
    have begun := Phase.begun_of_isActive reported
    have same := st.session.follow_of_active active begun report.fault
    have going : session.phase.isTerminal = false := by
      rw [Session.phase, accepted.followed rfl]
      exact same.trans (Phase.isTerminal_of_isActive reported)
    exact Phase.isActive_of_begun (accepted.onward.begun (Phase.begun_of_isActive active)) going
  have waiting : session.delivery = some d := by
    rw [accepted.frame]
    exact delivery
  have notified : session.notified = true := by
    rw [accepted.frame]
    exact sound.notified delivery
  have going : notice.phase.isTerminal = false := by
    rw [accepted.phase]
    exact Phase.isTerminal_of_isActive ongoing
  obtain ⟨reacted, outcome, panic, reaction, eq⟩ :=
    @notify_react _ dev.journaled ⟨session, st.device⟩ d waiting notice
  have reacts := react_cases dev (awaiting ⟨session, st.device⟩ { d with reactions := d.reactions.tail })
    notified ongoing rfl (d.reactions.headD .nothing)
  rw [reaction] at reacts
  simp only at reacts
  -- behind its last reaction a handler does nothing
  have first : ∀ r ≠ Reaction.nothing, d.reactions.headD .nothing = r ↔ d.reactions.head? = some r := by
    intro r some
    cases d.reactions <;> simp [some.symm]
  simp only [present, going, Bool.false_eq_true, if_false, eq, noting]
  rcases reacts with ⟨same, patient⟩ | ⟨ends, ended, a, reports, journal⟩
  · -- an idle reaction leaves everything as the report did
    refine .inl ⟨?_, ?_, fun stops => patient ((first _ (by simp)).2 stops)⟩
    · rw [same]
      exact ongoing
    · rw [same]
      rfl
  · refine .inr ⟨ended, ?_, a, reports, journal⟩
    rwa [first _ (by simp), first _ (by simp)] at ends

/-! ## A run and its handler -/

/-- The handler does not ask for a stop in its first `count` reactions. -/
def Patient (reactions : List Reaction) (count : Nat) : Prop :=
  ∀ k < count, reactions[k]? ≠ some .stop

/-- The handler stops the run, or drops the session, when it is shown notice `k`. -/
def EndsRun (reactions : List Reaction) (k : Nat) : Prop :=
  reactions[k]? = some .stop ∨ reactions[k]? = some .drop

/-- The delivery `d` of a run is under way: the handler was shown the data of the reports `delivered`,
which are not terminal, and the others wait. -/
structure Hearing (run : Run) (depth : Nat) (d : Delivery) (delivered : List Report)
    (since : List Entry) (st : Station (Journal σ)) : Prop where
  delivery : st.session.delivery = some d
  tracked : st.session.tracked = run.tracked
  sent : sentReports since = delivered ++ d.queue
  depth : openStops since = depth
  noted : run.noted ≤ st.session.notes.length
  told : (st.noticesFrom run.noted).map Notice.data = delivered.map Report.data
  going : ∀ report ∈ delivered, report.isLast = false

/-- The session goes on. -/
structure Ongoing (reactions : List Reaction) (d : Delivery) (delivered : List Report)
    (st : Station (Journal σ)) : Prop where
  active : st.session.phase.isActive = true
  pace : d.reactions = reactions.drop delivered.length
  patient : Patient reactions delivered.length

/-- The handler ended the run with its last reaction, and another report waits for it, unless a stop is
under way that may raise one. -/
structure Ending (reactions : List Reaction) (depth : Nat) (d : Delivery) (delivered : List Report)
    (st : Station (Journal σ)) : Prop where
  ended : st.session.phase.isTerminal = true
  last : ∃ k, delivered.length = k + 1 ∧ EndsRun reactions k ∧ Patient reactions k
  awaits : (∃ report ∈ d.queue, report.isLast = true) ∨ 0 < depth

/-- The delivery of a run is over: the handler was shown the data of every report through the terminal
one, or it ended the run before the last of them. -/
structure Heard (run : Run) (reactions : List Reaction) (delivered : List Report) (since : List Entry)
    (st : Station (Journal σ)) : Prop where
  delivery : st.session.delivery = none
  told : (st.noticesFrom run.noted).map Notice.data = delivered.map Report.data
  within : delivered <+: throughEnd (sentReports since)
  complete : (delivered = throughEnd (sentReports since) ∧
      ∃ report ∈ sentReports since, report.isLast = true) ∨
    ∃ k, delivered.length = k + 2 ∧ EndsRun reactions k
  limited : ∀ k, reactions[k]? = some .stop → delivered.length ≤ k + 2

/-- Where a run stands. -/
inductive Hears (run : Run) (reactions : List Reaction) (depth : Nat) (since : List Entry)
    (st : Station (Journal σ)) : Prop where
  | ongoing {d : Delivery} {delivered : List Report} (hearing : Hearing run depth d delivered since st)
      (ongoing : Ongoing reactions d delivered st)
  | ending {d : Delivery} {delivered : List Report} (hearing : Hearing run depth d delivered since st)
      (ending : Ending reactions depth d delivered st)
  | heard {delivered : List Report} (heard : Heard run reactions delivered since st)

variable {run : Run} {reactions : List Reaction} {depth : Nat} {delivered : List Report}
  {since added : List Entry}

theorem Hearing.same_delivery {d' : Delivery} (hearing : Hearing run depth d delivered since st)
    (delivery : st.session.delivery = some d') : d = d' := by
  rw [hearing.delivery] at delivery
  exact Option.some.inj delivery

/-- The report that waits for a handler is one that it has to hear. -/
theorem Hearing.next {queue : List Report}
    (hearing : Hearing run depth { d with queue := report :: queue } delivered since st)
    (more : List Report) :
    delivered ++ [report] <+: throughEnd (sentReports since ++ more) := by
  rw [hearing.sent, List.append_assoc, throughEnd_append_of_going hearing.going,
    List.prefix_append_right_inj, List.cons_append, throughEnd]
  split
  next => exact List.prefix_rfl
  next => exact ⟨_, rfl⟩

theorem Hearing.orderly {queue : List Report}
    (hearing : Hearing run depth { d with queue := report :: queue } delivered since st)
    (orderly : Orderly run.tracked since) :
    wholeSamples run.tracked report.data = true ∧ report.phase.begun = true := by
  have counts : report ∈ throughEnd (sentReports since) := by
    have next := hearing.next []
    rw [List.append_nil] at next
    exact next.subset (by simp)
  exact ⟨orderly.whole report counts, orderly.begun report counts⟩

theorem Hearing.going_of_idle (hearing : Hearing run depth d delivered since st)
    (idle : st.queued = 0) : ¬∃ report ∈ sentReports since, report.isLast = true := by
  rintro ⟨report, member, last⟩
  rw [queued, hearing.delivery] at idle
  rw [hearing.sent, List.eq_nil_of_length_eq_zero idle, List.append_nil] at member
  rw [hearing.going report member] at last
  cases last

theorem Hearing.heard {queue : List Report} {notice : Notice} {outcome : Outcome}
    (hearing : Hearing run depth { d with queue := report :: queue } delivered since st)
    (notes : st'.session.notes = st.session.notes ++ [⟨notice, outcome⟩])
    (data : notice.data = report.data) (closed : st'.session.delivery = none)
    (complete : report.isLast = true ∨ ∃ k, delivered.length = k + 1 ∧ EndsRun reactions k)
    (limited : ∀ k, reactions[k]? = some .stop → delivered.length ≤ k + 1) :
    Heard run reactions (delivered ++ [report]) (since ++ added) st' := by
  refine ⟨closed, ?_, ?_, ?_, ?_⟩
  · rw [noticesFrom_concat hearing.noted notes]
    simp [hearing.told, data]
  · rw [sentReports_append]
    exact hearing.next _
  · rcases complete with last | ⟨k, length, ends⟩
    · refine .inl ⟨?_, report, by simp [hearing.sent], last⟩
      rw [sentReports_append, hearing.sent, List.append_assoc,
        throughEnd_append_of_going hearing.going, List.cons_append, throughEnd_of_isLast last]
    · exact .inr ⟨k, by simp [length], ends⟩
  · intro k stops
    have bound := limited k stops
    simpa using bound

theorem Hearing.shown {queue arrived : List Report} {notice : Notice} {outcome : Outcome}
    (hearing : Hearing run depth { d with queue := report :: queue } delivered since st)
    (notes : st'.session.notes = st.session.notes ++ [⟨notice, outcome⟩])
    (data : notice.data = report.data) (going : report.isLast = false)
    (tracked : st'.session.tracked = st.session.tracked)
    (waiting : st'.session.delivery =
      some { d with reactions := d.reactions.tail, queue := queue ++ arrived })
    (raised : sentReports added = arrived) (balanced : openStops added = 0) :
    Hearing run depth { d with reactions := d.reactions.tail, queue := queue ++ arrived }
      (delivered ++ [report]) (since ++ added) st' := by
  refine ⟨waiting, tracked.trans hearing.tracked, ?_, ?_, ?_, ?_, ?_⟩
  · rw [sentReports_append, hearing.sent, raised]
    simp
  · rw [openStops_append, balanced, Int.add_zero, hearing.depth]
  · rw [notes, List.length_append]
    exact Nat.le_add_right_of_le hearing.noted
  · rw [noticesFrom_concat hearing.noted notes]
    simp [hearing.told, data]
  · intro other member
    cases List.mem_append.1 member with
    | inl old => exact hearing.going other old
    | inr new =>
      rw [List.mem_singleton.1 new]
      exact going

/-- A handler that stopped the run is sent a terminal report, if no stop around its own is under way. -/
theorem Hearing.awaits {a : Request.stop.Answer} {reports : List Report}
    (hearing : Hearing run depth d delivered (since ++ stopEntries a reports) st)
    (orderly : Orderly run.tracked (since ++ stopEntries a reports)) :
    (∃ report ∈ d.queue, report.isLast = true) ∨ 0 < depth := by
  cases Nat.eq_zero_or_pos depth with
  | inl outermost =>
    have before : openStops since = 0 := by
      simpa [openStops_append, outermost] using hearing.depth
    -- it was sent before the stop was answered
    obtain ⟨terminal, member, ending⟩ := orderly.ended
      (since ++ .asked .stop :: reports.map fun report => .sent report true) (.answered .stop a)
      (by simp [stopEntries]) rfl (by simp [before, Entry.stops])
    refine .inl ⟨terminal, ?_, ending⟩
    have sent : terminal ∈ delivered ++ d.queue := by
      rw [← hearing.sent, sentReports_append, sentReports_stopEntries]
      simpa using member
    refine (List.mem_append.1 sent).resolve_left fun old => ?_
    rw [hearing.going terminal old] at ending
    cases ending
  | inr under => exact .inr under

theorem Ongoing.limited (ongoing : Ongoing reactions d delivered st) :
    ∀ k, reactions[k]? = some .stop → delivered.length ≤ k := by
  intro k stops
  have later : ¬k < delivered.length := fun earlier => ongoing.patient k earlier stops
  omega

theorem Ending.limited (ending : Ending reactions depth d delivered st) :
    ∀ k, reactions[k]? = some .stop → delivered.length ≤ k + 1 := by
  obtain ⟨last, length, _, patient⟩ := ending.last
  intro k stops
  have later : ¬k < last := fun earlier => patient k earlier stops
  omega

/-- Something waits for a handler that ended the run, unless a stop is under way. -/
theorem Ending.waits (ending : Ending reactions 0 d delivered st) : d.queue.length ≠ 0 := by
  intro empty
  rcases ending.awaits with ⟨report, member, _⟩ | under
  · rw [List.eq_nil_of_length_eq_zero empty] at member
    cases member
  · cases under

theorem Hearing.data {notice : Notice} {arrived : List Report}
    (hearing : Hearing run depth { d with queue := report :: d.queue } delivered since st)
    (orderly : Orderly run.tracked since) (delivers : Delivers report d (st.awaiting d) st' notice arrived) :
    wholeSamples st.session.tracked report.data = true ∧ notice.data = report.data := by
  have whole := (hearing.orderly orderly).1
  rw [← hearing.tracked] at whole
  exact ⟨whole, delivers.shows.data.trans (if_pos whole)⟩

theorem Hearing.deliver_ending {notice : Notice} {arrived : List Report}
    (hearing : Hearing run depth { d with queue := report :: d.queue } delivered since st)
    (ending : Ending reactions depth { d with queue := report :: d.queue } delivered st)
    (delivers : Delivers report d (st.awaiting d) st' notice arrived)
    (orderly : Orderly run.tracked (since ++ added)) :
    Hears run reactions depth (since ++ added) st' := by
  obtain ⟨_, data⟩ := hearing.data (orderly.earlier (List.prefix_append _ _)) delivers
  obtain ⟨outcome, notes⟩ := delivers.notes
  -- the session is over already, so this is its last notice
  have closed := delivers.delivery
  rw [if_pos (delivers.ended ending.ended)] at closed
  obtain ⟨k, length, ends, _⟩ := ending.last
  exact .heard (hearing.heard notes data closed (.inr ⟨k, length, ends⟩) ending.limited)

theorem Hearing.deliver_ongoing {notice : Notice} {arrived : List Report}
    (hearing : Hearing run depth { d with queue := report :: d.queue } delivered since st)
    (ongoing : Ongoing reactions { d with queue := report :: d.queue } delivered st)
    (sound : (st.awaiting d).session.Sound)
    (delivers : Delivers report d (st.awaiting d) ((st.awaiting d).deliver dev.journaled report) notice
      arrived)
    (journal : ((st.awaiting d).deliver dev.journaled report).device.entries = st.device.entries ++ added)
    (raised : sentReports added = arrived) (orderly : Orderly run.tracked (since ++ added)) :
    Hears run reactions depth (since ++ added) ((st.awaiting d).deliver dev.journaled report) := by
  have early : Orderly run.tracked since := orderly.earlier (List.prefix_append _ _)
  obtain ⟨whole, data⟩ := hearing.data early delivers
  obtain ⟨_, begun⟩ := hearing.orderly early
  obtain ⟨outcome, notes⟩ := delivers.notes
  have followed : notice.phase.isTerminal = report.isLast := by
    rw [delivers.followed whole]
    have active : (st.awaiting d).session.phase.isActive = true := ongoing.active
    exact Session.follow_of_active active begun report.fault
  cases last : report.isLast with
  | true =>
    -- the device ended the run
    have closed := delivers.delivery
    rw [if_pos (followed.trans last)] at closed
    exact .heard (hearing.heard notes data closed (.inl last) fun k stops =>
      Nat.le_succ_of_le (ongoing.limited k stops))
  | false =>
    have waiting := delivers.delivery
    rw [if_neg (by simp [followed, last])] at waiting
    have reported := Phase.isActive_of_begun begun last
    have head : d.reactions.head? = reactions[delivered.length]? := by
      rw [ongoing.pace, List.head?_drop]
    have tracked := delivers.keeps.tracked
    rcases deliver_reacts dev sound rfl ongoing.active whole reported with
      ⟨active, same, patient⟩ | ⟨ended, ends, a, reports, more⟩
    · -- the device was not asked anything
      obtain rfl : added = [] := by
        have journal := journal.symm.trans same
        exact List.append_right_eq_self.1 journal
      refine .ongoing (hearing.shown notes data last tracked waiting raised rfl) ⟨active, ?_, ?_⟩
      · rw [List.length_append, ← List.drop_drop, ← ongoing.pace]
        exact List.drop_one.symm
      · intro k within
        rw [head] at patient
        rcases Nat.lt_succ_iff_lt_or_eq.1 (by simpa using within) with earlier | rfl
        · exact ongoing.patient k earlier
        · exact patient
    · -- the handler asked for a stop
      obtain rfl : added = stopEntries a reports :=
        List.append_cancel_left (journal.symm.trans more)
      have shown := hearing.shown notes data last tracked waiting raised (openStops_stopEntries a reports)
      refine .ending shown ⟨ended, ⟨delivered.length, by simp, ?_, ongoing.patient⟩,
        shown.awaits orderly⟩
      rwa [head] at ends

theorem Hears.deliver {rest : Station (Journal σ)} (hears : Hears run reactions depth since st)
    (sound : st.session.Sound) (dequeue : st.dequeue = some (report, rest))
    (journal : (rest.deliver dev.journaled report).device.entries = st.device.entries ++ added)
    (orderly : Orderly run.tracked (since ++ added)) :
    Hears run reactions depth (since ++ added) (rest.deliver dev.journaled report) := by
  obtain ⟨d, notice, arrived, delivery, rfl, keeps, delivers⟩ := dequeue_delivers dev sound dequeue
  cases hears with
  | heard heard =>
    -- nothing waits once the delivery is over
    rw [heard.delivery] at delivery
    cases delivery
  | ending hearing ending =>
    obtain rfl := hearing.same_delivery delivery
    exact hearing.deliver_ending ending delivers orderly
  | ongoing hearing ongoing =>
    obtain rfl := hearing.same_delivery delivery
    have raised : sentReports added = arrived := by
      obtain ⟨added', journal', _, sent⟩ := delivers.adds
      rw [← sent, List.append_cancel_left (journal.symm.trans journal')]
    exact hearing.deliver_ongoing dev ongoing (keeps.sound sound) delivers journal raised orderly

/-- Nothing that happens later changes what the handler was told. -/
theorem Heard.keep (heard : Heard run reactions delivered since st)
    (closed : st'.session.delivery = none) (notes : st'.session.notes = st.session.notes)
    (added : List Entry) : Heard run reactions delivered (since ++ added) st' := by
  refine ⟨closed, ?_, ?_, ?_, heard.limited⟩
  · rw [noticesFrom_of_notes notes, heard.told]
  · rw [sentReports_append]
    exact heard.within.trans (prefix_throughEnd_append _ _)
  · rcases heard.complete with ⟨all, last⟩ | ended
    · obtain ⟨report, member, terminal⟩ := last
      rw [sentReports_append, throughEnd_append_of_ended ⟨report, member, terminal⟩]
      exact .inl ⟨all, report, List.mem_append_left _ member, terminal⟩
    · exact .inr ended

/-- Whatever leaves the delivery and the notes alone, and sends nothing, leaves the run where it is. -/
theorem Hears.unchanged {deeper : Nat} (hears : Hears run reactions depth since st)
    (delivery : st'.session.delivery = st.session.delivery)
    (notes : st'.session.notes = st.session.notes) (tracked : st'.session.tracked = st.session.tracked)
    (active : st.session.phase.isActive = true → st'.session.phase.isActive = true)
    (ended : st.session.phase.isTerminal = true → st'.session.phase.isTerminal = true)
    (silent : sentReports added = []) (stops : (depth : Int) + openStops added = deeper)
    (under : 0 < depth → 0 < deeper) : Hears run reactions deeper (since ++ added) st' := by
  have same : ∀ {d delivered}, Hearing run depth d delivered since st →
      Hearing run deeper d delivered (since ++ added) st' := by
    intro d delivered hearing
    refine ⟨delivery.trans hearing.delivery, tracked.trans hearing.tracked, ?_, ?_, ?_, ?_,
      hearing.going⟩
    · rw [sentReports_append, silent, List.append_nil, hearing.sent]
    · rw [openStops_append, hearing.depth, stops]
    · rw [notes]
      exact hearing.noted
    · rw [noticesFrom_of_notes notes, hearing.told]
  cases hears with
  | ongoing hearing ongoing =>
    exact .ongoing (same hearing) ⟨active ongoing.active, ongoing.pace, ongoing.patient⟩
  | ending hearing ending =>
    exact .ending (same hearing) ⟨ended ending.ended, ending.last, ending.awaits.imp_right under⟩
  | heard heard => exact .heard (heard.keep (delivery.trans heard.delivery) notes added)

/-- A report that is sent waits for a handler that still hears. -/
theorem Hears.enqueue (hears : Hears run reactions depth since st) (report : Report) :
    Hears run reactions depth (since ++ [.sent report st.session.delivery.isSome])
      (st.enqueue dev.journaled report) := by
  obtain ⟨device, eq⟩ := enqueue_eq dev report st
  rw [eq]
  have arrives : ∀ {d delivered}, Hearing run depth d delivered since st →
      Hearing run depth (d.arrive [report]) delivered
        (since ++ [.sent report st.session.delivery.isSome])
        ⟨st.session.arrive [report],
          ⟨device, st.device.entries ++ [.sent report st.session.delivery.isSome]⟩⟩ := by
    intro d delivered hearing
    refine ⟨?_, hearing.tracked, ?_, ?_, hearing.noted, hearing.told, hearing.going⟩
    · simp [Session.arrive, hearing.delivery]
    · rw [sentReports_append, hearing.sent]
      simp [sentReports, Entry.report?, Delivery.arrive]
    · simp [hearing.depth, Entry.stops]
  cases hears with
  | ongoing hearing ongoing =>
    exact .ongoing (arrives hearing) ⟨ongoing.active, ongoing.pace, ongoing.patient⟩
  | ending hearing ending =>
    refine .ending (arrives hearing) ⟨ending.ended, ending.last, ?_⟩
    rcases ending.awaits with ⟨last, member, terminal⟩ | under
    · exact .inl ⟨last, List.mem_append_left _ member, terminal⟩
    · exact .inr under
  | heard heard =>
    refine .heard (heard.keep ?_ ?_ _)
    · simp [Session.arrive, heard.delivery]
    · rfl

/-! ## A run in the journal -/

/-- The journal goes on behind the start of a run. As long as no other start is asked for, and the device
keeps order, `C` holds of the journal since then. -/
def Follows (run : Run) (C : List Entry → Station (Journal σ) → Prop) (st : Station (Journal σ)) : Prop :=
  ∃ since, st.device.entries = run.prior ++ since ∧
    (startsIn since = 0 → Orderly run.tracked since → C since st)

theorem Follows.next {C C' : List Entry → Station (Journal σ) → Prop} (follows : Follows run C st)
    (journal : st'.device.entries = st.device.entries ++ added)
    (step : ∀ since, startsIn (since ++ added) = 0 → Orderly run.tracked (since ++ added) → C since st →
      C' (since ++ added) st') : Follows run C' st' := by
  obtain ⟨since, entries, holds⟩ := follows
  refine ⟨since ++ added, by rw [journal, entries, List.append_assoc], fun quiet orderly => ?_⟩
  apply step since quiet orderly
  apply holds _ (orderly.earlier (List.prefix_append _ _))
  rw [startsIn_append] at quiet
  omega

theorem Follows.drain (follows : Follows run (Hears run reactions depth) st) (sound : st.session.Sound)
    (rounds : Nat) : Follows run (Hears run reactions depth) (st.drain dev.journaled rounds) := by
  -- by induction on the rounds
  induction rounds generalizing st with
  | zero => exact follows
  | succ rounds ih =>
    unfold Station.drain
    split
    next => exact follows
    next report rest dequeue =>
      obtain ⟨d, notice, arrived, _, waiting, keeps, delivers⟩ := dequeue_delivers dev sound dequeue
      obtain ⟨added, journal, _, _⟩ := delivers.adds
      refine ih ?_ ((keeps.trans delivers.keeps).sound sound)
      have same : rest.device.entries = st.device.entries := by rw [waiting]; rfl
      rw [same] at journal
      exact follows.next journal fun since _ orderly hears =>
        hears.deliver dev sound dequeue journal orderly

theorem Follows.receive (follows : Follows run (Hears run reactions depth) st)
    (sound : st.session.Sound) (report : Report) :
    Follows run (Hears run reactions depth) (st.receive dev.journaled report) := by
  have queued : Follows run (Hears run reactions depth) (st.enqueue dev.journaled report) := by
    obtain ⟨device, eq⟩ := enqueue_eq dev report st
    exact follows.next (by rw [eq]) fun since _ _ hears => hears.enqueue dev report
  exact queued.drain dev ((enqueue_keeps dev report).sound sound) _

end Station

end TriggeredSampler
