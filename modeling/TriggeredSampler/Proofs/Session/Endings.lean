import TriggeredSampler.Proofs.Session.Hearing
import TriggeredSampler.Proofs.Session.Notices

/-! # How a run ends at the device

When a session is over or was dropped, the journal since the start of its run says why: the device told
the end, or was asked to stop, or the session lost sight of the run. In the last case nobody stopped it.

* `Station.Attested` — the reasons are in the journal.
* `Station.Vouched`, `Station.upholds_vouched` — what holds between two operations.
* `Station.ending_of_run` — the end of every run that the device accepted.
-/

namespace TriggeredSampler

variable {σ : Type}

namespace Entry

/-- The device accepted a configuration. -/
def acceptsConfiguration : Entry → Bool
  | .answered (.configure _) (.ok ()) => true
  | _ => false

/-- The device accepted a start. -/
def startsRun : Entry → Bool
  | .answered (.start ..) (.ok ()) => true
  | _ => false

/-- The session is told by its device that the run is over. -/
def tellsEnd : Entry → Bool
  | .answered .phase (.ok reported) => reported.isTerminal
  | .sent report heard => heard && report.phase.isTerminal
  | _ => false

/-- The device is asked to stop. -/
def asksStop : Entry → Bool
  | .asked .stop => true
  | _ => false

/-- The session loses sight of its run: the device does not tell the phase or the data, or it tells a
phase that no run is in. -/
def losesSight : Entry → Bool
  | .answered .phase (.ok reported) => !reported.begun
  | .answered .phase (.error _) => true
  | .answered .data (.error _) => true
  | .sent report heard => heard && !report.phase.begun
  | _ => false

/-- A reason for a run to be over. -/
def ends (entry : Entry) : Bool := entry.tellsEnd || entry.asksStop || entry.losesSight

theorem eq_of_asksStop {entry : Entry} (stopping : entry.asksStop = true) : entry = .asked .stop := by
  unfold asksStop at stopping
  split at stopping
  next => rfl
  next => cases stopping

theorem startsRun_of_ofStart {entry : Entry} (other : entry.ofStart = false) :
    entry.startsRun = false := by
  cases entry with
  | asked r => rfl
  | answered r a => cases r <;> simp_all [ofStart, startsRun]
  | sent report heard => rfl

end Entry

/-- The journal since the last configuration that the device accepted. -/
def sinceConfigured (entries : List Entry) : List Entry :=
  (entries.reverse.takeWhile fun entry => !entry.acceptsConfiguration).reverse

/-- The device accepted a start since it accepted a configuration for the last time. -/
def Begun (entries : List Entry) : Prop :=
  ∃ entry ∈ sinceConfigured entries, entry.startsRun = true

instance (entries : List Entry) : Decidable (Begun entries) :=
  inferInstanceAs (Decidable (∃ entry ∈ sinceConfigured entries, entry.startsRun = true))

theorem Begun.earlier {entries added : List Entry} (begun : Begun (entries ++ added))
    (quiet : ∀ entry ∈ added, entry.startsRun = false) : Begun entries := by
  obtain ⟨entry, member, starts⟩ := begun
  refine ⟨entry, ?_, starts⟩
  simp only [sinceConfigured, List.reverse_append, List.takeWhile_append, List.mem_reverse] at member ⊢
  split at member
  next =>
    cases List.mem_append.1 member with
    | inl new =>
      rw [quiet entry (List.mem_reverse.1 new)] at starts
      cases starts
    | inr old => exact old
  next =>
    have new := List.mem_reverse.1 ((List.takeWhile_prefix _).subset member)
    rw [quiet entry new] at starts
    cases starts

theorem Begun.of_adds {entries later : List Entry} {sent : List Report} (begun : Begun later)
    (adds : Adds entries later sent) : Begun entries := by
  obtain ⟨added, rfl, quiet, _⟩ := adds
  exact begun.earlier fun entry member => Entry.startsRun_of_ofStart (quiet entry member)

theorem not_begun_configured {entries : List Entry} {entry : Entry}
    (accepts : entry.acceptsConfiguration = true) : ¬Begun (entries ++ [entry]) := by
  rintro ⟨_, member, _⟩
  simp [sinceConfigured, accepts] at member

theorem latestRun_append {entries added : List Entry} (quiet : startsIn added = 0) :
    latestRun (entries ++ added) = latestRun entries ++ added := by
  rw [startsIn_eq_zero] at quiet
  rw [latestRun, List.reverse_append, List.takeWhile_append_of_pos, List.reverse_append,
    List.reverse_reverse, latestRun]
  intro entry member
  simp [quiet entry (List.mem_reverse.1 member)]

/-- Whatever is in the journal of a run stays there. -/
theorem Adds.mem_latestRun {entries later : List Entry} {sent : List Report} {entry : Entry}
    (adds : Adds entries later sent) (member : entry ∈ latestRun entries) :
    entry ∈ latestRun later := by
  obtain ⟨added, rfl, quiet, _⟩ := adds
  have none : TriggeredSampler.startsIn added = 0 :=
    startsIn_eq_zero.2 fun entry member => Entry.asksStart_of_ofStart (quiet entry member)
  rw [latestRun_append none]
  exact List.mem_append_left _ member

/-- A run under way is over only if the device reports its end, or a phase that no run is in. -/
theorem Session.follow_ends {s : Session} {reported : Phase} {fault : Option DeviceFault}
    (begun : s.phase.begun = true) (ended : (s.follow reported fault).phase.isTerminal = true) :
    s.phase.isTerminal = true ∨ reported.isTerminal = true ∨ reported.begun = false := by
  by_cases finished : s.phase.isTerminal = true
  · exact .inl finished
  · have active := Phase.isActive_of_begun begun (by simpa using finished)
    cases reach : reported.begun with
    | false => exact .inr (.inr rfl)
    | true =>
      rw [Session.follow_of_active active reach] at ended
      exact .inr (.inl ended)

namespace Station

variable (dev : Device σ) {st st' : Station (Journal σ)} {gone : Bool} {d : Delivery}
  {report : Report} {added : List Entry}

/-- The reports that wait were sent since the start, and if the run is over the journal since then has
a reason. -/
structure Attested (st : Station (Journal σ)) : Prop where
  begun : st.session.phase.begun = true
  sent : ∀ d ∈ st.session.delivery, ∀ report ∈ d.queue,
    .sent report true ∈ latestRun st.device.entries
  ended : st.session.phase.isTerminal = true →
    ∃ entry ∈ latestRun st.device.entries, entry.ends = true

/-- The journal of a run tells what the device was asked, and what it answered. -/
theorem mem_latestRun_line (calm : Calm none gone st) {r : Request}
    (other : (Entry.asked r).ofStart = false) :
    .asked r ∈ latestRun (line dev.journaled r st).2.device.entries ∧
      .answered r (line dev.journaled r st).1 ∈
        latestRun (line dev.journaled r st).2.device.entries := by
  obtain ⟨reports, raised, a, device, eq⟩ := line_eq dev r st
  have asking := (calm.entered raised other rfl).1
  obtain ⟨_, adds⟩ := (asking.foldl_receive dev reports).2.adds
  have asks : startsIn [.asked r] = 0 := by simp [startsIn, Entry.asksStart_of_ofStart other]
  have asked : .asked r ∈ latestRun (st.entered raised (.asked r)).device.entries := by
    rw [Station.entered, latestRun_append asks]
    simp
  have answers : startsIn [.answered r a] = 0 := rfl
  rw [eq, Station.entered, latestRun_append answers]
  exact ⟨List.mem_append_left _ (adds.mem_latestRun asked), by simp⟩

namespace Attested

/-- The journal goes on, without another start. -/
theorem next (attested : Attested st) (journal : st'.device.entries = st.device.entries ++ added)
    (quiet : startsIn added = 0) (onward : st.session.lifecycle.Onward st'.session.lifecycle)
    (queue : ∀ d ∈ st'.session.delivery, ∀ report ∈ d.queue,
      (∃ d ∈ st.session.delivery, report ∈ d.queue) ∨ .sent report true ∈ added)
    (ended : st'.session.phase.isTerminal = true → st.session.phase.isTerminal = true ∨
      ∃ entry ∈ latestRun st.device.entries ++ added, entry.ends = true) : Attested st' := by
  have later : latestRun st'.device.entries = latestRun st.device.entries ++ added := by
    rw [journal, latestRun_append quiet]
  refine ⟨onward.begun attested.begun, ?_, ?_⟩
  · intro d delivering report member
    rw [later, List.mem_append]
    rcases queue d delivering report member with ⟨d', earlier, waits⟩ | new
    · exact .inl (attested.sent d' earlier report waits)
    · exact .inr new
  · intro finished
    rw [later]
    cases ended finished with
    | inl earlier =>
      obtain ⟨entry, member, ends⟩ := attested.ended earlier
      exact ⟨entry, List.mem_append_left _ member, ends⟩
    | inr reason => exact reason

/-- The session changes, and nothing happens at the device. -/
theorem still (attested : Attested st) (entries : st'.device.entries = st.device.entries)
    (onward : st.session.lifecycle.Onward st'.session.lifecycle)
    (queue : ∀ d ∈ st'.session.delivery, ∀ report ∈ d.queue,
      ∃ d ∈ st.session.delivery, report ∈ d.queue)
    (ended : st'.session.phase.isTerminal = true → st.session.phase.isTerminal = true ∨
      ∃ entry ∈ latestRun st.device.entries, entry.ends = true) : Attested st' := by
  have journal : st'.device.entries = st.device.entries ++ [] := by rw [entries, List.append_nil]
  apply attested.next journal rfl onward
  · intro d delivering report waits
    exact .inl (queue d delivering report waits)
  · rwa [List.append_nil]

/-- A reason is in the journal, so the run may end. -/
theorem onward (attested : Attested st) {entry : Entry}
    (member : entry ∈ latestRun st.device.entries) (ends : entry.ends = true) {l : Lifecycle Failure}
    (onward : st.session.lifecycle.Onward l) :
    Attested { st with session := { st.session with lifecycle := l } } := by
  refine attested.still rfl onward ?_ fun _ => .inr ⟨entry, member, ends⟩
  intro d delivering report waits
  exact ⟨d, delivering, waits⟩

theorem unchanged (attested : Attested st) (delivery : st'.session.delivery = st.session.delivery)
    (lifecycle : st'.session.lifecycle = st.session.lifecycle)
    (entries : st'.device.entries = st.device.entries) : Attested st' := by
  apply attested.still entries
  · rw [lifecycle]
    exact .refl _
  · rw [delivery]
    intro d delivering report waits
    exact ⟨d, delivering, waits⟩
  · rw [Session.phase, lifecycle]
    exact .inl

theorem awaiting {d' : Delivery} (attested : Attested st) (delivery : st.session.delivery = some d')
    (queue : d.queue ⊆ d'.queue) : Attested (st.awaiting d) := by
  apply attested.still
  · rfl
  · exact .refl _
  · rintro _ ⟨⟩ report waits
    exact ⟨d', delivery, queue waits⟩
  · exact .inl

/-! ## Requests of a handler -/

theorem lineInside (attested : Attested st) {r : Request} (other : (Entry.asked r).ofStart = false) :
    Attested (lineInside dev.journaled r st).2 ∧
      .asked r ∈ latestRun (Station.lineInside dev.journaled r st).2.device.entries := by
  obtain ⟨a, reports, device, eq⟩ := lineInside_eq dev r st
  have quiet : startsIn (.asked r ::
      (reports.map fun report => .sent report st.session.delivery.isSome) ++ [.answered r a]) = 0 := by
    rw [startsIn_eq_zero]
    intro entry member
    simp only [List.cons_append, List.mem_cons, List.mem_append, List.mem_map, List.not_mem_nil,
      or_false] at member
    rcases member with rfl | ⟨_, _, rfl⟩ | rfl
    · exact Entry.asksStart_of_ofStart other
    · rfl
    · rfl
  rw [eq]
  refine ⟨attested.next (List.append_assoc ..) quiet (.refl _) ?_ .inl, ?_⟩
  · intro d delivering report waits
    obtain ⟨d', earlier, rfl⟩ := Option.map_eq_some_iff.1 delivering
    cases List.mem_append.1 waits with
    | inl old => exact .inl ⟨d', earlier, old⟩
    | inr new =>
      refine .inr ?_
      simp only [earlier, Option.isSome_some]
      simp [new]
  · simp only [List.append_assoc]
    rw [latestRun_append quiet]
    simp

/-- A stop of a run that was started asks the device to stop. -/
theorem stop {line : Line (Journal σ)} (attested : Attested st)
    (asked : Attested (line .stop st).2)
    (stopping : .asked .stop ∈ latestRun (line .stop st).2.device.entries) :
    Attested (st.stop line).2 := by
  unfold Station.stop
  split
  next => exact attested
  next =>
    split
    next unconfigured =>
      have begun := attested.begun
      rw [unconfigured] at begun
      cases begun
    next =>
      generalize line .stop st = outcome at asked stopping ⊢
      obtain ⟨result, after⟩ := outcome
      cases result with
      | error fault => exact asked.onward stopping rfl (.fail _ _)
      | ok _ => exact asked.onward stopping rfl (.cancel _)

theorem abandoned (attested : Attested st) :
    Attested { st with session := { st.session with live := false } } :=
  attested.unchanged rfl rfl rfl

theorem release {line : Line (Journal σ)} (attested : Attested st)
    (stopped : Attested
      (({ st with session := { st.session with live := false } } : Station (Journal σ)).stop line).2) :
    Attested (st.release line) := by
  unfold Station.release
  simp only
  split
  next => exact stopped
  next => exact attested.abandoned

theorem stopInside (attested : Attested st) : Attested (st.stop (Station.lineInside dev.journaled)).2 := by
  obtain ⟨asked, stopping⟩ := attested.lineInside dev (r := .stop) rfl
  exact attested.stop asked stopping

theorem react (attested : Attested st) (notified : st.session.notified = true) (reaction : Reaction) :
    Attested (st.react dev.journaled reaction).2 := by
  cases reaction with
  | stop => exact attested.stopInside dev
  | drop =>
    simp only [Station.react]
    split
    next => exact attested.release (attested.abandoned.stopInside dev)
    next => exact attested
  | poll =>
    simp only [Station.react, poll, notified, if_true]
    split <;> exact attested
  | _ => exact attested

/-! ## The delivery of reports -/

theorem present (attested : Attested st) (notified : st.session.notified = true)
    (delivery : st.session.delivery = some d) (notice : Notice) :
    Attested (st.present dev.journaled notice) := by
  have taking : Attested (st.awaiting { d with reactions := d.reactions.tail }) :=
    attested.awaiting delivery (List.Subset.refl _)
  have reacted := taking.react dev notified (d.reactions.headD .nothing)
  obtain ⟨after, outcome, panic, reaction, eq⟩ := notify_react dev.journaled delivery notice
  rw [reaction] at reacted
  have noted : Attested (after.noting (after.session.notes ++ [⟨notice, outcome⟩]) panic) :=
    reacted.unchanged rfl rfl rfl
  unfold Station.present
  simp only [eq]
  split
  next =>
    -- nothing waits once the delivery is over
    exact ⟨noted.begun, by simp [endDelivery], noted.ended⟩
  next => exact noted

theorem deliver (attested : Attested st) (sound : st.session.Sound)
    (delivery : st.session.delivery = some d)
    (sent : .sent report true ∈ latestRun st.device.entries) :
    Attested (st.deliver dev.journaled report) := by
  have accepted := st.session.accept_accepted sound.numbering report
  unfold Station.deliver
  generalize st.session.accept report = result at accepted ⊢
  obtain ⟨notice, malformed, session⟩ := result
  simp only at accepted ⊢
  have waiting : session.delivery = some d := by
    rw [accepted.frame]
    exact delivery
  have notified : session.notified = true := by
    rw [accepted.frame]
    exact sound.notified delivery
  cases malformed with
  | true =>
    -- the stop is asked for behind the failure, and is its reason all the same
    obtain ⟨a, reports, device, eq⟩ := lineInside_eq dev .stop ⟨session, st.device⟩
    simp only [if_true, eq]
    have halted : Attested ⟨session.arrive reports, ⟨device, st.device.entries ++ .asked .stop ::
        (reports.map fun report => .sent report session.delivery.isSome) ++ [.answered .stop a]⟩⟩ := by
      apply attested.next (List.append_assoc ..) ?_ accepted.onward
      · rintro _ delivering report waits
        simp only [Session.arrive, waiting] at delivering
        cases delivering
        cases List.mem_append.1 waits with
        | inl old => exact .inl ⟨d, delivery, old⟩
        | inr new => exact .inr (by simp [waiting, new])
      · intro _
        exact .inr ⟨.asked .stop, by simp, rfl⟩
      · simp [startsIn, Entry.asksStart, List.countP_eq_zero]
    exact halted.present dev notified (by simp [Session.arrive, waiting]; rfl) notice
  | false =>
    have followed : Attested ⟨session, st.device⟩ := by
      refine attested.still rfl accepted.onward ?_ ?_
      · rw [waiting]
        rintro _ ⟨⟩ report waits
        exact ⟨d, delivery, waits⟩
      · intro ended
        rw [Session.phase, accepted.followed rfl] at ended
        cases Session.follow_ends attested.begun ended with
        | inl earlier => exact .inl earlier
        | inr told =>
          refine .inr ⟨.sent report true, sent, ?_⟩
          rcases told with told | lost
          · simp [Entry.ends, Entry.tellsEnd, told]
          · simp [Entry.ends, Entry.losesSight, lost]
    exact followed.present dev notified waiting notice

theorem drain (attested : Attested st) (sound : st.session.Sound) (rounds : Nat) :
    Attested (st.drain dev.journaled rounds) := by
  -- by induction on the rounds
  induction rounds generalizing st with
  | zero => exact attested
  | succ rounds ih =>
    unfold Station.drain
    split
    next => exact attested
    next report rest dequeue =>
      obtain ⟨d, notice, arrived, delivery, rfl, keeps, delivers⟩ := dequeue_delivers dev sound dequeue
      have taken : Attested (st.awaiting d) :=
        attested.awaiting delivery (List.subset_cons_self _ _)
      have sent := attested.sent _ delivery report (List.mem_cons_self ..)
      apply ih (taken.deliver dev (keeps.sound sound) rfl sent)
      exact (keeps.trans delivers.keeps).sound sound

theorem receive (attested : Attested st) (sound : st.session.Sound) (report : Report) :
    Attested (st.receive dev.journaled report) := by
  have queued : Attested (st.enqueue dev.journaled report) := by
    obtain ⟨device, eq⟩ := enqueue_eq dev report st
    rw [eq]
    apply attested.next
    · rfl
    · rfl
    · exact .refl _
    · intro d delivering other waits
      obtain ⟨d', earlier, rfl⟩ := Option.map_eq_some_iff.1 delivering
      cases List.mem_append.1 waits with
      | inl old => exact .inl ⟨d', earlier, old⟩
      | inr new =>
        obtain rfl := List.mem_singleton.1 new
        exact .inr (by simp [earlier])
    · exact .inl
  exact queued.drain dev ((enqueue_keeps dev report).sound sound) _

theorem foldl_receive (attested : Attested st) (calm : Calm none gone st) (reports : List Report) :
    Attested (reports.foldl (Station.receive dev.journaled) st) := by
  -- by induction on the reports
  induction reports generalizing st with
  | nil => exact attested
  | cons report rest ih =>
    exact ih (attested.receive dev calm.sound report) (calm.receive dev report)

/-! ## Requests of the owner -/

theorem entered (attested : Attested st) (device : σ) {entry : Entry}
    (other : entry.asksStart = false) :
    Attested (st.entered device entry) ∧
      latestRun (st.entered device entry).device.entries = latestRun st.device.entries ++ [entry] := by
  have quiet : startsIn [entry] = 0 := by simp [startsIn, other]
  refine ⟨attested.next rfl quiet (.refl _) ?_ .inl, latestRun_append quiet⟩
  intro d delivering report waits
  exact .inl ⟨d, delivering, waits⟩

/-- A request that is attested when it was noted stays so until it is answered. -/
theorem lineFrom {r : Request}
    (asking : ∀ raised, Attested (st.entered raised (.asked r)))
    (calm : ∀ raised, Calm none gone (st.entered raised (.asked r))) :
    Attested (Station.line dev.journaled r st).2 := by
  obtain ⟨reports, raised, a, device, eq⟩ := line_eq dev r st
  rw [eq]
  exact (((asking raised).foldl_receive dev (calm raised) reports).entered device rfl).1

theorem line (attested : Attested st) (calm : Calm none gone st) {r : Request}
    (other : (Entry.asked r).ofStart = false) : Attested (Station.line dev.journaled r st).2 := by
  apply lineFrom dev
  · exact fun raised => (attested.entered raised (Entry.asksStart_of_ofStart other)).1
  · exact fun raised => (calm.entered raised other rfl).1

theorem halt (attested : Attested st) (calm : Calm none gone st) :
    Attested (st.halt dev.journaled).2 := by
  exact attested.stop (attested.line dev calm rfl) (mem_latestRun_line dev calm rfl).1

theorem follow (attested : Attested st) {reported : Phase}
    (answered : .answered .phase (.ok reported) ∈ latestRun st.device.entries)
    (fault : Option DeviceFault) :
    Attested { st with session := st.session.follow reported fault } := by
  have onward := st.session.follow_onward reported fault
  have frame := st.session.follow_eq reported fault
  refine attested.still rfl onward ?_ ?_
  · simp only
    rw [frame]
    intro d delivering report waits
    exact ⟨d, delivering, waits⟩
  · intro ended
    cases Session.follow_ends attested.begun ended with
    | inl earlier => exact .inl earlier
    | inr told =>
      refine .inr ⟨_, answered, ?_⟩
      rcases told with told | lost
      · simp [Entry.ends, Entry.tellsEnd, told]
      · simp [Entry.ends, Entry.losesSight, lost]

theorem refresh (attested : Attested st) (calm : Calm none gone st) :
    Attested (st.refresh (Station.line dev.journaled)).2 := by
  unfold Station.refresh
  have asked := attested.line dev calm (r := .phase) rfl
  obtain ⟨_, answered⟩ := mem_latestRun_line dev calm (r := .phase) rfl
  have calm := (calm.line dev (r := .phase) rfl).1
  generalize Station.line dev.journaled .phase st = outcome at asked answered calm ⊢
  obtain ⟨result, after⟩ := outcome
  cases result with
  | error fault => exact asked.onward answered rfl (.fail _ _)
  | ok reported =>
    simp only [faultBehind] at asked answered calm ⊢
    split
    next =>
      obtain ⟨_, adds⟩ := (calm.line dev (r := .fault) rfl).2.adds
      exact (asked.line dev calm rfl).follow (adds.mem_latestRun answered) _
    next => exact asked.follow answered none

/-- A run that failed is stopped. -/
theorem line_stop (attested : Attested st) (calm : Calm none gone st) (f : Failure) :
    Attested (Station.line dev.journaled .stop (st.fail f)).2 := by
  have failed : Calm none gone (st.fail f) := calm.onward (.fail _ _)
  apply lineFrom dev
  · intro raised
    -- the stop that is asked for is the reason for the failure before it
    apply attested.next
    · rfl
    · rfl
    · exact .fail _ _
    · intro d delivering report waits
      exact .inl ⟨d, delivering, waits⟩
    · intro _
      exact .inr ⟨.asked .stop, by simp, rfl⟩
  · exact fun raised => (failed.entered raised rfl rfl).1

theorem fetch (attested : Attested st) (calm : Calm none gone st) :
    Attested (st.fetch (Station.line dev.journaled)).2 := by
  unfold Station.fetch
  have asked := attested.line dev calm (r := .data) rfl
  obtain ⟨_, answered⟩ := mem_latestRun_line dev calm (r := .data) rfl
  have calm := (calm.line dev (r := .data) rfl).1
  generalize Station.line dev.journaled .data st = outcome at asked answered calm ⊢
  obtain ⟨result, after⟩ := outcome
  cases result with
  | error fault => exact asked.onward answered rfl (.fail _ _)
  | ok data =>
    simp only
    split
    next breach _ => exact asked.line_stop dev calm _
    next => exact asked

theorem poll (attested : Attested st) (calm : Calm none gone st) :
    Attested (st.poll (Station.line dev.journaled)).2 := by
  unfold Station.poll
  split
  next => exact attested
  next =>
    split
    next => exact attested
    next =>
      have refreshed := attested.refresh dev calm
      have calm := (calm.refresh dev).1
      generalize st.refresh (Station.line dev.journaled) = outcome at refreshed calm ⊢
      obtain ⟨result, after⟩ := outcome
      cases result with
      | error _ => exact refreshed
      | ok _ => exact refreshed.fetch dev calm

theorem close (attested : Attested st) (sound : st.session.Sound) :
    Attested (st.close dev.journaled) := by
  unfold Station.close
  split
  next => exact attested
  next d delivery =>
    split
    next => exact attested.present dev (sound.notified delivery) delivery _
    next => exact attested

/-- The write of a trigger that fails is followed by a stop. -/
theorem activate (attested : Attested st) (calm : Calm none gone st) (trigger : Trigger) :
    Attested (st.activate dev.journaled trigger).2 := by
  unfold Station.activate
  have written : Attested (st.writeTrigger dev.journaled trigger 1).2 := by
    unfold writeTrigger
    split
    next => exact attested.line dev calm rfl
    next => exact attested
  have calm := (calm.writeTrigger dev trigger 1).1
  generalize st.writeTrigger dev.journaled trigger 1 = outcome at written calm ⊢
  obtain ⟨result, after⟩ := outcome
  cases result with
  | error fault =>
    simp only at written calm ⊢
    have failed : Calm none gone (after.fail (.device fault)) := calm.onward (.fail _ _)
    obtain ⟨stopped, keeps⟩ := failed.line dev (r := .stop) rfl
    have idle := keeps.onward.idle (Phase.isActive_of_isTerminal (Lifecycle.isTerminal_fail _ _))
    rw [join_eq_close dev.journaled stopped.sound stopped.idle idle]
    exact (written.line_stop dev calm _).close dev stopped.sound
  | ok _ => exact written

/-- A session that asks for a start has no run yet that could be over. -/
theorem startLine {handler : Option (List Reaction)} {tag : Int}
    (calm : ∀ raised, Calm none gone
      ((st.armed handler tag).entered raised (.asked (.start handler.isSome tag)))) :
    Attested (Station.line dev.journaled (.start handler.isSome tag) (st.armed handler tag)).2 := by
  apply lineFrom dev _ calm
  intro raised
  refine ⟨rfl, ?_, ?_⟩
  · intro d delivering report waits
    cases handler with
    | none => cases delivering
    | some reactions =>
      cases delivering
      cases waits
  · intro ended
    cases ended

/-- A run that is over already does not end again. -/
theorem fail (attested : Attested st) (ended : st.session.phase.isTerminal = true) (f : Failure) :
    Attested (st.fail f) := by
  refine attested.still rfl (.fail _ _) ?_ fun _ => .inl ended
  intro d delivering report waits
  exact ⟨d, delivering, waits⟩

theorem hangUp (attested : Attested st) : Attested st.endDelivery :=
  ⟨attested.begun, by simp [endDelivery], attested.ended⟩

end Attested

/-! ## Operations -/

/-- The run is attested if the device accepted one since it was configured. -/
def Vouched (st : Station (Journal σ)) : Prop := Begun st.device.entries → Attested st

namespace Vouched

theorem next (vouched : Vouched st) (keeps : Keeps st st') (step : Attested st → Attested st') :
    Vouched st' := by
  intro begun
  obtain ⟨_, adds⟩ := keeps.adds
  exact step (vouched (begun.of_adds adds))

theorem unchanged (vouched : Vouched st) (delivery : st'.session.delivery = st.session.delivery)
    (lifecycle : st'.session.lifecycle = st.session.lifecycle)
    (entries : st'.device.entries = st.device.entries) : Vouched st' := by
  intro begun
  rw [entries] at begun
  exact (vouched begun).unchanged delivery lifecycle entries

theorem halt (vouched : Vouched st) (calm : Calm none gone st) :
    Vouched (st.halt dev.journaled).2 :=
  vouched.next (calm.halt dev).2.1 fun attested => attested.halt dev calm

theorem close (vouched : Vouched st) (calm : Calm none gone st) : Vouched (st.close dev.journaled) :=
  vouched.next (calm.close dev).2 fun attested => attested.close dev calm.sound

theorem receive (vouched : Vouched st) (sound : st.session.Sound) (report : Report) :
    Vouched (st.receive dev.journaled report) :=
  vouched.next (receive_keeps dev sound report) fun attested => attested.receive dev sound report

theorem drop (vouched : Vouched st) (calm : Calm none gone st) : Vouched (st.drop dev.journaled) := by
  unfold Station.drop
  split
  next =>
    obtain ⟨released, idle⟩ := calm.release dev
    rw [join_eq_close dev.journaled released.sound released.idle idle]
    apply close dev _ released
    have abandoned : Vouched { st with session := { st.session with live := false } } :=
      vouched.unchanged rfl rfl rfl
    unfold release
    simp only
    split
    next => exact abandoned.halt dev calm.abandoned
    next => exact abandoned
  next => exact vouched

theorem pass (vouched : Vouched st) (calm : Calm none gone st) : Vouched (st.pass dev.journaled) := by
  have quiet : Adds st.device.entries (dev.journaled.advance st.device).2.entries [] := .refl _
  have moved : Calm none gone { st with device := (dev.journaled.advance st.device).2 } ∧
      Vouched { st with device := (dev.journaled.advance st.device).2 } :=
    ⟨calm.unchanged (keeps_device quiet) rfl rfl quiet, vouched.unchanged rfl rfl rfl⟩
  refine (pass_induction (P := fun st => Calm none gone st ∧ Vouched st) moved ?_).2
  rintro after report ⟨calm, vouched⟩
  exact ⟨calm.receive dev report, vouched.receive dev calm.sound report⟩

/-- Between a configuration and a start there is no run. -/
theorem not_begun (vouched : Vouched st) (configured : st.session.phase = .configured) :
    ¬Begun st.device.entries := by
  intro begun
  have started := (vouched begun).begun
  rw [configured] at started
  cases started

theorem configure (vouched : Vouched st) (calm : Calm none gone st) (c : Configuration) :
    Vouched (st.configure dev.journaled c).2 := by
  unfold Station.configure
  split
  next => exact vouched
  next =>
    split
    next => exact vouched
    next idle =>
      have idle : st.session.phase.isActive = false := by simpa using idle
      obtain ⟨closed, keeps⟩ := calm.close dev
      obtain ⟨_, keeps'⟩ := closed.line dev (r := .configure c) rfl
      rw [join_eq_close dev.journaled calm.sound calm.idle idle]
      have stays : Attested st →
          Attested (Station.line dev.journaled (.configure c) (st.close dev.journaled)).2 :=
        fun attested => (attested.close dev calm.sound).line dev closed rfl
      have kept := keeps.trans keeps'
      obtain ⟨reports, raised, a, device, eq⟩ := line_eq dev (.configure c) (st.close dev.journaled)
      rw [eq] at stays kept ⊢
      cases a with
      | error fault =>
        apply vouched.next (kept.trans (keeps_lifecycle (.fail _ _)))
        intro attested
        -- a session that is configured was not active, so its run is over already
        have ended : st.session.phase.isTerminal = true := by
          simpa [Phase.begun, idle] using attested.begun
        exact (stays attested).fail (kept.onward.isTerminal ended) _
      | ok _ =>
        simp only
        split
        next => exact vouched.next kept stays
        next => exact fun begun => absurd begun (not_begun_configured rfl)

theorem start (vouched : Vouched st) (settled : Settled none gone st) (live : st.session.live = true)
    (handler : Option (List Reaction)) (tag : Int) (refusal : Option String) :
    Vouched (st.start dev.journaled handler tag refusal).2 := by
  cases startable : st.startTrigger with
  | error m =>
    unfold Station.start
    rw [startable]
    exact vouched
  | ok trigger =>
    obtain ⟨configured, _⟩ := start_eq dev settled.sound startable handler tag refusal
    have fresh := vouched.not_begun configured
    have starting := settled.starting dev handler tag refusal
    generalize st.start dev.journaled handler tag refusal = outcome at starting ⊢
    cases starting with
    | unready m => exact vouched
    | unwritten primed fault =>
      intro begun
      obtain ⟨_, adds⟩ := primed.keeps.adds
      exact absurd (begun.of_adds adds) fresh
    | unheard primed thread =>
      intro begun
      obtain ⟨_, adds⟩ := primed.keeps.adds
      exact absurd (begun.of_adds adds) fresh
    | @launched after primed trigger =>
      have alive : after.session.live = true := by rw [primed.same, live]
      have asking := primed.calm.asking handler tag
      have attested := Attested.startLine dev asking
      obtain ⟨a, running, eq, started, added, journal, quiet⟩ := Calm.startLine dev asking alive
      rw [eq] at attested
      simp only [launched, eq]
      cases a with
      | error fault =>
        -- a start that is refused does not begin a run
        intro begun
        obtain ⟨_, silent⟩ := (refused_keeps dev started.sound fault).1.adds
        replace begun : Begun running.device.entries := begun.of_adds silent
        obtain ⟨_, adds⟩ := primed.keeps.adds
        rw [journal, List.append_assoc] at begun
        refine absurd ((begun.earlier ?_).of_adds adds) fresh
        intro entry member
        simp only [List.cons_append, List.mem_cons, List.mem_append, List.not_mem_nil, or_false] at member
        rcases member with rfl | other | rfl
        · rfl
        · exact Entry.startsRun_of_ofStart (quiet entry other)
        · rfl
      | ok _ => exact fun _ => attested.activate dev started.toCalm trigger

end Vouched

/-- The operations leave every run attested. -/
theorem upholds_vouched : Upholds dev.journaled
    (fun st : Station (Journal σ) => Settled none gone st ∧ Vouched st) fun _ => True := by
  have upholds : Upholds dev.journaled (Settled (σ := σ) none gone) fun _ => True := upholds_settled dev
  exact {
    misuse := fun _ => trivial
    timeout := fun _ => trivial
    configure := fun c st ⟨settled, vouched⟩ live =>
      ⟨⟨(upholds.configure c st settled live).holds, vouched.configure dev settled.toCalm c⟩,
        fun _ _ => trivial⟩
    start := fun handler tag refusal st ⟨settled, vouched⟩ live =>
      ⟨⟨(upholds.start handler tag refusal st settled live).holds,
          vouched.start dev settled live handler tag refusal⟩,
        fun _ _ => trivial⟩
    halt := fun st ⟨settled, vouched⟩ =>
      ⟨⟨(upholds.halt st settled).holds, vouched.halt dev settled.toCalm⟩, fun _ _ => trivial⟩
    refresh := fun st ⟨settled, vouched⟩ =>
      ⟨⟨(upholds.refresh st settled).holds, vouched.next (settled.refresh dev).2 fun attested =>
        attested.refresh dev settled.toCalm⟩, fun _ _ => trivial⟩
    poll := fun st ⟨settled, vouched⟩ =>
      ⟨⟨(upholds.poll st settled).holds, vouched.next (settled.poll dev).2 fun attested =>
        attested.poll dev settled.toCalm⟩, fun _ _ => trivial⟩
    number := fun data st ⟨settled, vouched⟩ checked => by
      obtain ⟨numbered, rows⟩ := upholds.number data st settled checked
      exact ⟨⟨numbered, vouched.unchanged rfl rfl rfl⟩, rows⟩
    readBack := fun st ⟨settled, vouched⟩ =>
      ⟨⟨(upholds.readBack st settled).holds, vouched.next (settled.line dev rfl).2 fun attested =>
        attested.line dev settled.toCalm rfl⟩, fun _ _ => trivial⟩
    drop := fun st ⟨settled, vouched⟩ live =>
      ⟨upholds.drop st settled live, vouched.drop dev settled.toCalm⟩
    close := fun st ⟨settled, vouched⟩ => ⟨upholds.close st settled, vouched.close dev settled.toCalm⟩
    pass := fun st ⟨settled, vouched⟩ => ⟨upholds.pass st settled, vouched.pass dev settled.toCalm⟩ }

/-! ## Runs -/

theorem vouched_act (settled : Settled none gone st) (vouched : Vouched st) (step : Step σ) :
    Vouched (st.act dev step) := by
  have upholds : Upholds dev.journaled
      (fun st : Station (Journal σ) => Settled none gone st ∧ Vouched st) fun _ => True :=
    upholds_vouched dev
  cases step with
  | perform command =>
    simp only [act]
    split
    next live => exact (upholds.perform ⟨settled, vouched⟩ live command).1.2
    next => exact vouched
  | halt => exact vouched.halt dev settled.toCalm
  | receive report => exact vouched.receive dev settled.sound report
  | pass milliseconds => exact (upholds.elapse ⟨settled, vouched⟩ milliseconds).2
  | disturb change => exact vouched.unchanged rfl rfl rfl
  | hangUp => exact fun begun => (vouched begun).hangUp

theorem vouched_run (settled : Settled none gone st) (vouched : Vouched st) (steps : List (Step σ)) :
    Vouched (st.run dev steps) := by
  -- by induction on the steps
  induction steps generalizing st gone with
  | nil => exact vouched
  | cons step rest ih =>
    have acted := settled.act dev step
    exact ih ((upholds_settled dev).close _ acted)
      ((vouched_act dev settled vouched step).close dev acted.toCalm)

/-- **The end of a run at its device.** Let a session be over or dropped, and let its device have accepted
a start since it accepted a configuration for the last time. Since that start the device told the session
that the run is over, or was asked to stop, unless the session lost sight of the run. -/
theorem ending_of_run (handle : Handle) (options : Options) (device : σ) (steps : List (Step σ))
    {st : Station (Journal σ)} (course : st = run dev steps ⟨.bind handle options, ⟨device, []⟩⟩)
    (finished : st.session.phase.isTerminal = true ∨ st.session.live = false)
    (begun : Begun st.device.entries) :
    (∃ entry ∈ latestRun st.device.entries, entry.tellsEnd = true) ∨
      .asked .stop ∈ latestRun st.device.entries ∨
      ∃ entry ∈ latestRun st.device.entries, entry.losesSight = true := by
  have bound : Settled none false (⟨.bind handle options, ⟨device, []⟩⟩ : Station (Journal σ)) :=
    settled_bind handle options _
  have fresh : Vouched (⟨.bind handle options, ⟨device, []⟩⟩ : Station (Journal σ)) := by
    rintro ⟨_, member, _⟩
    cases member
  have settled := bound.run dev steps
  have attested := vouched_run dev bound fresh steps (course ▸ begun)
  rw [← course] at settled attested
  have ended : st.session.phase.isTerminal = true := by
    cases finished with
    | inl ended => exact ended
    | inr dropped => simpa [Phase.begun, settled.dropped dropped] using attested.begun
  obtain ⟨entry, member, ends⟩ := attested.ended ended
  rw [Entry.ends, Bool.or_eq_true, Bool.or_eq_true] at ends
  rcases ends with (told | stopping) | lost
  · exact .inl ⟨entry, member, told⟩
  · exact .inr (.inl (Entry.eq_of_asksStop stopping ▸ member))
  · exact .inr (.inr ⟨entry, member, lost⟩)

/-- A poll finds no answer, and nothing that is done to the session later stops the run. -/
theorem ending_of_lostRun :
    let prepared : Playback := { Playback.blank with phases := [.error ⟨.timeout, 0, "no answer"⟩] }
    let steps : List (Step Playback) := [.perform (.configure oneAddress), .perform (.start 0),
      .perform .poll, .halt, .perform .drop]
    let st := Station.run Playback.device steps ⟨.bind ⟨0⟩ .standard, ⟨prepared, []⟩⟩
    (st.session.phase.isTerminal = true ∨ st.session.live = false) ∧ Begun st.device.entries ∧
      (∀ entry ∈ latestRun st.device.entries, entry.tellsEnd = false ∧ entry.asksStop = false) ∧
      ∃ entry ∈ latestRun st.device.entries, entry.losesSight = true := by
  intro prepared steps st
  have course : st = Station.run Playback.device steps ⟨.bind ⟨0⟩ .standard, ⟨prepared, []⟩⟩ := rfl
  have finished : st.session.phase.isTerminal = true ∨ st.session.live = false := by decide +kernel
  have begun : Begun st.device.entries := by decide +kernel
  have orphaned : ∀ entry ∈ latestRun st.device.entries,
      entry.tellsEnd = false ∧ entry.asksStop = false := by decide +kernel
  refine ⟨finished, begun, orphaned, ?_⟩
  rcases ending_of_run Playback.device ⟨0⟩ .standard prepared steps course finished begun with
    ⟨entry, member, told⟩ | stopping | lost
  · rw [(orphaned entry member).1] at told
    cases told
  · exact absurd (orphaned _ stopping).2 (by simp [Entry.asksStop])
  · exact lost

end Station

end TriggeredSampler
