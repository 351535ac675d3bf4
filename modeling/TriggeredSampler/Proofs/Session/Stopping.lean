import TriggeredSampler.Proofs.Session.Hearing
import TriggeredSampler.Proofs.Session.Notices

/-! # Stopping a run

A stop of the owner loses nothing that the device reports: everything is delivered before the device
answers. A handler that stops the run loses what waits behind the next report, since that report is shown in
the phase that the session is in, which is the terminal phase of the stop.

* `Station.Attends`, `Station.Attended` — what holds of a watched run between two operations.
* `Station.upholds_attends` — the operations keep it.
* `Station.data_of_run` — what a handler hears of an orderly run.
-/

namespace TriggeredSampler.Station

variable {σ : Type} (dev : Device σ) {st st' : Station (Journal σ)} {gone : Bool} {run : Run}
  {reactions : List Reaction} {depth : Nat} {since added : List Entry}

/-- No stop is under way at a run that is watched. -/
abbrev Attends (run : Run) (reactions : List Reaction) (st : Station (Journal σ)) : Prop :=
  Follows run (Hears run reactions 0) st

/-- The delivery of a run that was watched is over. -/
abbrev Attended (run : Run) (reactions : List Reaction) (st : Station (Journal σ)) : Prop :=
  Follows run (fun since st => ∃ delivered, Heard run reactions delivered since st) st

theorem Attended.attends (attended : Attended run reactions st) : Attends run reactions st := by
  obtain ⟨since, journal, heard⟩ := attended
  refine ⟨since, journal, fun quiet orderly => ?_⟩
  obtain ⟨delivered, heard⟩ := heard quiet orderly
  exact .heard heard

theorem Follows.attended_of_closed (attends : Attends run reactions st)
    (closed : st.session.delivery = none) : Attended run reactions st := by
  obtain ⟨since, journal, hears⟩ := attends
  refine ⟨since, journal, fun quiet orderly => ?_⟩
  cases hears quiet orderly with
  | ongoing hearing =>
    rw [hearing.delivery] at closed
    cases closed
  | ending hearing =>
    rw [hearing.delivery] at closed
    cases closed
  | heard heard => exact ⟨_, heard⟩

theorem Follows.attended_of_idle (attends : Attends run reactions st) (nothing : st.queued = 0)
    (idle : st.session.phase.isActive = false) : Attended run reactions st := by
  obtain ⟨since, journal, hears⟩ := attends
  refine ⟨since, journal, fun quiet orderly => ?_⟩
  cases hears quiet orderly with
  | ongoing hearing ongoing =>
    rw [ongoing.active] at idle
    cases idle
  | ending hearing ending =>
    have empty := nothing
    rw [queued, hearing.delivery] at empty
    exact absurd empty ending.waits
  | heard heard => exact ⟨_, heard⟩

theorem Follows.attended_later (attended : Attended run reactions st)
    (journal : st'.device.entries = st.device.entries ++ added)
    (closed : st.session.delivery = none → st'.session.delivery = none)
    (silent : st.session.delivery = none → st'.session.notes = st.session.notes) :
    Attended run reactions st' := by
  refine attended.next journal fun since _ _ heard => ?_
  obtain ⟨delivered, heard⟩ := heard
  exact ⟨delivered, heard.keep (closed heard.delivery) (silent heard.delivery) _⟩

theorem Follows.attended_keeps (attended : Attended run reactions st) (keeps : Keeps st st') :
    Attended run reactions st' := by
  obtain ⟨_, added, journal, _⟩ := keeps.adds
  exact attended.attended_later journal keeps.closed keeps.silent

/-- A change that leaves the delivery, the notes and the device alone, and the session active if it is. -/
theorem Follows.attends_unchanged (attends : Attends run reactions st)
    (delivery : st'.session.delivery = st.session.delivery)
    (notes : st'.session.notes = st.session.notes) (tracked : st'.session.tracked = st.session.tracked)
    (active : st.session.phase.isActive = true → st'.session.phase.isActive = true)
    (ended : st.session.phase.isTerminal = true → st'.session.phase.isTerminal = true)
    (entries : st'.device.entries = st.device.entries) : Attends run reactions st' := by
  have journal : st'.device.entries = st.device.entries ++ [] := by rw [entries, List.append_nil]
  exact attends.next journal fun since _ _ hears =>
    hears.unchanged delivery notes tracked active ended rfl rfl id

theorem Heard.entered {delivered : List Report} (heard : Heard run reactions delivered since st)
    (device : σ) (entry : Entry) :
    Heard run reactions delivered (since ++ [entry]) (st.entered device entry) := by
  apply heard.keep
  · exact heard.delivery
  · rfl

/-! ## Requests of the owner -/

theorem Follows.foldl_receive (follows : Follows run (Hears run reactions depth) st)
    (calm : Calm none gone st) (reports : List Report) :
    Follows run (Hears run reactions depth) (reports.foldl (Station.receive dev.journaled) st) := by
  -- by induction on the reports
  induction reports generalizing st with
  | nil => exact follows
  | cons report rest ih =>
    exact ih (follows.receive dev calm.sound report) (calm.receive dev report)

/-- The request is noted, and the reports that it raises are delivered. -/
theorem Follows.asked (attends : Attends run reactions st) (calm : Calm none gone st)
    (reports : List Report) (raised : σ) (r : Request) (deeper : Nat)
    (other : (Entry.asked r).ofStart = false) (stops : (Entry.asked r).stops = deeper) :
    Follows run (Hears run reactions deeper)
        (reports.foldl (Station.receive dev.journaled) (st.entered raised (.asked r))) ∧
      (reports.foldl (Station.receive dev.journaled) (st.entered raised (.asked r))).queued = 0 := by
  have asking : Follows run (Hears run reactions deeper) (st.entered raised (.asked r)) :=
    attends.next rfl fun since _ _ hears =>
      hears.unchanged rfl rfl rfl id id rfl (by simp [stops]) (by simp)
  have calm := (calm.entered raised other rfl).1
  exact ⟨asking.foldl_receive dev calm reports, (calm.foldl_receive dev reports).1.idle⟩

theorem Follows.line (attends : Attends run reactions st) (calm : Calm none gone st) {r : Request}
    (other : (Entry.asked r).ofStart = false) (stops : (Entry.asked r).stops = 0) :
    Attends run reactions (Station.line dev.journaled r st).2 := by
  obtain ⟨reports, raised, a, device, eq⟩ := line_eq dev r st
  obtain ⟨told, _⟩ := attends.asked dev calm reports raised r 0 other stops
  rw [eq]
  refine told.next rfl fun since _ _ hears => hears.unchanged rfl rfl rfl id id rfl ?_ id
  cases r <;> simp_all [Entry.stops]

/-- A stop that the owner asks for is answered when everything was delivered. -/
theorem Follows.line_stop (attends : Attends run reactions st) (calm : Calm none gone st) :
    Attended run reactions (Station.line dev.journaled .stop st).2 := by
  obtain ⟨reports, raised, a, device, eq⟩ := line_eq dev .stop st
  obtain ⟨told, idle⟩ := attends.asked dev calm reports raised .stop 1 rfl rfl
  rw [eq]
  generalize reports.foldl (Station.receive dev.journaled) (st.entered raised (.asked .stop)) = running
    at told idle ⊢
  refine told.next rfl fun since _ orderly hears => ?_
  -- a device that keeps order sends its terminal report before it answers the stop
  have last : openStops since = 1 → ∃ report ∈ sentReports since, report.isLast = true := fun under =>
    orderly.ended since _ List.prefix_rfl rfl (by simp [under, Entry.stops])
  cases hears with
  | ongoing hearing => exact absurd (last hearing.depth) (hearing.going_of_idle idle)
  | ending hearing => exact absurd (last hearing.depth) (hearing.going_of_idle idle)
  | heard heard => exact ⟨_, heard.entered device _⟩

/-- A device that is asked for its phase answers an active one, or the delivery is over. -/
theorem Follows.line_phase (attends : Attends run reactions st) (calm : Calm none gone st) :
    (∃ phase, (Station.line dev.journaled .phase st).1 = .ok phase ∧ phase.isActive = true) ∨
      Attended run reactions (Station.line dev.journaled .phase st).2 := by
  obtain ⟨reports, raised, a, device, eq⟩ := line_eq dev .phase st
  obtain ⟨told, idle⟩ := attends.asked dev calm reports raised .phase 0 rfl rfl
  rw [eq]
  generalize reports.foldl (Station.receive dev.journaled) (st.entered raised (.asked .phase)) = running
    at told idle ⊢
  by_cases active : ∃ phase, a = .ok phase ∧ phase.isActive = true
  · exact .inl active
  · refine .inr (told.next rfl fun since _ orderly hears => ?_)
    have ends : (Entry.answered .phase a).endsRun = true := by
      cases a with
      | error fault => rfl
      | ok phase => simpa [Entry.endsRun] using active
    have last : openStops since = 0 → ∃ report ∈ sentReports since, report.isLast = true := fun under =>
      orderly.ended since _ List.prefix_rfl ends (by simp [under, Entry.stops])
    cases hears with
    | ongoing hearing => exact absurd (last hearing.depth) (hearing.going_of_idle idle)
    | ending hearing => exact absurd (last hearing.depth) (hearing.going_of_idle idle)
    | heard heard => exact ⟨_, heard.entered device _⟩

/-! ## Operations of the owner -/

theorem Follows.halt (attends : Attends run reactions st) (calm : Calm none gone st) :
    Attends run reactions (st.halt dev.journaled).2 := by
  unfold Station.halt stop
  split
  next => exact attends
  next =>
    split
    next unconfigured =>
      have idle : st.session.phase.isActive = false := by rw [unconfigured]; rfl
      have attended := attends.attended_of_idle calm.idle idle
      exact (attended.attended_keeps (keeps_lifecycle (.cancel _))).attends
    next =>
      have attended := attends.line_stop dev calm
      generalize Station.line dev.journaled .stop st = outcome at attended ⊢
      obtain ⟨result, after⟩ := outcome
      cases result with
      | error _ => exact (attended.attended_keeps (keeps_lifecycle (.fail _ _))).attends
      | ok _ => exact (attended.attended_keeps (keeps_lifecycle (.cancel _))).attends

/-- An active session that follows an active phase stays active. -/
theorem Follows.follow (attends : Attends run reactions st) {reported : Phase}
    (active : reported.isActive = true) (fault : Option DeviceFault) :
    Attends run reactions { st with session := st.session.follow reported fault } := by
  have onward := st.session.follow_onward reported fault
  have frame := st.session.follow_eq reported fault
  refine attends.attends_unchanged ?_ ?_ ?_ ?_ onward.isTerminal rfl
  · simp only
    rw [frame]
  · simp only
    rw [frame]
  · simp only
    rw [frame]
  · intro going
    have begun := onward.begun (Phase.begun_of_isActive going)
    apply Phase.isActive_of_begun begun
    have same := Session.follow_of_active going (Phase.begun_of_isActive active) fault
    rw [Phase.isTerminal_of_isActive active] at same
    exact same

theorem Follows.refresh (attends : Attends run reactions st) (calm : Calm none gone st) :
    Attends run reactions (st.refresh (Station.line dev.journaled)).2 := by
  unfold Station.refresh
  have asked := attends.line dev calm (r := .phase) rfl rfl
  have ends := attends.line_phase dev calm
  have calm := (calm.line dev (r := .phase) rfl).1
  generalize Station.line dev.journaled .phase st = outcome at asked ends calm ⊢
  obtain ⟨result, after⟩ := outcome
  cases result with
  | error fault =>
    have attended := ends.resolve_left (by simp)
    exact (attended.attended_keeps (keeps_lifecycle (.fail _ _))).attends
  | ok reported =>
    simp only [faultBehind] at asked ends calm ⊢
    -- an orderly device is not over before its terminal report
    rcases ends with ⟨_, ⟨⟩, active⟩ | attended
    · have going : reported ≠ .failed := by
        rintro rfl
        cases active
      rw [if_neg going]
      exact asked.follow active none
    · split
      next =>
        obtain ⟨told, keeps⟩ := calm.line dev (r := .fault) rfl
        obtain ⟨_, onward⟩ := told.follow reported (Station.line dev.journaled .fault after).1
        exact (attended.attended_keeps (keeps.trans onward)).attends
      next =>
        obtain ⟨_, onward⟩ := calm.follow reported none
        exact (attended.attended_keeps onward).attends

theorem Follows.poll (attends : Attends run reactions st) (calm : Calm none gone st) :
    Attends run reactions (st.poll (Station.line dev.journaled)).2 := by
  obtain ⟨_, keeps⟩ := calm.poll dev
  cases notified : st.session.notified with
  | true =>
    rw [Station.poll, if_pos notified]
    exact attends
  | false =>
    have closed := calm.sound.delivery_of_unnotified notified
    exact ((attends.attended_of_closed closed).attended_keeps keeps).attends

theorem Follows.close (attends : Attends run reactions st) (calm : Calm none gone st) :
    Attends run reactions (st.close dev.journaled) := by
  cases active : st.session.phase.isActive with
  | true =>
    have going := Phase.isTerminal_of_isActive active
    unfold Station.close
    split
    next => exact attends
    next => rwa [if_neg (by simp [going])]
  | false =>
    obtain ⟨_, keeps⟩ := calm.close dev
    exact ((attends.attended_of_idle calm.idle active).attended_keeps keeps).attends

theorem Follows.release (attends : Attends run reactions st) (calm : Calm none gone st) :
    Attends run reactions (st.release (Station.line dev.journaled)) := by
  have abandoned : Attends run reactions { st with session := { st.session with live := false } } :=
    attends.attends_unchanged rfl rfl rfl id id rfl
  unfold Station.release
  simp only
  split
  next => exact abandoned.halt dev calm.abandoned
  next => exact abandoned

theorem Follows.drop (attends : Attends run reactions st) (calm : Calm none gone st) :
    Attends run reactions (st.drop dev.journaled) := by
  unfold Station.drop
  split
  next live =>
    obtain ⟨released, idle⟩ := calm.release dev
    rw [join_eq_close dev.journaled released.sound released.idle idle]
    exact (attends.release dev calm).close dev released
  next => exact attends

theorem Follows.configure (attends : Attends run reactions st) (calm : Calm none gone st)
    (c : Configuration) : Attends run reactions (st.configure dev.journaled c).2 := by
  unfold Station.configure
  split
  next => exact attends
  next =>
    split
    next => exact attends
    next idle =>
      have idle : st.session.phase.isActive = false := by simpa using idle
      obtain ⟨closed, keeps⟩ := calm.close dev
      have attended := attends.attended_of_idle calm.idle idle
      rw [join_eq_close dev.journaled calm.sound calm.idle idle]
      obtain ⟨_, keeps'⟩ := closed.line dev (r := .configure c) rfl
      have attended := attended.attended_keeps (keeps.trans keeps')
      generalize Station.line dev.journaled (.configure c) (st.close dev.journaled) = outcome
        at attended ⊢
      obtain ⟨result, after⟩ := outcome
      cases result with
      | error _ => exact (attended.attended_keeps (keeps_lifecycle (.fail _ _))).attends
      | ok _ =>
        simp only
        split
        next => exact attended.attends
        next l _ =>
          have same : (after.adopt c l).device.entries = after.device.entries ++ [] := by simp [adopt]
          exact (attended.attended_later same id fun _ => rfl).attends

theorem Follows.pass (attends : Attends run reactions st) (calm : Calm none gone st) :
    Attends run reactions (st.pass dev.journaled) := by
  have quiet : Adds st.device.entries (dev.journaled.advance st.device).2.entries [] := .refl _
  have moved : Calm none gone { st with device := (dev.journaled.advance st.device).2 } ∧
      Attends run reactions { st with device := (dev.journaled.advance st.device).2 } :=
    ⟨calm.unchanged (keeps_device quiet) rfl rfl quiet, attends.attends_unchanged rfl rfl rfl id id rfl⟩
  refine (pass_induction (P := fun st => Calm none gone st ∧ Attends run reactions st) moved ?_).2
  rintro after report ⟨calm, attends⟩
  exact ⟨calm.receive dev report, attends.receive dev calm.sound report⟩

/-! ## Starting -/

theorem Follows.another {C : List Entry → Station (Journal σ) → Prop} (attends : Attends run reactions st)
    {reported : Bool} {tag : Int} {more : List Entry}
    (journal : st'.device.entries = st.device.entries ++ .asked (.start reported tag) :: more) :
    Follows run C st' := by
  refine attends.next journal fun since quiet _ _ => ?_
  -- there is another start behind that of the run
  rw [startsIn_append, startsIn_start] at quiet
  omega

theorem Follows.start (attends : Attends run reactions st) (settled : Settled none gone st)
    (live : st.session.live = true) (handler : Option (List Reaction)) (tag : Int)
    (refusal : Option String) :
    Attends run reactions (st.start dev.journaled handler tag refusal).2 := by
  have starting := settled.starting dev handler tag refusal
  generalize st.start dev.journaled handler tag refusal = outcome at starting ⊢
  cases starting with
  | unready m => exact attends
  | unwritten primed fault =>
    have attended := (attends.attended_of_closed primed.closed).attended_keeps primed.keeps
    exact (attended.attended_keeps (keeps_lifecycle (.fail _ _))).attends
  | unheard primed thread =>
    exact ((attends.attended_of_closed primed.closed).attended_keeps primed.keeps).attends
  | @launched after primed trigger =>
    have attended := (attends.attended_of_closed primed.closed).attended_keeps primed.keeps
    have alive : after.session.live = true := by rw [primed.same, live]
    obtain ⟨a, running, eq, started, added, journal, _⟩ := Calm.startLine dev
      (primed.calm.asking handler tag) alive
    rw [List.append_assoc] at journal
    simp only [launched, eq]
    cases a with
    | error fault =>
      obtain ⟨_, more, later, _⟩ := (refused_keeps dev started.sound fault).1.adds
      rw [show (running.fail (.device fault)).device.entries = running.device.entries from rfl, journal,
        List.append_assoc] at later
      exact attended.attends.another later
    | ok _ =>
      obtain ⟨_, kept⟩ := started.activate dev trigger
      obtain ⟨_, more, later, _⟩ := kept.adds
      rw [journal, List.append_assoc] at later
      exact attended.attends.another later

theorem Follows.activate (attends : Attends run reactions st) (calm : Calm none gone st)
    {trigger : Trigger} (ok : (st.activate dev.journaled trigger).1 = .ok ()) :
    Attends run reactions (st.activate dev.journaled trigger).2 := by
  have written : Attends run reactions (st.writeTrigger dev.journaled trigger 1).2 := by
    unfold writeTrigger
    split
    next => exact attends.line dev calm rfl rfl
    next => exact attends
  unfold Station.activate at ok ⊢
  generalize st.writeTrigger dev.journaled trigger 1 = outcome at ok written ⊢
  obtain ⟨result, after⟩ := outcome
  cases result with
  | error fault => cases ok
  | ok _ => exact written

/-- The handler of a run that was started hears what the device reports. -/
theorem attends_start (settled : Settled none gone st) (live : st.session.live = true)
    (reactions : List Reaction) (tag : Int)
    (ok : (st.start dev.journaled (some reactions) tag none).1 = .ok ()) :
    ∃ prior, Attends (st.runBegun tag prior) reactions (st.start dev.journaled (some reactions) tag none).2 ∧
      startsIn (st.start dev.journaled (some reactions) tag none).2.device.entries = startsIn prior + 1 := by
  have starting := settled.starting dev (some reactions) tag none
  generalize st.start dev.journaled (some reactions) tag none = outcome at starting ok ⊢
  cases starting with
  | unready m => cases ok
  | unwritten primed fault => cases ok
  | unheard primed thread => cases ok
  | @launched after primed trigger =>
    have alive : after.session.live = true := by rw [primed.same, live]
    have asking := primed.calm.asking (some reactions) tag
    obtain ⟨a, running, eq, started, added, journal, quiet⟩ := Calm.startLine dev asking alive
    obtain ⟨reports, raised, a', device, eq'⟩ :=
      line_eq dev (.start true tag) (after.armed (some reactions) tag)
    obtain ⟨_, reached⟩ := Prod.mk.inj (eq.symm.trans eq')
    refine ⟨after.device.entries, ?_⟩
    generalize begins : st.runBegun tag after.device.entries = run
    -- the delivery is open before the device is asked, and nothing was delivered yet
    have begun : Attends run reactions
        ((after.armed (some reactions) tag).entered raised (.asked (.start true tag))) := by
      have hearing : Hearing run 0 ⟨tag, reactions, []⟩ [] []
          ((after.armed (some reactions) tag).entered raised (.asked (.start true tag))) := by
        refine ⟨rfl, ?_, rfl, rfl, ?_, ?_, by simp⟩
        all_goals simp [← begins, runBegun, noticesFrom, entered, armed, primed.same]
      refine ⟨[], ?_, fun _ _ => .ongoing hearing ⟨rfl, rfl, fun k within => absurd within (by simp)⟩⟩
      rw [← begins]
      exact (List.append_nil _).symm
    have told := begun.foldl_receive dev (asking raised) reports
    generalize reports.foldl (Station.receive dev.journaled) _ = delivered at told reached
    have attends : Attends run reactions running := by
      rw [reached]
      exact told.next rfl fun since _ _ hears => hears.unchanged rfl rfl rfl id id rfl rfl id
    have starts : startsIn running.device.entries = startsIn after.device.entries + 1 := by
      rw [journal, startsIn_answered quiet]
    simp only [launched, eq] at ok ⊢
    cases a with
    | error fault => cases ok
    | ok _ =>
      obtain ⟨_, kept⟩ := started.activate dev trigger
      obtain ⟨_, adds⟩ := kept.adds
      exact ⟨attends.activate dev started.toCalm ok, by rw [adds.startsIn, starts]⟩

/-! ## Runs -/

/-- The operations leave the handler with everything it has to hear. -/
theorem upholds_attends : Upholds dev.journaled
    (fun st : Station (Journal σ) => Settled none gone st ∧ Attends run reactions st) fun _ => True := by
  have upholds : Upholds dev.journaled (Settled (σ := σ) none gone) fun _ => True := upholds_settled dev
  exact {
    misuse := fun _ => trivial
    timeout := fun _ => trivial
    configure := fun c st ⟨settled, attends⟩ live =>
      ⟨⟨(upholds.configure c st settled live).holds, attends.configure dev settled.toCalm c⟩,
        fun _ _ => trivial⟩
    start := fun handler tag refusal st ⟨settled, attends⟩ live =>
      ⟨⟨(upholds.start handler tag refusal st settled live).holds,
          attends.start dev settled live handler tag refusal⟩,
        fun _ _ => trivial⟩
    halt := fun st ⟨settled, attends⟩ =>
      ⟨⟨(upholds.halt st settled).holds, attends.halt dev settled.toCalm⟩, fun _ _ => trivial⟩
    refresh := fun st ⟨settled, attends⟩ =>
      ⟨⟨(upholds.refresh st settled).holds, attends.refresh dev settled.toCalm⟩, fun _ _ => trivial⟩
    poll := fun st ⟨settled, attends⟩ =>
      ⟨⟨(upholds.poll st settled).holds, attends.poll dev settled.toCalm⟩, fun _ _ => trivial⟩
    number := fun data st ⟨settled, attends⟩ checked => by
      obtain ⟨numbered, rows⟩ := upholds.number data st settled checked
      exact ⟨⟨numbered, attends.attends_unchanged rfl rfl rfl id id rfl⟩, rows⟩
    readBack := fun st ⟨settled, attends⟩ =>
      ⟨⟨(upholds.readBack st settled).holds, attends.line dev settled.toCalm rfl rfl⟩, fun _ _ => trivial⟩
    drop := fun st ⟨settled, attends⟩ live =>
      ⟨upholds.drop st settled live, attends.drop dev settled.toCalm⟩
    close := fun st ⟨settled, attends⟩ => ⟨upholds.close st settled, attends.close dev settled.toCalm⟩
    pass := fun st ⟨settled, attends⟩ => ⟨upholds.pass st settled, attends.pass dev settled.toCalm⟩ }

theorem attends_act (settled : Settled none gone st) (attends : Attends run reactions st) {step : Step σ}
    (listening : step.hangsUp = false) :
    Settled none gone (st.act dev step) ∧ Attends run reactions (st.act dev step) := by
  have upholds : Upholds dev.journaled
      (fun st : Station (Journal σ) => Settled none gone st ∧ Attends run reactions st) fun _ => True :=
    upholds_attends dev
  have acted := settled.act dev step
  rw [listening, Bool.or_false] at acted
  refine ⟨acted, ?_⟩
  cases step with
  | perform command =>
    simp only [act]
    split
    next live => exact (upholds.perform ⟨settled, attends⟩ live command).1.2
    next => exact attends
  | halt => exact attends.halt dev settled.toCalm
  | receive report => exact attends.receive dev settled.sound report
  | pass milliseconds => exact (upholds.elapse ⟨settled, attends⟩ milliseconds).2
  | disturb change => exact attends.attends_unchanged rfl rfl rfl id id rfl
  | hangUp => cases listening

theorem attends_run (settled : Settled none gone st) (attends : Attends run reactions st)
    {steps : List (Step σ)} (listening : ∀ step ∈ steps, step.hangsUp = false) :
    Settled none gone (st.run dev steps) ∧ Attends run reactions (st.run dev steps) := by
  -- by induction on the steps
  induction steps generalizing st with
  | nil => exact ⟨settled, attends⟩
  | cons step rest ih =>
    obtain ⟨acted, attended⟩ := attends_act dev settled attends
      (listening step (List.mem_cons_self ..))
    exact ih ((upholds_settled dev).close _ acted) (attended.close dev acted.toCalm)
      fun step member => listening step (List.mem_cons_of_mem _ member)

/-- A start that succeeds, and what closes its step. -/
theorem attends_step (settled : Settled none gone st) (live : st.session.live = true)
    (reactions : List Reaction) (tag : Int)
    (ok : (st.start dev.journaled (some reactions) tag none).1 = .ok ()) :
    ∃ prior, Settled none gone (st.step dev (.perform (.startNotified reactions tag))) ∧
      Attends (st.runBegun tag prior) reactions (st.step dev (.perform (.startNotified reactions tag))) ∧
      startsIn (st.step dev (.perform (.startNotified reactions tag))).device.entries =
        startsIn prior + 1 := by
  have acts : st.act dev (.perform (.startNotified reactions tag)) =
      (st.start dev.journaled (some reactions) tag none).2 := by
    rw [act, if_pos live]
    rfl
  obtain ⟨prior, begun, starts⟩ := attends_start dev settled live reactions tag ok
  have started := (upholds_settled dev).start (some reactions) tag none st settled live
  obtain ⟨_, closed⟩ := started.holds.close dev
  obtain ⟨_, adds⟩ := closed.adds
  rw [step, acts]
  exact ⟨prior, (upholds_settled dev).close _ started.holds, begun.close dev started.holds.toCalm,
    by rw [adds.startsIn, starts]⟩

/-- What a handler was shown as soon as nothing waits for it. -/
theorem Hears.shown {since : List Entry} (hears : Hears run reactions 0 since st)
    (idle : st.queued = 0) :
    ∃ delivered, delivered <+: throughEnd (sentReports since) ∧
      (st.noticesFrom run.noted).map Notice.data = delivered.map Report.data ∧
      (delivered = throughEnd (sentReports since) ∨
        ∃ k, delivered.length = k + 2 ∧ EndsRun reactions k) ∧
      ∀ k, reactions[k]? = some .stop → delivered.length ≤ k + 2 := by
  cases hears with
  | @ongoing d delivered hearing ongoing =>
    rw [queued, hearing.delivery] at idle
    have sent := hearing.sent
    rw [List.eq_nil_of_length_eq_zero idle, List.append_nil] at sent
    have all : throughEnd (sentReports since) = delivered := by
      rw [sent, throughEnd_of_going hearing.going]
    exact ⟨delivered, all ▸ List.prefix_rfl, hearing.told, .inl all.symm, fun k stops =>
      Nat.le_add_right_of_le (ongoing.limited k stops)⟩
  | ending hearing ending =>
    -- a handler that ended the run would be waited for by another report
    rw [queued, hearing.delivery] at idle
    exact absurd idle ending.waits
  | @heard delivered heard =>
    exact ⟨delivered, heard.within, heard.told, heard.complete.imp_left And.left, heard.limited⟩

/-- **What a handler hears of an orderly run.** Let a device accept a start and keep order until the end of
the run, without hanging up. The handler is shown the data of the reports that the device sent, in their
order and once each, up to its first terminal report, unless the handler itself ends the run: then it is
shown one more report behind the notice at which it did so, and never a later one.

A request of the owner is answered when its reports are delivered, so a stop of the owner finds nothing that
waits. To keep order also means not to answer a question for the phase with the end of the run before that end
was reported. -/
theorem data_of_run (handle : Handle) (options : Options) (device : σ) (before after : List (Step σ))
    (reactions : List Reaction) (tag : Int) {st₀ st₁ st₂ : Station (Journal σ)}
    (prelude : st₀ = Station.run dev before ⟨.bind handle options, ⟨device, []⟩⟩)
    (live : st₀.session.live = true) (ok : (st₀.start dev.journaled (some reactions) tag none).1 = .ok ())
    (start : st₁ = step dev (.perform (.startNotified reactions tag)) st₀)
    (course : st₂ = Station.run dev after st₁)
    (only : startsIn st₂.device.entries = startsIn st₁.device.entries)
    (listening : ∀ step ∈ after, step.hangsUp = false)
    (orderly : Orderly st₀.session.tracked (latestRun st₂.device.entries)) :
    ∃ delivered, delivered <+: throughEnd (sentReports (latestRun st₂.device.entries)) ∧
      (st₂.noticesFrom st₀.session.notes.length).map Notice.data = delivered.map Report.data ∧
      (delivered = throughEnd (sentReports (latestRun st₂.device.entries)) ∨
        ∃ k, delivered.length = k + 2 ∧ EndsRun reactions k) ∧
      ∀ k, reactions[k]? = some .stop → delivered.length ≤ k + 2 := by
  have bound : Settled none (false || before.any Step.hangsUp) st₀ := by
    rw [prelude]
    exact (settled_bind handle options _).run dev before
  obtain ⟨prior, ready, begun, starts⟩ := attends_step dev bound live reactions tag ok
  rw [← start] at ready begun starts
  obtain ⟨resting, since, journal, hears⟩ := attends_run dev ready begun listening
  rw [← course] at resting journal hears
  -- no start is asked for behind that of the run
  have quiet : startsIn since = 0 := by
    have counted := only.trans starts
    rw [journal, startsIn_append, startsIn_runBegun] at counted
    omega
  rw [latestRun_runBegun journal quiet] at orderly ⊢
  exact (hears quiet orderly).shown resting.idle

/-- A handler stops the run at its first notice, and the device reports twice before it answers: the data of
the last report is lost. -/
theorem data_of_stoppedRun :
    let first : Report := ⟨.running, none, [⟨0, [⟨7, 0⟩]⟩], 5⟩
    let second : Report := ⟨.running, none, [⟨0, [⟨8, 10⟩]⟩], 5⟩
    let third : Report := ⟨.cancelled, none, [⟨0, [⟨9, 20⟩]⟩], 5⟩
    let prepared : Playback := { Playback.blank with onStop := [second, third] }
    let st₀ := Station.run Playback.device [.perform (.configure oneAddress)]
      ⟨.bind ⟨0⟩ .standard, ⟨prepared, []⟩⟩
    let st₁ := step Playback.device (.perform (.startNotified [.stop] 5)) st₀
    let st₂ := Station.run Playback.device [.receive first] st₁
    st₀.session.live = true ∧ (st₀.start Playback.device.journaled (some [.stop]) 5 none).1 = .ok () ∧
      startsIn st₂.device.entries = startsIn st₁.device.entries ∧
      Orderly st₀.session.tracked (latestRun st₂.device.entries) ∧
      throughEnd (sentReports (latestRun st₂.device.entries)) = [first, second, third] ∧
      (st₂.noticesFrom 0).map Notice.data = [first.data, second.data] := by
  intro first second third prepared st₀ st₁ st₂
  have live : st₀.session.live = true := by decide +kernel
  have ok : (st₀.start Playback.device.journaled (some [.stop]) 5 none).1 = .ok () := by decide +kernel
  have only : startsIn st₂.device.entries = startsIn st₁.device.entries := by decide +kernel
  have orderly : Orderly st₀.session.tracked (latestRun st₂.device.entries) := by decide +kernel
  have sent : throughEnd (sentReports (latestRun st₂.device.entries)) = [first, second, third] := by
    decide +kernel
  refine ⟨live, ok, only, orderly, sent, ?_⟩
  have prelude : st₀ = Station.run Playback.device [.perform (.configure oneAddress)]
      ⟨.bind ⟨0⟩ .standard, ⟨prepared, []⟩⟩ := rfl
  have start : st₁ = step Playback.device (.perform (.startNotified [.stop] 5)) st₀ := rfl
  have course : st₂ = Station.run Playback.device [.receive first] st₁ := rfl
  obtain ⟨delivered, within, told, complete, limited⟩ := data_of_run Playback.device ⟨0⟩ .standard
    prepared [.perform (.configure oneAddress)] [.receive first] [.stop] 5 prelude live ok start course
    only (by simp [Step.hangsUp]) orderly
  have noted : st₀.session.notes.length = 0 := by decide +kernel
  rw [noted] at told
  rw [told]
  have length : delivered.length = 2 := by
    rw [sent] at complete
    rcases complete with rfl | ⟨k, length, ends⟩
    · exact absurd (limited 0 rfl) (by decide)
    · rcases k with _ | k
      · exact length
      · simp [EndsRun] at ends
  rw [sent] at within
  rw [List.prefix_iff_eq_take.1 within, length]
  rfl

end TriggeredSampler.Station
