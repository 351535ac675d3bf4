import TriggeredSampler.Proofs.Session.Configuring

/-! # What a configuration sets up

An accepted configuration decides how many readings make a sample, and where the numbering of the samples
begins. Both stay in step with it until the next one is accepted, so whatever was found to hold whole samples
can be numbered.

* `Session.Equipped` — the configuration, the number of readings in a sample, and the numbering agree.
* `Session.Numbers` — the rows of some notices are the samples of their data, numbered in order.
* `Session.LastShown`, `Station.join_lastShown` — the end of a delivery that a configuration waits for.
* `Station.equipment_of_course` — what holds of every session, and what polls and configurations change.
-/

namespace TriggeredSampler

variable {σ : Type}

namespace Session

/-- The session works with the configuration `c`, or has none yet. -/
structure Equipped (c : Option Configuration) (s : Session) : Prop where
  configuration : s.configuration = c
  tracked : s.tracked = (c.map fun c => c.tracked.length).getD 0
  numbering : s.numbering.tracked = s.tracked
  valid : s.phase.isPrepared = true → ∃ accepted, c = some accepted ∧ accepted.validate = .ok ()

theorem steady_equipped (c : Option Configuration) : Steady (Equipped c) where
  turn equipped turn := ⟨equipped.configuration, equipped.tracked, equipped.numbering,
    fun prepared => equipped.valid (turn.isPrepared_of prepared)⟩
  leave equipped := ⟨equipped.configuration, equipped.tracked, equipped.numbering, equipped.valid⟩
  queue _ equipped _ := ⟨equipped.configuration, equipped.tracked, equipped.numbering, equipped.valid⟩

theorem lasting_equipped (c : Option Configuration) : Lasting (Equipped c) fun _ _ => Equipped c where
  toSteady := steady_equipped c
  reacting _ _ := steady_equipped c
  shown {s s' d notice} _ _ gives equipped := by
    have followed := (steady_equipped c).turn equipped gives.turn
    have kept : s'.numbering.tracked = s.tracked := by
      have numbers := s.numbering.tracked_number notice.data
      rw [gives.numbers] at numbers
      exact numbers.trans equipped.numbering
    rw [gives.frame]
    exact ⟨followed.configuration, followed.tracked, kept, followed.valid⟩
  noted equipped _ := ⟨equipped.configuration, equipped.tracked, equipped.numbering, equipped.valid⟩
  hush equipped := ⟨equipped.configuration, equipped.tracked, equipped.numbering, equipped.valid⟩

/-! ## Numbered notices -/

/-- The numbering gets from `n` to `n'` by the data of some notices, whose rows are the numbered samples. -/
inductive Numbers (n : Numbering) : List Notice → Numbering → Prop where
  | nil : Numbers n [] n
  | concat {notices : List Notice} {notice : Notice} {n' n'' : Numbering} (before : Numbers n notices n')
      (rows : n'.number notice.data = (.ok notice.rows, n'')) : Numbers n (notices ++ [notice]) n''

/-- What the notices from number `base` on show was numbered, and nothing else. -/
structure Numbered (n : Numbering) (base : Nat) (notes : List Note) (n' : Numbering) : Prop where
  counted : base ≤ notes.length
  numbers : Numbers n ((notes.drop base).map Note.notice) n'

theorem Numbered.concat {n n' n'' : Numbering} {base : Nat} {notes : List Note} {notice : Notice}
    (numbered : Numbered n base notes n') (rows : n'.number notice.data = (.ok notice.rows, n''))
    (outcome : Outcome) : Numbered n base (notes ++ [⟨notice, outcome⟩]) n'' := by
  constructor
  · rw [List.length_append]
    exact Nat.le_add_right_of_le numbered.counted
  · rw [List.drop_append_of_le_length numbered.counted, List.map_append]
    exact numbered.numbers.concat rows

/-- Nobody is shown anything, so nothing is numbered. -/
theorem lasting_quiet (n : Numbering) :
    Lasting (fun s => s.delivery = none ∧ s.numbering = n) fun _ _ _ => False where
  turn quiet _ := quiet
  leave quiet := quiet
  queue _ quiet delivery := by cases quiet.1.symm.trans delivery
  reacting _ _ := ⟨fun absurd _ => absurd, id, fun _ absurd _ => absurd⟩
  shown _ delivery _ quiet := by cases quiet.1.symm.trans delivery
  noted absurd _ := absurd.elim
  hush quiet := ⟨rfl, quiet.2⟩

/-! ## The last notice of a run -/

/-- The delivery of a run that is over ends with one notice more: its data is numbered, and the handler may
panic. -/
structure LastShown (s : Session) (d : Delivery) (s' : Session) : Prop where
  notice : ∃ notice outcome, s'.notes = s.notes ++ [⟨notice, outcome⟩] ∧
    s.numbering.number notice.data = (.ok notice.rows, s'.numbering)
  /-- A closing notice has no data. -/
  closing : d.queue = [] → s'.numbering = s.numbering
  panic : s'.panic = (Station.panicOf (d.reactions.headD .nothing) <|> s.panic)
  frame : s' = { s with
    numbering := s'.numbering, panic := s'.panic, notes := s'.notes, live := s'.live, delivery := none }

theorem Sound.arrive {s : Session} (sound : s.Sound) (reports : List Report) : (s.arrive reports).Sound :=
  ⟨sound.numbering, fun delivering => sound.delivering (by rwa [← isSome_arrive]), sound.stalled⟩

end Session

namespace Station

variable (dev : Device σ) {st : Station (Journal σ)} {gone : Bool}

/-- The last notice is shown. -/
theorem session_present {d : Delivery} (delivery : st.session.delivery = some d)
    (notified : st.session.notified = true) (ended : st.session.phase.isTerminal = true) {notice : Notice}
    (last : notice.phase.isTerminal = true) :
    ∃ outcome live, (st.present dev.journaled notice).session = { st.session with
      notes := st.session.notes ++ [⟨notice, outcome⟩]
      panic := panicOf (d.reactions.headD .nothing) <|> st.session.panic
      live := live, delivery := none } := by
  obtain ⟨outcome, reacted, reaction⟩ : ∃ outcome reacted,
      (st.awaiting { d with reactions := d.reactions.tail }).react dev.journaled
        (d.reactions.headD .nothing) = (outcome, reacted) := ⟨_, _, rfl⟩
  obtain ⟨arrived, inside, _⟩ := react_inside dev (st.awaiting { d with reactions := d.reactions.tail })
    notified (d.reactions.headD .nothing)
  rw [reaction] at inside
  have frame := inside.frame
  rw [inside.onward.ended ended] at frame
  refine ⟨outcome, reacted.session.live, ?_⟩
  simp only [present, notify_eq_noting dev.journaled delivery notice reaction, if_pos last, endDelivery, noting]
  rw [frame]
  rfl

theorem deliver_lastShown {d : Delivery} (sound : st.session.Sound) (delivery : st.session.delivery = some d)
    (ended : st.session.phase.isTerminal = true) (report : Report) :
    st.session.LastShown { d with queue := report :: d.queue } (st.deliver dev.journaled report).session := by
  have gives := Session.gives_accept sound.numbering report
  simp only [deliver]
  generalize st.session.accept report = result at gives ⊢
  obtain ⟨notice, malformed, session⟩ := result
  simp only at gives ⊢
  have frame := gives.frame
  rw [gives.turn.onward.ended ended] at frame
  have waiting : session.delivery = some d := by rw [frame]; exact delivery
  have notified : session.notified = true := by rw [frame]; exact sound.notified delivery
  have terminal : session.phase.isTerminal = true := by rw [frame]; exact ended
  have last : notice.phase.isTerminal = true := by rw [gives.phase, terminal]
  -- a stop because of malformed data at most adds to what waits
  obtain ⟨reports, device, eq⟩ : ∃ reports device,
      (if malformed then (lineInside dev.journaled .stop ⟨session, st.device⟩).2 else ⟨session, st.device⟩) =
        ⟨session.arrive reports, device⟩ := by
    cases malformed with
    | false => exact ⟨[], st.device, by simp⟩
    | true =>
      obtain ⟨a, reports, device, eq⟩ := lineInside_eq dev .stop ⟨session, st.device⟩
      exact ⟨reports, _, congrArg Prod.snd eq⟩
  have waiting' : (session.arrive reports).delivery = some (d.arrive reports) := by
    simp [Session.arrive, waiting]
  obtain ⟨outcome, live, shown⟩ := @session_present _ dev ⟨session.arrive reports, device⟩ _ waiting' notified
    terminal notice last
  rw [eq, shown]
  refine ⟨⟨notice, outcome, ?_, gives.numbers⟩, fun none => absurd none (List.cons_ne_nil _ _), ?_, ?_⟩
  all_goals
    rw [frame]
    rfl

theorem join_lastShown {d : Delivery} (sound : st.session.Sound) (delivery : st.session.delivery = some d)
    (idle : st.session.phase.isActive = false) :
    st.session.LastShown d (st.join dev.journaled).session := by
  have ended := sound.ended delivery idle
  cases waits : d.queue with
  | nil =>
    have empty : st.queued = 0 := by simp only [queued, delivery, waits, List.length_nil]
    have last : (st.session.closing d).phase.isTerminal = true := ended
    obtain ⟨outcome, live, shown⟩ := session_present dev delivery (sound.notified delivery) ended last
    rw [join_eq_close dev.journaled sound empty idle, close, delivery]
    simp only [if_pos ended, shown]
    exact ⟨⟨_, _, rfl, rfl⟩, fun _ => rfl, rfl, rfl⟩
  | cons report rest =>
    have taken : st.dequeue = some (report, st.awaiting { d with queue := rest }) := by
      simp only [dequeue, delivery, waits, awaiting]
    have sound' : (st.awaiting { d with queue := rest }).session.Sound :=
      ⟨sound.numbering, fun _ => ⟨sound.notified delivery, sound.begun delivery⟩, sound.stalled⟩
    have shown := deliver_lastShown dev sound' rfl ended report
    have closed : ((st.awaiting { d with queue := rest }).deliver dev.journaled report).session.delivery =
        none := by rw [shown.frame]
    have first : st.drainAll dev.journaled =
        (st.awaiting { d with queue := rest }).deliver dev.journaled report := by
      simp only [drainAll, drain, taken]
      exact drain_of_closed dev.journaled closed _
    rw [join_eq dev.journaled sound idle, first, close, closed]
    rw [show d = { d with queue := report :: rest } by rw [← waits]]
    exact ⟨shown.notice, shown.closing, shown.panic, shown.frame⟩

/-! ## Configurations -/

theorem equipped_act (settled : Settled none gone st) {c : Option Configuration}
    (equipped : st.session.Equipped c) (step : Step σ) :
    (st.act dev step).session.Equipped ((accepted? dev step st).or c) := by
  cases accepted : accepted? dev step st with
  | some c' =>
    obtain ⟨rfl, _⟩ := eq_of_accepted dev accepted
    obtain ⟨valid, _, eq⟩ := act_accepted dev settled.sound accepted
    rw [eq]
    exact ⟨rfl, rfl, rfl, fun _ => ⟨c', rfl, valid⟩⟩
  | none =>
    refine (Session.lasting_equipped c).act dev settled accepted ?_ ?_ equipped
    · intro _ _ _ _ configured
      -- a session that can be started has a valid configuration
      have valid := equipped.valid (by rw [configured]; rfl)
      exact ⟨equipped.configuration, equipped.tracked, equipped.numbering, fun _ => valid⟩
    · rintro - s data equipped
      exact ⟨equipped.configuration, equipped.tracked,
        (s.numbering.tracked_number data).trans equipped.numbering, equipped.valid⟩

theorem equipped_step (settled : Settled none gone st) {c : Option Configuration}
    (equipped : st.session.Equipped c) (step : Step σ) :
    (st.step dev step).session.Equipped ((accepted? dev step st).or c) :=
  (Session.lasting_equipped _).close dev (settled.act dev step).sound (equipped_act dev settled equipped step)

theorem equipped_move (settled : Settled none gone st) {c : Option Configuration}
    (equipped : st.session.Equipped c) (move : Move σ) :
    (st.move dev move).session.Equipped ((adopted? dev move st).or c) := by
  cases move with
  | act step => exact equipped_act dev settled equipped step
  | look => exact (Session.lasting_equipped c).close dev settled.sound equipped

theorem equipped_course (settled : Settled none gone st) {c : Option Configuration}
    (equipped : st.session.Equipped c) (moves : List (Move σ)) :
    (course dev moves st).session.Equipped ((adoptions dev moves st).getLast?.or c) := by
  -- by induction on the moves
  induction moves generalizing st gone c with
  | nil => exact equipped
  | cons move rest ih =>
    have after := ih (settled.move dev move) (equipped_move dev settled equipped move)
    rw [adoptions, List.getLast?_append, Option.or_assoc]
    rwa [show (adopted? dev move st).toList.getLast? = adopted? dev move st by
      cases adopted? dev move st <;> rfl]

theorem equipped_bound (handle : Handle) (options : Options) (device : σ) (moves : List (Move σ)) :
    (course dev moves ⟨.bind handle options, ⟨device, []⟩⟩).session.Equipped
      (adoptions dev moves ⟨.bind handle options, ⟨device, []⟩⟩).getLast? := by
  have equipped : (Session.bind handle options).Equipped none := ⟨rfl, rfl, rfl, by rintro ⟨⟩⟩
  have settled := @settled_bind _ false handle options (⟨device, []⟩ : Journal σ)
  have after := equipped_course dev settled equipped moves
  rwa [Option.or_none] at after

/-- What a configuration replaces: itself, the number of readings in a sample, the numbering, whether the
data goes to a handler, and the handler's last panic. -/
def equipment (s : Session) : Option Configuration × Nat × Numbering × Bool × Option String :=
  (s.configuration, s.tracked, s.numbering, s.notified, s.panic)

/-- A configuration replaces the whole equipment of the session, or nothing of it. Before the device is asked
for it the delivery of the last run ends, if it is still open: what the last notice did to the numbering, and
a panic of its handler, stays if the device rejects the configuration. -/
structure Adopts (c : Configuration) (st : Station (Journal σ)) : Prop where
  accepted : (st.configure dev.journaled c).1 = .ok () →
    equipment (st.configure dev.journaled c).2.session =
      (some c, c.tracked.length, ⟨c.tracked.length, 0, 0⟩, false, none)
  refused : ∀ f, (st.configure dev.journaled c).1 = .error f → (∀ fault, f ≠ .device fault) →
    (st.configure dev.journaled c).2.session = st.session
  rejected : ∀ fault, (st.configure dev.journaled c).1 = .error (.device fault) →
    st.session.phase.isActive = false ∧
      equipment (st.configure dev.journaled c).2.session = equipment (st.join dev.journaled).session
  closed : st.session.delivery = none → st.join dev.journaled = st
  ending : st.session.phase.isActive = false → ∀ d, st.session.delivery = some d →
    st.session.LastShown d (st.join dev.journaled).session
  /-- A handler cannot configure. -/
  inside : (st.react dev.journaled (.configure c)).2 = st

theorem adopts (sound : st.session.Sound) (c : Configuration) : Adopts dev c st := by
  have configures := configure_configures dev sound c
  constructor
  case inside => rfl
  case closed => exact join_of_closed dev.journaled
  case ending => exact fun idle d delivery => join_lastShown dev sound delivery idle
  all_goals
    generalize st.configure dev.journaled c = outcome at configures ⊢
    obtain ⟨result, after⟩ := outcome
    simp only at configures ⊢
    generalize after.session = s at configures ⊢
  case accepted =>
    rintro rfl
    cases configures with
    | accepted valid idle => rfl
  case refused =>
    rintro f rfl other
    cases configures with
    | invalid | active => rfl
    | rejected idle reason => exact absurd rfl (other reason)
  case rejected =>
    rintro fault rfl
    cases configures with
    | rejected idle => exact ⟨idle, rfl⟩

/-! ## Polls -/

/-- What a poll hands out can be numbered; numbering it is all that a poll for rows does besides. -/
structure PollsRows (st : Station (Journal σ)) : Prop where
  unnumbered : (st.pollData dev.journaled).2.session.numbering = st.session.numbering
  rows : ∀ data, (st.pollData dev.journaled).1 = .ok data →
    wholeSamples st.session.tracked data = true ∧
      ∃ rows, (st.pollRows dev.journaled).1 = .ok rows ∧ st.session.numbering.number data =
        (.ok rows, (st.pollRows dev.journaled).2.session.numbering)
  failed : ∀ f, (st.pollData dev.journaled).1 = .error f →
    (st.pollRows dev.journaled).1 = .error f ∧
      (st.pollRows dev.journaled).2.session.numbering = st.session.numbering

theorem numbering_poll (calm : Calm none gone st) :
    (st.pollData dev.journaled).2.session.numbering = st.session.numbering := by
  cases notified : st.session.notified with
  | true => rw [pollData, poll, if_pos notified]
  | false =>
    have closed := calm.sound.delivery_of_unnotified notified
    exact ((Session.lasting_quiet _).poll dev calm ⟨closed, rfl⟩).2

theorem pollsRows (calm : Calm none gone st) : PollsRows dev st := by
  have unnumbered := numbering_poll dev calm
  have sound := (calm.poll dev).1.sound
  have tracked := (calm.poll dev).2.tracked
  have whole : ∀ data, (st.pollData dev.journaled).1 = .ok data →
      (st.pollData dev.journaled).2.session.checkData data = .ok () :=
    fun _ => Upholds.checkData_of_poll
  simp only [pollData] at unnumbered whole
  refine ⟨unnumbered, ?_, ?_⟩
  all_goals
    simp only [pollData, pollRows]
    generalize st.poll (line dev.journaled) = outcome at unnumbered sound tracked whole ⊢
    obtain ⟨result, after⟩ := outcome
    simp only at unnumbered sound tracked whole ⊢
  · rintro data rfl
    have whole := Session.checkData_eq_ok_iff.1 (whole data rfl)
    obtain ⟨rows, numbers⟩ := after.session.numbering.number_of_whole (by rw [sound.numbering]; exact whole)
    rw [tracked] at whole
    refine ⟨whole, rows, ?_, ?_⟩
    · simp only [Session.number, numbers]
      rfl
    · rw [← unnumbered, ← numbers]
      rfl
  · rintro f rfl
    exact ⟨rfl, unnumbered⟩

/-! ## Notices -/

/-- The device rejects a configuration, which had to wait for a handler that panicked at its last notice. -/
example :
    let fault : DeviceFault := ⟨.timeout, 0, "no answer"⟩
    let prepared : Playback := { Playback.blank with stores := [none, some fault] }
    let st := course Playback.device [.act (.perform (.configure oneAddress)),
      .act (.perform (.startNotified [.panic "lost"] 5)), .act (.perform .stop)]
      ⟨.bind ⟨0⟩ .standard, ⟨prepared, []⟩⟩
    let rejected := st.perform Playback.device.journaled (.configure oneAddress)
    st.session.panic = none ∧ rejected.1.failure? = some (.device fault) ∧
      rejected.2.session.panic = some "lost" ∧ (st.move Playback.device .look).session.panic = some "lost" := by
  decide +kernel

end Station

end TriggeredSampler
