import TriggeredSampler.Proofs.Session.Acts
import TriggeredSampler.Proofs.Session.Polling

/-! # A poll that reports the end returned everything

A run is polled, while ticks, stops and incidents happen at any time. A poll first asks for the phase and
then for the data, so once a poll has left the session over, all that the device sampled was handed out, and
nothing more will be sampled.

* `Station.Replies` — what an act does to a session that is polled, and what its reply hands out.
* `Station.Polled.occur`, `Station.Polled.occurAll` — one act, and several.
* `Station.Polled.occurAll_of_over` — the acts behind the end.
* `Station.polls_return_samples` — a poll that reports the end returned everything.
-/

namespace TriggeredSampler

open Engine (rowIn)

/-! ## What the acts hand out -/

namespace Station

variable {c : Configuration} {h : Handle} {past : List (Nat × List Reading)} {st st' : Station Observed}
  {data : List Batch} {act : Act} {reply : Option Reply} {L : Line Observed}

/-- What becomes of a session that is polled, by an act with its reply: a poll hands out all the rows that
were sampled by then. -/
structure Replies (c : Configuration) (h : Handle) (past : List (Nat × List Reading)) (act : Act)
    (st : Station Observed) (reply : Option Reply) (st' : Station Observed) : Prop where
  carriesOn : st.CarriesOn c h (past ++ (reply.bind (Reply.handed? c.tracked.length)).getD []) st'
  polls : act.isPoll = true → ∀ r ∈ reply, ∃ rows, r.handed? c.tracked.length = some rows
  all : ∀ rows, reply.bind (Reply.handed? c.tracked.length) = some rows →
    past ++ rows = st'.device.sampled.map rowIn
  filled : reply.bind (Reply.handed? c.tracked.length) = some [] →
    reply = some (.batches (.ok [])) ∨ reply = some (.rows (.ok []))

/-- A start with a handler, who is told from then on. -/
structure Enlists (st : Station Observed) (reply : Option Reply) (st' : Station Observed) : Prop where
  configured : st.session.phase = .configured
  engaged : st'.session.Engaged
  silent : ∀ width, reply.bind (Reply.handed? width) = none

/-- An act that is no poll, or that a dropped session does not reply to. -/
theorem CarriesOn.replies (carriesOn : st.CarriesOn c h past st') (other : act.isPoll = false ∨ reply = none)
    (silent : reply.bind (Reply.handed? c.tracked.length) = none) : Replies c h past act st reply st' := by
  refine ⟨?_, ?_, by simp [silent], by simp [silent]⟩
  · rw [silent, Option.getD_none, List.append_nil]
    exact carriesOn
  · obtain calls | rfl := other
    · simp [calls]
    · simp

namespace HandsOut

theorem width (hands : HandsOut c h past st data st') : 0 < c.tracked.length := by
  obtain ⟨n, _, accounted, _⟩ := hands.carriesOn.polled.node
  exact (Configuration.validate_eq_ok_iff.1 accounted.valid).2.1

theorem batches (hands : HandsOut c h past st data st') :
    Replies c h past act st (some (.batches (.ok data))) st' := by
  refine ⟨hands.carriesOn, by simp [Reply.handed?], ?_, ?_⟩
  · rintro rows ⟨⟩
    exact hands.all
  · intro none
    rw [Batch.eq_nil_of_rows hands.width hands.whole hands.filled (Option.some.inj none)]
    exact .inl rfl

/-- The data is numbered before it is handed out. -/
theorem rows (hands : HandsOut c h past st data st') (polled : st.poll L = (.ok data, st')) :
    ∃ rows st'', st.pollRowsAt L = (.ok rows, st'') ∧
      Replies c h past act st (some (.rows (.ok rows))) st'' := by
  have now := hands.carriesOn.polled
  obtain ⟨rows, numbered⟩ : ∃ rows, (st'.session.numbering.number data).1 = .ok rows :=
    Numbering.number_of_whole _ (by rw [now.numbering]; exact hands.whole)
  have kept := st'.session.numbering.tracked_number data
  generalize outcome : st'.session.numbering.number data = numbering at numbered kept
  obtain ⟨result, n⟩ := numbering
  obtain rfl : result = .ok rows := numbered
  have same := Numbering.map_unnumbered_number outcome
  rw [now.numbering] at same
  refine ⟨rows, ⟨{ st'.session with numbering := n }, st'.device⟩, ?_, ?_, by simp [Reply.handed?], ?_, ?_⟩
  · simp only [pollRowsAt, polled, Session.number, outcome]
    rfl
  · obtain ⟨node, found, accounted, abreast⟩ := now.node
    simp only [Option.bind_some, Reply.handed?, Option.getD_some, same]
    exact ⟨⟨now.handle, now.unnotified, now.closed, now.tracked, kept.trans now.numbering, now.stalled, node,
      found, accounted, abreast.congr rfl⟩, hands.carriesOn.stays⟩
  · rintro _ ⟨⟩
    rw [same]
    exact hands.all
  · intro none
    rw [List.map_eq_nil_iff.1 (Option.some.inj none)]
    exact .inr rfl

end HandsOut

namespace Polled

/-- A stop in the middle of a poll does not keep it from handing out all that waits. -/
theorem poll_lineHalting (polled : st.Polled c h past) :
    ∃ data st', st.poll (lineHalting (Observed.device h)) = (.ok data, st') ∧
      st.HandsOut c h past data st' := by
  obtain ⟨n, _, _, abreast⟩ := polled.node
  obtain ⟨phase, st₁, refreshed, carriesOn₁⟩ := polled.refresh
  obtain ⟨st₂, stopped, carriesOn₂⟩ := carriesOn₁.polled.stop
  obtain ⟨data, st₃, fetched, hands⟩ := carriesOn₂.polled.fetch
  have carriesOn := (carriesOn₁.trans carriesOn₂).trans hands.carriesOn
  refine ⟨data, st₃, ?_, ⟨carriesOn, hands.whole, hands.filled, hands.all⟩⟩
  rw [Station.poll_lineHalting, if_neg (by simp [polled.unnotified]), if_neg abreast.ne_unconfigured,
    refreshed]
  simp only [halt, stopped, fetched]

theorem perform (polled : st.Polled c h past) (live : st.session.live = true) (command : Command)
    (kept : (Act.turn (.perform command)).renews (st.perform (Observed.device h) command).1 = false) :
    Replies c h past (.turn (.perform command)) st (some (st.perform (Observed.device h) command).1)
        (st.perform (Observed.device h) command).2 ∨
      Enlists st (some (st.perform (Observed.device h) command).1)
        (st.perform (Observed.device h) command).2 := by
  cases command with
  | configure c' =>
    have same : st.CarriesOn c h past (st.configure (Observed.device h) c').2 := by
      rw [polled.configure_of_refused]
      · exact polled.refl
      intro accepted
      simp [Station.perform, accepted, Act.renews] at kept
    exact .inl (same.replies (.inl rfl) rfl)
  | start tag => exact .inl ((polled.start tag).replies (.inl rfl) rfl)
  | startNotified reactions tag refusal =>
    obtain carriesOn | ⟨configured, engaged⟩ := polled.startNotified live reactions tag refusal
    · exact .inl (carriesOn.replies (.inl rfl) rfl)
    · exact .inr ⟨configured, engaged, fun _ => rfl⟩
  | stop =>
    obtain ⟨st', stopped, carriesOn⟩ := polled.stop
    simp only [Station.perform, halt, stopped]
    exact .inl (carriesOn.replies (.inl rfl) rfl)
  | poll =>
    obtain ⟨data, st', polls, hands⟩ := polled.poll
    simp only [Station.perform, pollData, polls]
    exact .inl hands.batches
  | pollRows =>
    obtain ⟨data, st', polls, hands⟩ := polled.poll
    obtain ⟨rows, st'', numbers, replies⟩ := hands.rows polls
    rw [show st.perform (Observed.device h) .pollRows = (.rows (.ok rows), st'') from
      congrArg (Prod.map Reply.rows id) numbers]
    exact .inl replies
  | refresh =>
    obtain ⟨phase, st', refreshed, carriesOn⟩ := polled.refresh
    simp only [Station.perform, refreshPhase, refreshed]
    exact .inl (carriesOn.replies (.inl rfl) rfl)
  | waitRunning => exact .inl ((waits.waitUntil _ polled.refl _).holds.replies (.inl rfl) rfl)
  | waitFinished => exact .inl ((waits.waitUntil _ polled.refl _).holds.replies (.inl rfl) rfl)
  | deviceConfiguration => exact .inl (polled.deviceConfiguration.replies (.inl rfl) rfl)
  | drop => exact .inl (polled.drop.replies (.inl rfl) rfl)

theorem befall (polled : st.Polled c h past) (incidents : List Incident) :
    st.CarriesOn c h past ((Act.turn (.befall incidents)).occur (Observed.world h) st).2 := by
  obtain ⟨n, node, accounted, abreast⟩ := polled.node
  obtain ⟨silent, n', node', goes⟩ := Incident.occurAll_goes accounted node incidents
  simp only [Act.occur, Observed.world, Scene.world]
  rw [foldl_overhear_of_nil _ (by rw [polled.handle]; exact silent)]
  exact polled.withDevice abreast node' goes

/-- An act that does not bring another configuration. -/
theorem occur (polled : st.Polled c h past) (act : Act)
    (kept : ∀ r ∈ (act.occur (Observed.world h) st).1, act.renews r = false) :
    Replies c h past act st (act.occur (Observed.world h) st).1 (act.occur (Observed.world h) st).2 ∨
      Enlists st (act.occur (Observed.world h) st).1 (act.occur (Observed.world h) st).2 := by
  have dropped : act.isPoll = false ∨ (none : Option Reply) = none := .inr rfl
  cases act with
  | pollHalted numbered =>
    refine .inl ?_
    simp only [Act.occur]
    split
    next =>
      obtain ⟨data, st', polls, hands⟩ := polled.poll_lineHalting
      cases numbered with
      | false =>
        simp only [Observed.world, pollHalted, polls]
        exact hands.batches
      | true =>
        obtain ⟨rows, st'', numbers, replies⟩ := hands.rows polls
        simp only [Observed.world, pollHalted, numbers]
        exact replies
    next => exact polled.refl.replies dropped rfl
  | turn turn =>
    cases turn with
    | perform command =>
      simp only [Act.occur] at kept ⊢
      split
      next live =>
        rw [if_pos live] at kept
        exact polled.perform live command (kept _ rfl)
      next => exact .inl (polled.refl.replies dropped rfl)
    | halt =>
      obtain ⟨st', stopped, carriesOn⟩ := polled.stop
      simp only [Act.occur, Observed.world, halt, stopped]
      exact .inl (carriesOn.replies (.inl rfl) rfl)
    | pass milliseconds => exact .inl ((waits.elapse polled.refl milliseconds).replies (.inl rfl) rfl)
    | befall incidents => exact .inl ((polled.befall incidents).replies (.inl rfl) rfl)
    | close => exact .inl (polled.close.replies (.inl rfl) rfl)

/-- What some acts handed out, by their replies, unless a handler is told. -/
theorem occurAll (polled : st.Polled c h past) (acts : List Act)
    (kept : ∀ entry ∈ (Act.occurAll (Observed.world h) acts st).1, entry.1.renews entry.2 = false) :
    st.CarriesOn c h (past ++ Act.handed c.tracked.length (Act.occurAll (Observed.world h) acts st).1)
        (Act.occurAll (Observed.world h) acts st).2 ∨
      (Act.occurAll (Observed.world h) acts st).2.session.Engaged := by
  -- by induction on the acts
  induction acts generalizing past st with
  | nil =>
    simp only [Act.occurAll, Act.handed, List.flatMap_nil, List.append_nil]
    exact .inl polled.refl
  | cons act rest ih =>
    simp only [Act.occurAll, List.forall_mem_append, Act.forall_mem_reply, Act.handed_append] at kept ⊢
    obtain replies | enlists := polled.occur act kept.1
    · rw [Act.handed_reply, ← List.append_assoc]
      obtain later | engaged := ih replies.carriesOn.polled kept.2
      · exact .inl (replies.carriesOn.trans later)
      · exact .inr engaged
    · exact .inr (enlists.engaged.occurAll rest kept.2)

/-- Once a session is over and everything was handed out, no more is sampled, and the polls get nothing. -/
theorem occurAll_of_over (polled : st.Polled c h past) (all : past = st.device.sampled.map rowIn)
    (ended : st.session.phase.isTerminal = true) (acts : List Act)
    (kept : ∀ entry ∈ (Act.occurAll (Observed.world h) acts st).1, entry.1.renews entry.2 = false) :
    (Act.occurAll (Observed.world h) acts st).2.device.sampled = st.device.sampled ∧
      ∀ entry ∈ (Act.occurAll (Observed.world h) acts st).1, entry.1.isPoll = true →
        entry.2 = .batches (.ok []) ∨ entry.2 = .rows (.ok []) := by
  -- by induction on the acts
  induction acts generalizing st with
  | nil => exact ⟨rfl, by simp [Act.occurAll]⟩
  | cons act rest ih =>
    simp only [Act.occurAll, List.forall_mem_append, Act.forall_mem_reply] at kept ⊢
    have first : Replies c h past act st (act.occur (Observed.world h) st).1
        (act.occur (Observed.world h) st).2 := by
      obtain replies | enlists := polled.occur act kept.1
      · exact replies
      · rw [enlists.configured] at ended
        cases ended
    generalize act.occur (Observed.world h) st = outcome at first kept ⊢
    obtain ⟨reply, st'⟩ := outcome
    simp only at first kept ⊢
    obtain ⟨ended', same⟩ := first.carriesOn.stays ended
    -- with what was handed out before, a poll gets no more than what was sampled before
    have nothing : ∀ rows, reply.bind (Reply.handed? c.tracked.length) = some rows → rows = [] := by
      intro rows handed
      have more := first.all rows handed
      rw [same, ← all] at more
      exact List.append_right_eq_self.1 more
    have after : st'.Polled c h past := by
      have after := first.carriesOn.polled
      cases handed : reply.bind (Reply.handed? c.tracked.length) with
      | none => simpa [handed] using after
      | some rows => simpa [handed, nothing rows handed] using after
    obtain ⟨kept', later⟩ := ih after (by rw [same, all]) ended' kept.2
    refine ⟨kept'.trans same, ?_, later⟩
    intro r replied poll
    obtain ⟨rows, handed⟩ := first.polls poll r replied
    obtain rfl : reply = some r := replied
    rw [nothing rows handed] at handed
    simpa using first.filled handed

end Polled

/-! ## The beginning of a run -/

namespace Tied

variable {st : Station Scene}

theorem poll_lineHalting (tied : st.Tied h .resting []) :
    Yields (Tied h .resting []) (fun f => f.isBreach = false) (st.poll (lineHalting Scene.device)) := by
  rw [Station.poll_lineHalting]
  split
  next => exact .error tied rfl
  next =>
    split
    next => exact .error tied rfl
    next =>
      obtain ⟨phase, st₁, refreshed, tied₁⟩ := tied.refresh (faithful_line h) Bond.stable_resting
      obtain ⟨st₂, stopped, tied₂⟩ := tied₁.stop (faithful_line h) Bond.stable_resting
      obtain ⟨data, st₃, fetched, tied₃⟩ :=
        (tied₂.rebond And.left).fetch (faithful_line h) Bond.stable_resting
      simp only [refreshed, halt, stopped, fetched]
      exact .ok tied₃

theorem occur (tied : st.Tied h .resting []) (act : Act) :
    (act.occur Scene.world st).2.Tied h .resting [] := by
  cases act with
  | turn turn =>
    have same : ((Act.turn turn).occur Scene.world st).2 = (st.turn turn).2 := by
      cases turn with
      | perform command =>
        simp only [Act.occur, Station.turn]
        split <;> rfl
      | _ => rfl
    rw [same]
    exact (tied.turn turn).1
  | pollHalted numbered =>
    simp only [Act.occur]
    split
    next =>
      cases numbered with
      | false => exact tied.poll_lineHalting.holds
      | true => exact ((upholds_tied h).pollRowsAt tied.poll_lineHalting).holds
    next => exact tied

theorem occurAll (tied : st.Tied h .resting []) (acts : List Act) :
    (Act.occurAll Scene.world acts st).2.Tied h .resting [] := by
  induction acts generalizing st with
  | nil => exact tied
  | cons act rest ih => exact ih (tied.occur act)

/-- A session that has accepted a configuration is polled from then on. -/
theorem polled {configured : Station Scene} (tied : st.Tied h .resting [])
    (accepted : st.configure Scene.device c = (.ok (), configured)) :
    Polled c h [] ⟨configured.session, ⟨configured.device, []⟩⟩ := by
  cases valid : c.validate with
  | error defect =>
    rw [Station.configure, valid] at accepted
    cases accepted
  | ok _ =>
    by_cases active : st.session.phase.isActive = true
    · rw [Station.configure, valid] at accepted
      simp only [active, if_true] at accepted
      cases accepted
    · obtain ⟨s, scene, m, n, configures, handle, closed, tied, node, sound, status, stored⟩ :=
        tied.configure_of_idle valid (by simpa using active)
      rw [configures] at accepted
      obtain ⟨-, rfl⟩ := Prod.mk.inj accepted
      have phase : n.status.phase = .configured := by rw [status]
      have data : n.status.data = [] := by rw [status]
      refine ⟨handle, rfl, closed, rfl, rfl, tied.sound.stalled, n, node,
        ⟨valid, sound, stored, by simp [data], by simp [data], ?_⟩, .waits rfl phase data⟩
      -- a worker that is still there is that of an earlier run
      intro w worker going
      have ended := sound.isTerminal_engine (by rw [phase]; rfl) (e := w.engine)
        (by rw [Node.engine?, worker]; rfl)
      cases ended.symm.trans going

end Tied

/-! ## The whole run -/

/-- The rows that the device of a handle samples during some acts. -/
def sampledDuring (h : Handle) (acts : List Act) (st : Station Scene) : List Sampled :=
  (Act.occurAll (Observed.world h) acts ⟨st.session, ⟨st.device, []⟩⟩).2.device.sampled

/-- **A poll that reports the end returned everything.** Let a session be the first one at the handle of a
device that was just connected, and let it accept a configuration after whatever happened to it. From then on
let anything happen, short of another accepted configuration: polls, stops, also one in the middle of a poll,
starts, also ones that fail, passing time, and incidents at the devices before every request. If a poll then
succeeds and leaves the session over, the polls since the configuration have handed out exactly the rows that
the device sampled, each once and in order. That remains so whatever happens until another configuration is
accepted: no more is sampled, and every poll succeeds without data. -/
theorem polls_return_samples (s : Simulation) (ahead : List (List Incident)) (options : Options)
    (before : List Act) {configured : Station Scene}
    (accepted : (Act.occurAll Scene.world before
      ⟨.bind s.connect.1 options, ⟨s.connect.2, ahead⟩⟩).2.configure Scene.device c = (.ok (), configured))
    {during : List Act} {replies : List (Act × Reply)} {polling : Station Scene}
    (went : Act.occurAll Scene.world during configured = (replies, polling))
    (unrenewed : ∀ entry ∈ replies, entry.1.renews entry.2 = false)
    {last : Act} {reply : Reply} {ended : Station Scene}
    (polls : last.occur Scene.world polling = (some reply, ended)) {rows : List (Nat × List Reading)}
    (handed : reply.handed? c.tracked.length = some rows) (finished : ended.session.phase.isTerminal = true)
    {after : List Act} {later : List (Act × Reply)} {rest : Station Scene}
    (went' : Act.occurAll Scene.world after ended = (later, rest))
    (kept : ∀ entry ∈ later, entry.1.renews entry.2 = false) :
    Act.handed c.tracked.length replies ++ rows =
        (sampledDuring s.connect.1 (during ++ last :: after) configured).map rowIn ∧
      ∀ entry ∈ later, entry.1.isPoll = true → entry.2 = .batches (.ok []) ∨ entry.2 = .rows (.ok []) := by
  have bound : Tied s.connect.1 .resting [] ⟨.bind s.connect.1 options, ⟨s.connect.2, ahead⟩⟩ :=
    ⟨rfl, .fresh, s.node?_connect, Session.tied_bind _ _⟩
  have start := (bound.occurAll before).polled accepted
  generalize s.connect.1 = h at start ⊢
  -- the observed run goes the same way
  have alike₀ : Alike Observed.Sees configured ⟨configured.session, ⟨configured.device, []⟩⟩ :=
    ⟨.refl _, rfl⟩
  have first := Act.occurAll_observed (h := h) during alike₀
  rw [went] at first
  obtain ⟨st₁, run₁, alike₁⟩ := first.exists_eq
  have second := Act.occur_observed (h := h) alike₁ last
  rw [polls] at second
  obtain ⟨st₂, run₂, alike₂⟩ := second.exists_eq
  have third := Act.occurAll_observed (h := h) after alike₂
  rw [went'] at third
  obtain ⟨st₃, run₃, alike₃⟩ := third.exists_eq
  have sampled : sampledDuring h (during ++ last :: after) configured = st₃.device.sampled := by
    rw [sampledDuring, Act.occurAll_append, run₁]
    simp only [Act.occurAll, run₂, run₃]
  -- no handler is told when the last poll hands out its rows
  have hands : st₁.Polled c h (Act.handed c.tracked.length replies) := by
    have outcome := start.occurAll during (by rw [run₁]; exact unrenewed)
    rw [run₁, List.nil_append] at outcome
    obtain carriesOn | engaged := outcome
    · exact carriesOn.polled
    · have silent := Act.handed_of_notified (w := Observed.world h) last engaged.told.notified
        c.tracked.length
      rw [run₂] at silent
      cases silent.symm.trans handed
  have returns : Replies c h (Act.handed c.tracked.length replies) last st₁ (some reply) st₂ := by
    have outcome := hands.occur last (by rw [run₂]; simpa using Act.renews_of_handed last handed)
    rw [run₂] at outcome
    obtain returns | enlists := outcome
    · exact returns
    · cases (enlists.silent c.tracked.length).symm.trans handed
  have all := returns.all rows handed
  obtain ⟨same, empty⟩ := returns.carriesOn.polled.occurAll_of_over (by simpa [handed] using all)
    (by rw [alike₂.session.phase]; exact finished) after (by rw [run₃]; exact kept)
  rw [run₃] at same empty
  exact ⟨by rw [sampled, same, all], empty⟩

/-- A run that is stopped in the middle of its second poll, which gets the second of two rows. -/
theorem polls_return_samples_halted :
    let bound : Station Scene := ⟨.bind ⟨0⟩ .standard, ⟨Simulation.empty.connect.2, []⟩⟩
    let declares : List Act := [.turn (.befall [.declare ⟨0⟩ ⟨0x2000, 0⟩ 16 7])]
    let configured :=
      ((Act.occurAll Scene.world declares bound).2.configure Scene.device Engine.threeSamples).2
    let during : List Act := [.turn (.perform (.start 1)), .turn (.pass 5), .turn (.perform .pollRows),
      .turn (.pass 10)]
    let after : List Act := [.turn (.pass 20), .turn (.perform .poll), .turn (.perform (.startNotified [] 2)),
      .turn (.perform .pollRows)]
    let went := Act.occurAll Scene.world during configured
    let ended := (Act.occur Scene.world (.pollHalted false) went.2).2
    ended.session.phase = .cancelled ∧
      (sampledDuring ⟨0⟩ (during ++ .pollHalted false :: after) configured).map rowIn =
        [(0, [⟨7, 0⟩]), (0, [⟨7, 10⟩])] ∧
      ∀ entry ∈ (Act.occurAll Scene.world after ended).1, entry.1.isPoll = true →
        entry.2 = .batches (.ok []) ∨ entry.2 = .rows (.ok []) := by
  intro bound declares configured during after went ended
  have accepted : (Act.occurAll Scene.world declares bound).2.configure Scene.device Engine.threeSamples =
    (.ok (), configured) := Prod.ext (by decide +kernel) rfl
  have first : Act.handed 1 went.1 = [(0, [⟨7, 0⟩])] := by decide +kernel
  have second : (Act.occur Scene.world (.pollHalted false) went.2).1.bind (Reply.handed? 1) =
    some [(0, [⟨7, 10⟩])] := by decide +kernel
  obtain ⟨reply, replied, handed⟩ := Option.bind_eq_some_iff.1 second
  have polls : Act.occur Scene.world (.pollHalted false) went.2 = (some reply, ended) := by
    rw [← replied]
  have cancelled : ended.session.phase = .cancelled := by decide +kernel
  obtain ⟨all, empty⟩ := polls_return_samples Simulation.empty [] .standard declares accepted
    (Prod.eta went).symm (by decide +kernel) polls handed (by rw [cancelled]; rfl)
    (Prod.eta (Act.occurAll Scene.world after ended)).symm (by decide +kernel)
  rw [show Engine.threeSamples.tracked.length = 1 from rfl, first] at all
  exact ⟨cancelled, all.symm, empty⟩

end Station

end TriggeredSampler
