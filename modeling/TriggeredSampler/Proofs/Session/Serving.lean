import TriggeredSampler.Proofs.Session.Operations
import TriggeredSampler.Proofs.Session.Tied

/-! # A session that asks its simulated device

Whatever a session does and however its requests reach the device, the two stay tied. A line is
`Station.Faithful` if the device of the session answers on it; from that follows what the operations do
that a handler may use as well, then that the delivery of a report keeps everything tied, and so that the
line of the session's owner is faithful too.

* `Station.faithful_lineInside`, `Station.faithful_line` — the two lines.
* `Station.Tied.stop`, `Station.Tied.refresh`, `Station.Tied.poll` — the operations.
* `Station.Tied.deliver`, `Station.Tied.receive`, `Station.Tied.close` — the delivery of reports.
-/

namespace TriggeredSampler.Station

/-- The session is that of the handle, and tied to the device of the handle. -/
structure Tied (h : Handle) (bond : Bond) (pending : List Report) (st : Station Scene) : Prop where
  handle : st.session.handle = h
  device : ∃ n, st.device.node? h = some n ∧ st.session.Tied bond pending n

/-- The device answered a request, while everything stayed tied. Before the answer it was `n`; if the
sampler was not active when the request was made, it is still in the same phase. -/
structure Served (h : Handle) (bond : Bond) (pending : List Report) (r : Request) (st : Station Scene)
    (outcome : r.Answer × Station Scene) (n : Node) : Prop where
  answer : outcome.1 = (n.answer r).1
  handle : outcome.2.session.handle = h
  node : outcome.2.device.node? h = some (n.answer r).2
  sound : n.Sound outcome.2.session.tracked
  tied : outcome.2.session.Tied bond pending (n.answer r).2
  still : ∀ n₀, st.device.node? h = some n₀ → n₀.status.phase.isActive = false →
    n.status.phase = n₀.status.phase

/-- On the line the device of the handle answers. -/
structure Faithful (h : Handle) (line : Line Scene) : Prop where
  serves : ∀ {bond pending st r}, bond.Stable → Tied h bond pending st → r.steers = false →
    ∃ n, Served h bond pending r st (line r st) n
  stops : ∀ {bond pending st}, bond.Stable → Tied h bond pending st → st.session.phase.begun = true →
    ∃ st', line .stop st = (.ok (), st') ∧ Tied h bond.stopped pending st'
  /-- Nothing is raised by the stop of a sampler that is not active. -/
  ignores : ∀ {st n}, st.session.handle = h → st.device.node? h = some n → n.Sound st.session.tracked →
    n.status.phase.isActive = false →
    ∃ scene n', line .stop st = (.ok (), ⟨st.session, scene⟩) ∧ scene.node? h = some n' ∧
      n.Moves st.session.tracked n' [] ∧ n'.status.phase.isActive = false

/-! ## Reports of other handles -/

section

variable {σ : Type} (dev : Device σ) {st : Station σ} {raised : List (Handle × Report)}

theorem foldl_overhear_of_nil
    (silent : reportsOf st.session.handle raised = []) : raised.foldl (overhear dev) st = st := by
  -- by induction on the reports, of which none comes from the own handle
  induction raised with
  | nil => rfl
  | cons entry rest ih =>
    obtain ⟨own, report⟩ := entry
    by_cases same : own = st.session.handle
    · rw [same, reportsOf_cons_self] at silent
      cases silent
    · rw [reportsOf_cons_of_ne same] at silent
      rw [List.foldl_cons, overhear, if_neg same, ih silent]

theorem pass_of_silent
    (silent : reportsOf st.session.handle (dev.advance st.device).1 = []) :
    st.pass dev = { st with device := (dev.advance st.device).2 } :=
  @foldl_overhear_of_nil _ dev ⟨st.session, _⟩ _ silent

end

variable {h : Handle} {bond bond' : Bond} {pending reports : List Report} {report : Report}
  {st : Station Scene} {line : Line Scene}

/-! ## Ties -/

namespace Tied

theorem rebond (tied : st.Tied h bond pending) (bonds : ∀ {p q}, bond p q → bond' p q) :
    st.Tied h bond' pending := by
  obtain ⟨handle, n, node, tied⟩ := tied
  exact ⟨handle, n, node, tied.rebond (bonds tied.bonds)⟩

/-- The bond is tightened while the session is not active. -/
theorem ends (tied : st.Tied h bond pending) (idle : st.session.phase.isActive = false) :
    st.Tied h bond.ended pending := by
  obtain ⟨handle, n, node, tied⟩ := tied
  exact ⟨handle, n, node, tied.rebond ⟨tied.bonds, idle⟩⟩

theorem enqueue (tied : st.Tied h bond (report :: pending)) :
    (st.enqueue Scene.device report).Tied h bond pending ∧
      (st.enqueue Scene.device report).device = st.device := by
  obtain ⟨handle, n, node, tied⟩ := tied
  unfold Station.enqueue
  cases delivery : st.session.delivery with
  | none =>
    refine ⟨⟨handle, n, node, tied.reshape rfl rfl rfl rfl (fun delivers => ⟨delivers, rfl⟩) ?_
      fun _ member => .inl member⟩, rfl⟩
    exact fun _ member => List.mem_cons_of_mem _ member
  | some d =>
    refine ⟨⟨handle, n, node, tied.reshape rfl rfl rfl rfl (fun _ => ⟨by rw [delivery]; rfl, rfl⟩) ?_
      fun _ member => .inl member⟩, rfl⟩
    intro other member
    simp only [Session.waiting, delivery, Option.map_some, Option.getD_some, List.mem_append,
      List.mem_cons, List.not_mem_nil, or_false] at member ⊢
    tauto

theorem foldl_enqueue (tied : st.Tied h bond (reports ++ pending)) :
    (reports.foldl (Station.enqueue Scene.device) st).Tied h bond pending ∧
      (reports.foldl (Station.enqueue Scene.device) st).device = st.device := by
  -- by induction on the reports
  induction reports generalizing st with
  | nil => exact ⟨tied, rfl⟩
  | cons report rest ih =>
    obtain ⟨queued, same⟩ : (st.enqueue Scene.device report).Tied h bond (rest ++ pending) ∧
        (st.enqueue Scene.device report).device = st.device := enqueue tied
    obtain ⟨rested, kept⟩ := ih queued
    exact ⟨rested, kept.trans same⟩

theorem announce (stable : bond.Stable) (tied : st.Tied h bond pending) {r : Request}
    (other : r ≠ .stop) :
    ({ st with device := (st.device.announce h r).2 }).Tied h bond
      ((st.device.announce h r).1 ++ pending) := by
  obtain ⟨handle, n, node, tied⟩ := tied
  obtain ⟨n', node', drifts⟩ := Scene.announce_drifts tied.node node other
  exact ⟨handle, n', node', tied.drifts stable drifts⟩

theorem announce_stop (stable : bond.Stable) (tied : st.Tied h bond pending)
    (begun : st.session.phase.begun = true) :
    ({ st with device := (st.device.announce h .stop).2 }).Tied h bond.stopped
      ((st.device.announce h .stop).1 ++ pending) := by
  obtain ⟨handle, n, node, tied⟩ := tied
  obtain ⟨n', node', moves, idle⟩ := Scene.announce_stop tied.node node
  exact ⟨handle, n', node', tied.moves stable begun moves idle⟩

end Tied

/-! ## Lines -/

/-- A line on which `take` is what becomes of a report that a request raises. -/
def through (take : Station Scene → Report → Station Scene) : Line Scene := fun r st =>
  let (reports, raised) := Scene.device.announce st.session.handle r st.device
  let taken := reports.foldl take { st with device := raised }
  let (answer, device) := Scene.device.answer taken.session.handle r taken.device
  (answer, { taken with device := device })

/-- Taking reports keeps everything tied. -/
structure Takes (h : Handle) (take : Station Scene → Report → Station Scene) : Prop where
  foldl : ∀ {bond pending reports st}, bond.Stable → Tied h bond (reports ++ pending) st →
    Tied h bond pending (reports.foldl take st)

variable {take : Station Scene → Report → Station Scene}

theorem Tied.answer (stable : bond.Stable) (tied : st.Tied h bond pending) {r : Request}
    (other : r.steers = false) {n : Node} (node : st.device.node? h = some n) :
    (st.device.answer h r).1 = (n.answer r).1 ∧ n.Sound st.session.tracked ∧
      (st.device.answer h r).2.node? h = some (n.answer r).2 ∧
      st.session.Tied bond pending (n.answer r).2 := by
  obtain ⟨_, n', node', tied⟩ := tied
  obtain rfl := Option.some.inj (node.symm.trans node')
  obtain ⟨answer, after⟩ := Scene.answer_eq node r
  exact ⟨answer, tied.node, after, tied.drifts stable (Node.answer_drifts tied.node other)⟩

theorem serves_through (takes : Takes h take) (stable : bond.Stable) (tied : st.Tied h bond pending)
    {r : Request} (other : r.steers = false) :
    ∃ n, Served h bond pending r st (through take r st) n := by
  have quiet : r ≠ .stop := by
    rintro rfl
    cases other
  have taken := takes.foldl stable (tied.announce stable quiet)
  obtain ⟨rfl, n₀, node₀, tied⟩ := tied
  obtain ⟨n₁, node₁, drifts⟩ := Scene.announce_drifts tied.node node₀ quiet
  -- an inactive sampler raises nothing, so nothing is taken before it answers
  have unmoved : n₀.status.phase.isActive = false →
      ((st.device.announce st.session.handle r).1.foldl take
        { st with device := (st.device.announce st.session.handle r).2 }).device.node?
          st.session.handle = some n₁ := by
    intro idle
    rw [(drifts.idle idle).2]
    exact node₁
  unfold through
  simp only [Scene.device]
  generalize (st.device.announce st.session.handle r).1.foldl take
    { st with device := (st.device.announce st.session.handle r).2 } = after at taken unmoved ⊢
  obtain ⟨n, node, _⟩ := taken.device
  obtain ⟨answer, sound, node', tied'⟩ := taken.answer stable other node
  rw [taken.handle]
  refine ⟨n, answer, taken.handle, node', sound, tied', ?_⟩
  intro n₀' found idle
  obtain rfl := Option.some.inj (node₀.symm.trans found)
  obtain rfl := Option.some.inj ((unmoved idle).symm.trans node)
  exact drifts.still idle

theorem stops_through (takes : Takes h take) (stable : bond.Stable) (tied : st.Tied h bond pending)
    (begun : st.session.phase.begun = true) :
    ∃ st', through take .stop st = (.ok (), st') ∧ Tied h bond.stopped pending st' := by
  have taken := takes.foldl stable.stopped (tied.announce_stop stable begun)
  obtain ⟨rfl, _⟩ := tied
  unfold through
  simp only [Scene.device]
  generalize (st.device.announce st.session.handle .stop).1.foldl take
    { st with device := (st.device.announce st.session.handle .stop).2 } = after at taken ⊢
  obtain ⟨handle, n, node, tied⟩ := taken
  obtain ⟨answer, node'⟩ := Scene.answer_eq node .stop
  rw [handle]
  exact ⟨_, Prod.ext answer rfl, handle, n, node', tied⟩

theorem ignores_through {n : Node} (handle : st.session.handle = h) (node : st.device.node? h = some n)
    (sound : n.Sound st.session.tracked) (idle : n.status.phase.isActive = false) :
    ∃ scene n', through take .stop st = (.ok (), ⟨st.session, scene⟩) ∧ scene.node? h = some n' ∧
      n.Moves st.session.tracked n' [] ∧ n'.status.phase.isActive = false := by
  subst handle
  obtain ⟨n', node', moves, stopped⟩ := Scene.announce_stop sound node
  have nothing := (moves.idle idle).2
  rw [nothing] at moves
  obtain ⟨answer, after⟩ := Scene.answer_eq node' .stop
  refine ⟨_, n', ?_, after, moves, stopped⟩
  unfold through
  simp only [Scene.device, nothing, List.foldl_nil]
  exact Prod.ext answer rfl

theorem faithful_through (takes : Takes h take) : Faithful h (through take) :=
  ⟨fun stable tied other => serves_through takes stable tied other,
    fun stable tied begun => stops_through takes stable tied begun,
    fun handle node sound idle => ignores_through handle node sound idle⟩

theorem faithful_lineInside (h : Handle) : Faithful h (lineInside Scene.device) :=
  faithful_through ⟨fun _ tied => tied.foldl_enqueue.1⟩

/-! ## Operations that a handler may use -/

namespace Tied

theorem stop (faithful : Faithful h line) (stable : bond.Stable) (tied : st.Tied h bond pending) :
    ∃ st', st.stop line = (.ok (), st') ∧ st'.Tied h bond.ended pending := by
  unfold Station.stop
  split
  next ended => exact ⟨st, rfl, tied.ends (Phase.isActive_of_isTerminal ended)⟩
  next going =>
    by_cases begun : st.session.phase.begun = true
    · rw [if_neg (fun early => by rw [early] at begun; cases begun)]
      obtain ⟨st', answer, handle, n, node, tied⟩ := faithful.stops stable tied begun
      rw [answer]
      refine ⟨_, rfl, handle, n, node, (tied.cancel stable.stopped tied.bonds.2).rebond ?_⟩
      have bonds := (tied.cancel stable.stopped tied.bonds.2).bonds
      exact ⟨bonds.1.1, bonds.2⟩
    · -- the device of a session that was not started is not active, and ignores the stop
      have early : st.session.phase.begun = false := by simpa using begun
      obtain ⟨handle, n, node, tied⟩ := tied
      have idle := tied.idle_of_not_begun early
      have cancelled := tied.cancel stable idle
      split
      next => exact ⟨_, rfl, handle, n, node, cancelled⟩
      next =>
        obtain ⟨scene, n', answer, node', moves, stopped⟩ := faithful.ignores handle node tied.node idle
        rw [answer]
        have begun := Phase.begun_of_isTerminal (Lifecycle.isTerminal_cancel st.session.lifecycle)
        have after := cancelled.moves stable.ended begun moves stopped
        exact ⟨_, rfl, handle, n', node', after.rebond after.bonds.1⟩

theorem follow (stable : bond.Stable) (tied : st.Tied h bond pending) {n : Node}
    (node : st.device.node? h = some n) {fault : Option DeviceFault}
    (explained : n.status.phase = .failed → fault.isSome = true) :
    ({ st with session := st.session.follow n.status.phase fault }).Tied h bond pending := by
  obtain ⟨handle, n', node', tied⟩ := tied
  obtain rfl := Option.some.inj (node.symm.trans node')
  refine ⟨?_, n, node, tied.follow stable _ _ tied.agrees tied.begun explained
    Phase.isActive_of_isTerminal⟩
  rw [Session.follow_eq]
  exact handle

theorem refresh (faithful : Faithful h line) (stable : bond.Stable) (tied : st.Tied h bond pending) :
    ∃ phase st', st.refresh line = (.ok phase, st') ∧ st'.Tied h bond pending := by
  unfold Station.refresh
  obtain ⟨n, served⟩ := faithful.serves stable tied (r := .phase) rfl
  generalize line .phase st = outcome at served ⊢
  obtain ⟨answer, st₁⟩ := outcome
  obtain rfl : answer = .ok n.status.phase := served.answer
  have tied₁ : st₁.Tied h bond pending := ⟨served.handle, n, served.node, served.tied⟩
  simp only [faultBehind]
  by_cases failed : n.status.phase = .failed
  · rw [if_pos failed]
    obtain ⟨n', again⟩ := faithful.serves stable tied₁ (r := .fault) rfl
    -- between the two answers the sampler cannot leave its terminal phase
    have same : n'.status.phase = n.status.phase := again.still n served.node (by rw [failed]; rfl)
    generalize line .fault st₁ = outcome at again ⊢
    obtain ⟨fault, st₂⟩ := outcome
    obtain rfl : fault = n'.status.fault := again.answer
    have tied₂ : st₂.Tied h bond pending := ⟨again.handle, n', again.node, again.tied⟩
    rw [← same]
    exact ⟨_, _, rfl, tied₂.follow stable again.node again.sound.explained⟩
  · rw [if_neg failed]
    exact ⟨_, _, rfl, tied₁.follow stable served.node fun failed' => absurd failed' failed⟩

theorem fetch (faithful : Faithful h line) (stable : bond.Stable) (tied : st.Tied h bond pending) :
    ∃ data st', st.fetch line = (.ok data, st') ∧ st'.Tied h bond pending := by
  unfold Station.fetch
  obtain ⟨n, served⟩ := faithful.serves stable tied (r := .data) rfl
  generalize line .data st = outcome at served ⊢
  obtain ⟨answer, st'⟩ := outcome
  obtain rfl : answer = .ok n.status.data := served.answer
  simp only [Session.checkData_eq_ok_iff.2 served.sound.whole]
  exact ⟨_, _, rfl, served.handle, _, served.node, served.tied⟩

theorem poll (faithful : Faithful h line) (stable : bond.Stable) (tied : st.Tied h bond pending) :
    Yields (Tied h bond pending) (fun f => f.isBreach = false) (st.poll line) := by
  unfold Station.poll
  split
  next => exact .error tied rfl
  next =>
    split
    next => exact .error tied rfl
    next =>
      obtain ⟨phase, st', refreshed, tied'⟩ := tied.refresh faithful stable
      obtain ⟨data, st'', fetched, tied''⟩ := tied'.fetch faithful stable
      simp only [refreshed, fetched]
      exact .ok tied''

theorem release (faithful : Faithful h line) (stable : bond.Stable) (tied : st.Tied h bond pending) :
    (st.release line).Tied h bond.ended pending := by
  obtain ⟨handle, n, node, tied⟩ := tied
  have given : ({ st with session := { st.session with live := false } }).Tied h bond pending :=
    ⟨handle, n, node, tied.reshape rfl rfl rfl rfl (fun delivers => ⟨delivers, rfl⟩)
      (fun _ member => member) fun _ member => .inl member⟩
  unfold Station.release
  simp only
  split
  next =>
    obtain ⟨st', stopped, tied'⟩ := given.stop faithful stable
    rw [stopped]
    exact tied'
  next idle => exact given.ends (by simpa using idle)

/-! ## The delivery of a report -/

theorem react (stable : bond.Stable) (tied : st.Tied h bond pending) (reaction : Reaction) :
    (st.react Scene.device reaction).2.Tied h bond pending ∧
      ∀ f ∈ (st.react Scene.device reaction).1.failure?, f.isBreach = false := by
  have faithful := faithful_lineInside h
  cases reaction with
  | nothing => exact ⟨tied, by simp [Station.react, Outcome.failure?]⟩
  | panic message => exact ⟨tied, by simp [Station.react, Outcome.failure?]⟩
  | stop =>
    obtain ⟨st', stopped, tied'⟩ := tied.stop faithful stable
    simp only [Station.react, stopped]
    exact ⟨tied'.rebond And.left, by simp [Outcome.failure?]⟩
  | configure c =>
    refine ⟨tied, ?_⟩
    simp only [Station.react]
    split <;> simp [Outcome.failure?, Failure.isBreach]
  | start tag =>
    refine ⟨tied, ?_⟩
    simp only [Station.react]
    split <;> simp [Outcome.failure?, Failure.isBreach]
  | poll =>
    simp only [Station.react]
    split
    next =>
      have polled := tied.poll faithful stable
      refine ⟨polled.holds, ?_⟩
      intro f failed
      generalize st.poll (lineInside Scene.device) = outcome at polled failed
      obtain ⟨result, st'⟩ := outcome
      cases result with
      | error g =>
        obtain rfl : g = f := by simpa [Outcome.failure?] using failed
        exact polled.allowed g rfl
      | ok data => simp [Outcome.failure?] at failed
    next => exact ⟨tied, by simp [Outcome.failure?]⟩
  | drop =>
    simp only [Station.react]
    refine ⟨?_, by simp [Outcome.failure?]⟩
    split
    next => exact (tied.release faithful stable).rebond And.left
    next => exact tied

theorem notify (stable : bond.Stable) (tied : st.Tied h bond pending) {d : Delivery}
    (delivery : st.session.delivery = some d) {notice : Notice}
    (clean : ∀ f ∈ notice.failure, f.isBreach = false) :
    (st.notify Scene.device notice).Tied h bond pending := by
  obtain ⟨reacted, outcome, panic, reaction, eq⟩ := notify_react Scene.device delivery notice
  have taking : (st.awaiting { d with reactions := d.reactions.tail }).Tied h bond pending := by
    obtain ⟨handle, n, node, tied⟩ := tied
    refine ⟨handle, n, node, tied.reshape rfl rfl rfl rfl (fun _ => ⟨by rw [delivery]; rfl, rfl⟩) ?_
      fun _ member => .inl member⟩
    intro report member
    simpa [Session.waiting, awaiting, delivery] using member
  have reacts := taking.react stable (d.reactions.headD .nothing)
  rw [reaction] at reacts
  obtain ⟨⟨handle, n, node, tied⟩, told⟩ := reacts
  rw [eq]
  refine ⟨handle, n, node, tied.reshape rfl rfl rfl rfl (fun delivers => ⟨delivers, rfl⟩)
    (fun _ member => member) ?_⟩
  intro note member
  cases List.mem_append.1 member with
  | inl earlier => exact .inl earlier
  | inr last =>
    obtain rfl := List.mem_singleton.1 last
    exact .inr ⟨clean, told⟩

theorem present (stable : bond.Stable) (tied : st.Tied h bond pending) {d : Delivery}
    (delivery : st.session.delivery = some d) {notice : Notice}
    (clean : ∀ f ∈ notice.failure, f.isBreach = false) :
    (st.present Scene.device notice).Tied h bond pending := by
  have notified := tied.notify stable delivery clean
  unfold Station.present
  simp only
  split
  next =>
    -- what still waits is discarded, and fits no less for it
    obtain ⟨handle, n, node, tied⟩ := notified
    refine ⟨handle, n, node, tied.reshape rfl rfl rfl rfl (by simp [endDelivery]) ?_
      fun _ member => .inl member⟩
    intro report member
    simp only [Session.waiting, endDelivery, Option.map_none, Option.getD_none, List.append_nil] at member
    exact List.mem_append_left _ member
  next => exact notified

theorem deliver (stable : bond.Stable) (tied : st.Tied h bond (report :: pending))
    (delivering : st.session.delivery.isSome = true) :
    (st.deliver Scene.device report).Tied h bond pending := by
  obtain ⟨d, delivery⟩ := Option.isSome_iff_exists.1 delivering
  obtain ⟨handle, n, node, tied⟩ := tied
  obtain ⟨notice, session, accepted, tied', kept, same, clean⟩ := tied.accept stable delivering
  have taken : ({ st with session := session }).Tied h bond pending :=
    ⟨kept.trans handle, n, node, tied'⟩
  simp only [Station.deliver, accepted, Bool.false_eq_true, if_false]
  exact taken.present stable (same.trans delivery) clean

theorem dequeue (tied : st.Tied h bond pending) {rest : Station Scene}
    (dequeued : st.dequeue = some (report, rest)) :
    rest.Tied h bond (report :: pending) ∧ rest.session.delivery.isSome = true := by
  obtain ⟨handle, n, node, tied⟩ := tied
  unfold Station.dequeue at dequeued
  split at dequeued
  next => cases dequeued
  next d delivery =>
    split at dequeued
    next => cases dequeued
    next first queue waiting =>
      simp only [Option.some.injEq, Prod.mk.injEq] at dequeued
      obtain ⟨rfl, rfl⟩ := dequeued
      refine ⟨⟨handle, n, node, tied.reshape rfl rfl rfl rfl (fun _ => ⟨by rw [delivery]; rfl, rfl⟩) ?_
        fun _ member => .inl member⟩, rfl⟩
      intro report member
      simp only [Session.waiting, delivery, waiting, Option.map_some, Option.getD_some, List.mem_append,
        List.mem_cons] at member ⊢
      tauto

theorem drain (stable : bond.Stable) (tied : st.Tied h bond pending) (rounds : Nat) :
    (st.drain Scene.device rounds).Tied h bond pending := by
  -- by induction on the rounds
  induction rounds generalizing st with
  | zero => exact tied
  | succ rounds ih =>
    unfold Station.drain
    split
    next => exact tied
    next report rest dequeued =>
      obtain ⟨taken, delivering⟩ := tied.dequeue dequeued
      exact ih (taken.deliver stable delivering)

theorem receive (stable : bond.Stable) (tied : st.Tied h bond (report :: pending)) :
    (st.receive Scene.device report).Tied h bond pending :=
  tied.enqueue.1.drain stable _

theorem foldl_receive (stable : bond.Stable) (tied : st.Tied h bond (reports ++ pending)) :
    (reports.foldl (Station.receive Scene.device) st).Tied h bond pending := by
  -- by induction on the reports
  induction reports generalizing st with
  | nil => exact tied
  | cons report rest ih => exact ih (receive stable tied)

theorem close (stable : bond.Stable) (tied : st.Tied h bond pending) :
    (st.close Scene.device).Tied h bond pending := by
  unfold Station.close
  split
  next => exact tied
  next d delivery =>
    split
    next =>
      obtain ⟨n, _, tied'⟩ := tied.device
      exact tied.present stable delivery tied'.failure
    next => exact tied

end Tied

theorem faithful_line (h : Handle) : Faithful h (Station.line Scene.device) :=
  faithful_through ⟨fun stable tied => tied.foldl_receive stable⟩

end TriggeredSampler.Station
