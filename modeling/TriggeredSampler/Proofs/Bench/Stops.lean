import TriggeredSampler.Device.Simulation
import TriggeredSampler.Proofs.Bench.Bindings
import TriggeredSampler.Proofs.Session.Halts
import TriggeredSampler.Proofs.Session.Notices

/-! # Stopping a session that was dropped

The handle of a dropped session may be bound again, but whoever kept a way to stop the old session can still
use it. It reaches the device just in case the session was configured, and never started, when it was dropped.

* `Station.phase_drop` — the phase in which a session is left behind.
* `Bench.stop_of_spent`, `Bench.stop_of_configured` — a stop that asks the device for nothing, and one that
  asks it to stop.
* `Bench.stop_of_droppedSession` — the stops of a session that was dropped, whatever happened since.
-/

namespace TriggeredSampler

variable {σ : Type} {dev : Device σ}

theorem keeps_entries (dev : Device σ) (entries : List Entry) :
    dev.journaled.Keeps fun j => entries <+: j.entries where
  announce _ _ earlier := earlier.trans (List.prefix_append _ _)
  answer _ _ earlier := earlier.trans (List.prefix_append _ _)
  sent _ _ _ earlier := earlier.trans (List.prefix_append _ _)
  advance earlier := earlier

theorem Phase.isPrepared_eq_false {p : Phase} :
    p.isPrepared = false ↔ p ≠ .configured ∧ p.isActive = false := by
  cases p <;> simp [Phase.isPrepared, Phase.isActive]

namespace Station

variable {st : Station σ}

/-- There is nothing to stop at the device unless the session is prepared for a run, or in one. -/
theorem halt_of_spent (dev : Device σ) (spent : st.session.phase.isPrepared = false) :
    st.halt dev = (.ok (), { st with session := st.session.cancel }) := by
  obtain ⟨known, idle⟩ := Phase.isPrepared_eq_false.1 spent
  by_cases unconfigured : st.session.phase = .unconfigured
  · exact stop_of_unconfigured unconfigured
  · have ended : st.session.phase.isTerminal = true := by
      generalize st.session.phase = phase at *
      cases phase <;> simp_all [Phase.isActive, Phase.isTerminal]
    have same : st.session.cancel = st.session := by
      rw [Session.cancel, Lifecycle.cancel_of_isTerminal ended]
    rw [same]
    exact stop_of_isTerminal ended

theorem phase_drop_of_configured (dev : Device σ) (sound : st.session.Sound)
    (configured : st.session.phase = .configured) : (st.drop dev).session.phase = .configured := by
  have closed := sound.delivery_of_configured configured
  have idle : ¬st.session.phase.isActive = true := by simp [configured, Phase.isActive]
  have released : st.release (line dev) = { st with session := { st.session with live := false } } :=
    if_neg idle
  rw [drop]
  split
  next =>
    rw [released, join]
    simp only [closed]
    exact configured
  next => exact configured

theorem steady_begun : Session.Steady fun s => s.phase.begun = true where
  turn begun turns := turns.onward.begun begun
  leave begun := begun
  queue _ begun _ := begun

theorem lasting_begun :
    Session.Lasting (fun s => s.phase.begun = true) fun _ _ s => s.phase.begun = true where
  toSteady := steady_begun
  reacting _ _ := steady_begun
  shown _ _ gives begun := gives.turn.onward.begun begun
  noted begun _ := begun
  hush begun := begun

/-- A run that was begun when its session is dropped is not forgotten. -/
theorem begun_drop (dev : Device σ) (rests : st.session.Resting) (begun : st.session.phase.begun = true) :
    (st.drop dev).session.phase.begun = true := by
  have calm := (rests.settled ⟨st.device, []⟩).toCalm
  have alike := (Fares.alike_noted (J := fun _ => True) st trivial).drop
    (Device.Keeps.always dev).matches_journaled
  rw [← alike.session.phase]
  exact lasting_begun.drop dev calm begun

theorem phase_drop (dev : Device σ) (rests : st.session.Resting) :
    (st.drop dev).session.phase = .configured ↔ st.session.phase = .configured := by
  constructor
  · intro later
    by_contra other
    cases active : st.session.phase.isActive with
    | true =>
      have begun := begun_drop dev rests (Phase.begun_of_isActive active)
      rw [later] at begun
      cases begun
    | false =>
      have spent : st.session.phase.isPrepared = false := Phase.isPrepared_eq_false.2 ⟨other, active⟩
      have still := (Fares.dropped dev rests).spent rfl spent
      rw [later] at still
      cases still
  · exact phase_drop_of_configured dev rests.sound

/-- A request, from its announcement on. -/
theorem device_line {J : σ → Prop} (keeps : dev.Keeps J) (r : Request) (st : Station σ)
    (announced : J (dev.announce st.session.handle r st.device).2) : J (line dev r st).2.device := by
  have asked := Fares.alike_noted (J := J)
    { st with device := (dev.announce st.session.handle r st.device).2 } announced
  have told := Alike.foldl_receive keeps.matches_journaled (dev.announce st.session.handle r st.device).1 asked
  exact keeps.answer _ r told.device.2

theorem device_halt (dev : Device σ) (configured : st.session.phase = .configured) :
    (st.halt dev).2.device = (line dev .stop st).2.device := by
  have going : st.session.phase.isTerminal = false := by
    rw [configured]
    rfl
  rw [halt, stop_of_answer going (by simp [configured]) (Prod.eta _).symm]

end Station

namespace Bench

variable {b : Bench σ} {slot : Nat} {s : Session}

theorem stop_of_spent (dev : Device σ) (present : b.session? slot = some s) (dropped : s.live = false)
    (spent : s.phase.isPrepared = false) : b.stop dev slot = some (.ok (), b.put slot s.cancel) := by
  have halts : Station.halt (shared dev) ⟨s, b.without slot⟩ = (.ok (), ⟨s.cancel, b.without slot⟩) :=
    Station.halt_of_spent (shared dev) spent
  simp only [Bench.stop, present, Option.map_some, Bench.visit, halts, unbind, dropped]
  rfl

/-- The stop of a configured session reaches the device, whoever uses it. -/
theorem stop_of_configured (dev : Device σ) {b : Bench (Journal σ)} (registers : b.Registers [])
    (present : b.session? slot = some s) (configured : s.phase = .configured) :
    ∃ result b' added, b.stop dev.journaled slot = some (result, b') ∧
      b'.device.entries = b.device.entries ++ .asked .stop :: added := by
  obtain ⟨_, _, seats⟩ := exists_seats present
  have away := (registers.without seats).1
  have keeps := keeps_shared (keeps_entries dev (b.device.entries ++ [.asked .stop])) (s.claim ++ [])
    (b.without slot)
  -- the other sessions may have something to say before the device answers
  have raised : Stays (s.claim ++ []) (fun j => b.device.entries ++ [.asked .stop] <+: j.entries)
      (b.without slot) ((shared dev.journaled).announce s.handle .stop (b.without slot)).2 :=
    ((⟨away, .refl _, trivial⟩ : Remains _ _ (b.without slot)).withDevice (List.prefix_refl _)).divert
      (keeps_entries dev _) _
  have asked := Station.device_line keeps .stop ⟨s, b.without slot⟩ raised
  obtain ⟨added, entries⟩ := asked.device
  have halted : (Station.halt (shared dev.journaled) ⟨s, b.without slot⟩).2.device =
      (Station.line (shared dev.journaled) .stop ⟨s, b.without slot⟩).2.device :=
    Station.device_halt (shared dev.journaled) configured
  have stops : b.stop dev.journaled slot = some (b.visit slot s (Station.halt (shared dev.journaled))) := by
    rw [Bench.stop, present]
    rfl
  have behind : (b.visit slot s (Station.halt (shared dev.journaled))).2.device =
      (Station.halt (shared dev.journaled) ⟨s, b.without slot⟩).2.device.device := rfl
  rw [halted] at behind
  generalize b.visit slot s (Station.halt (shared dev.journaled)) = outcome at stops behind
  obtain ⟨result, b'⟩ := outcome
  refine ⟨result, b', added, stops, ?_⟩
  rw [show b'.device = _ from behind, ← entries, List.append_assoc]
  rfl

/-- A session is in its slot until another one is bound there. -/
theorem exists_outliving (dev : Device σ) {s₀ : Session} (later : List (Event σ)) :
    ∀ {b₀ : Bench σ} {s : Session}, b₀.Registers [] → b₀.session? slot = some s → s.Outlives s₀ →
      (∀ event ∈ later, event.binds slot = false) →
      ∃ s', (b₀.course dev later).session? slot = some s' ∧ s'.Outlives s₀ := by
  -- by induction on the events
  induction later with
  | nil => exact fun _ present outlives _ => ⟨_, present, outlives⟩
  | cons event rest ih =>
    intro b₀ s registers present outlives unbound
    have acts := acts_act dev registers event
    have related := acts.sessions (unbound event List.mem_cons_self)
    rw [present] at related
    generalize after : (b₀.act dev event).session? slot = occupant at related
    cases related with
    | some same =>
      exact ih acts.registers after (same.trans outlives) fun event member =>
        unbound event (List.mem_cons_of_mem _ member)

/-- **What a stop of a dropped session reaches.** On any bench, a session that its owner drops is left behind
in the phase `configured` if and only if it was in it. From then on, and whoever is bound to its handle, as long
as no other session is bound in its own slot: it is not active; if it was left behind in another phase a stop
succeeds, asks the device for nothing and touches no other session; and if it is in that phase a stop asks the
device to stop. -/
theorem stop_of_droppedSession (dev : Device σ) (device : σ) (events : List (Event (Journal σ))) :
    let b₀ := (start ⟨device, []⟩).course dev.journaled events
    (∀ slot s, b₀.session? slot = some s → s.live = true →
      ∃ s₀, (b₀.drop dev.journaled slot).session? slot = some s₀ ∧ s₀.live = false ∧
        (s₀.phase = .configured ↔ s.phase = .configured)) ∧
      (∀ slot s₀ later, b₀.session? slot = some s₀ → s₀.live = false →
        (∀ event ∈ later, event.binds slot = false) →
        let b := b₀.course dev.journaled later
        ∃ s, b.session? slot = some s ∧ s.live = false ∧ s.phase.isActive = false ∧
          (s₀.phase ≠ .configured → s.phase ≠ .configured) ∧
          (s.phase ≠ .configured → b.stop dev.journaled slot = some (.ok (), b.put slot s.cancel)) ∧
          (s.phase = .configured → ∃ result b' added, b.stop dev.journaled slot = some (result, b') ∧
            b'.device.entries = b.device.entries ++ .asked .stop :: added)) := by
  intro b₀
  have registers : b₀.Registers [] := registers_course dev.journaled events (registers_start _)
  constructor
  · intro slot s present _
    have rests : (⟨s, b₀.without slot⟩ : Station (Bench (Journal σ))).session.Resting :=
      registers.rests_of present
    have visited := registers.visit dev.journaled present (fun st => ((), st.drop (shared dev.journaled)))
      fun rests => Station.Fares.drop (shared dev.journaled) rests
    have dropped := Station.Fares.dropped (shared dev.journaled) rests
    have phase := Station.phase_drop (shared dev.journaled) rests
    simp only [Bench.drop, present]
    exact ⟨_, visited.2, dropped.dropped rfl, phase⟩
  · intro slot s₀ later present dropped unbound b
    obtain ⟨s, present', outlives⟩ := exists_outliving dev.journaled later registers present (.refl s₀) unbound
    have registers' : b.Registers [] := registers_course dev.journaled later registers
    have gone : s.live = false := outlives.dropped dropped
    have idle := (registers'.rests_of present').dropped gone
    refine ⟨s, present', gone, idle, ?_, ?_, stop_of_configured dev registers' present'⟩
    · intro other
      have spent := Phase.isPrepared_eq_false.2 ⟨other, (registers.rests_of present).dropped dropped⟩
      exact (Phase.isPrepared_eq_false.1 (outlives.spent dropped spent)).1
    · intro other
      exact stop_of_spent dev.journaled present' gone (Phase.isPrepared_eq_false.2 ⟨other, idle⟩)

theorem act_stop {dev : Device σ} {b b' : Bench σ} {result : Except Failure Unit}
    (stops : b.stop dev slot = some (result, b')) : b.act dev (.stop slot) = b' := by
  simp only [act, stops]
  rfl

/-- A device with one register. -/
def oneRegister : Simulation := (Simulation.empty.connect.2.declare ⟨0⟩ ⟨0x2000, 0⟩ 32 7).2

/-- A session is configured and dropped, and another one is started on its handle. A stop of the old session
then cancels the run of the new one. -/
theorem stop_of_configuredSession :
    let dev := Simulation.device.journaled
    let first : List (Event (Journal Simulation)) :=
      [.bind 0 ⟨0⟩ .standard, .perform 0 (.configure Station.oneAddress), .drop 0]
    let later : List (Event (Journal Simulation)) :=
      [.bind 1 ⟨0⟩ .standard, .perform 1 (.configure Station.oneAddress), .perform 1 (.start 5)]
    let b := ((start ⟨oneRegister, []⟩).course dev first).course dev later
    let reads (b : Bench (Journal Simulation)) :=
      ((b.act dev (.perform 1 .refresh)).session? 1).map Session.phase
    reads b = some .ready ∧ ∃ result b' added, b.stop dev 0 = some (result, b') ∧
      b'.device.entries = b.device.entries ++ .asked .stop :: added ∧ reads b' = some .cancelled := by
  intro dev first later b reads
  have dropped : (((start ⟨oneRegister, []⟩).course dev first).session? 0).map (fun s => (s.live, s.phase)) =
      some (false, .configured) := by decide +kernel
  obtain ⟨s₀, present, same⟩ := Option.map_eq_some_iff.1 dropped
  obtain ⟨s, present', _, _, _, _, asks⟩ := (stop_of_droppedSession Simulation.device oneRegister first).2 0 s₀
    later present (congrArg Prod.fst same) (by simp [later, Event.binds])
  have left : (b.session? 0).map Session.phase = some .configured := by decide +kernel
  obtain ⟨_, seated, configured⟩ := Option.map_eq_some_iff.1 left
  cases seated.symm.trans present'
  obtain ⟨result, b', added, stops, entries⟩ := asks configured
  have cancelled : reads (b.act dev (.stop 0)) = some .cancelled := by decide +kernel
  rw [act_stop stops] at cancelled
  exact ⟨by decide +kernel, result, b', added, stops, by rw [entries], cancelled⟩

end Bench

end TriggeredSampler
