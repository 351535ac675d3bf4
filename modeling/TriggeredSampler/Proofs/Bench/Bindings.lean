import Mathlib.Data.List.Nodup
import Mathlib.Data.List.Pairwise
import TriggeredSampler.Proofs.Bench.Registry

/-! # One session for each handle

Sessions are bound, replaced and dropped, by their owners and by their handlers, while the device goes on.
Whatever happens, a handle is registered just as long as a live session holds it.

* `Bench.Event`, `Bench.course` — what can happen on a bench.
* `Bench.binds_bind` — all that binding a session can do.
* `Bench.bindings_of_course` — who holds the handles.
-/

namespace TriggeredSampler.Bench

variable {σ : Type}

/-- Something that happens on a bench. -/
inductive Event (σ : Type) where
  | bind (slot : Nat) (h : Handle) (options : Options)
  /-- A command of a session's owner. -/
  | perform (slot : Nat) (command : Command)
  /-- A stop through a handle, which works on a dropped session as well. -/
  | stop (slot : Nat)
  | drop (slot : Nat)
  | takeNotes (slot : Nat)
  | settle (slots : List Nat)
  /-- A request that no session makes. -/
  | request (h : Handle) (r : Request)
  | pass
  | send (h : Handle) (report : Report)
  | hangUp (h : Handle)
  /-- Something else happens to the device. -/
  | disturb (change : σ → σ)

/-- The bench behind an event. -/
def act (dev : Device σ) (b : Bench σ) : Event σ → Bench σ
  | .bind slot h options => (b.bind dev slot h options).2
  | .perform slot command => ((b.perform dev slot command).map Prod.snd).getD b
  | .stop slot => ((b.stop dev slot).map Prod.snd).getD b
  | .drop slot => b.drop dev slot
  | .takeNotes slot => (b.takeNotes slot).2
  | .settle slots => b.settle dev slots
  | .request h r => (b.request dev h r).2
  | .pass => b.pass dev
  | .send h report => b.send dev h report
  | .hangUp h => b.hangUp h
  | .disturb change => { b with device := change b.device }

/-- The bench behind several events. -/
def course (dev : Device σ) (events : List (Event σ)) (b : Bench σ) : Bench σ :=
  events.foldl (act dev) b

/-- The event binds a session in the slot, or tries to. -/
def Event.binds (slot : Nat) : Event σ → Bool
  | .bind other _ _ => other == slot
  | _ => false

variable (dev : Device σ) {extra : List Handle} {b b' : Bench σ} {slot : Nat} {s s' : Session}

/-- The bench stays as it is, but for its device and what its sessions do. -/
abbrev Remains (extra : List Handle) (b₀ b : Bench σ) : Prop := Stays extra (fun _ => True) b₀ b

theorem Registers.remains (registers : b.Registers extra) : Remains extra b b :=
  ⟨registers, .refl b, trivial⟩

theorem Remains.trans {b'' : Bench σ} (first : Remains extra b b') (second : Remains extra b' b'') :
    Remains extra b b'' :=
  ⟨second.registers, second.outlives.trans first.outlives, trivial⟩

theorem Registers.rests_of (registers : b.Registers extra) (present : b.session? slot = some s) :
    s.Resting := by
  obtain ⟨before, after, seats⟩ := exists_seats present
  refine registers.rests (slot, s) ?_
  rw [seats.slots]
  exact List.mem_append_right _ List.mem_cons_self

/-! ## Operations -/

theorem Registers.visit {α : Type} (registers : b.Registers extra) (present : b.session? slot = some s)
    (operation : Station (Bench σ) → α × Station (Bench σ))
    (fares : s.Resting → Station.Fares (shared dev) ⟨s, b.without slot⟩ (operation ⟨s, b.without slot⟩).2) :
    Remains extra b (b.visit slot s operation).2 ∧
      (b.visit slot s operation).2.session? slot = some (operation ⟨s, b.without slot⟩).2.session :=
  registers.remains.visit (.always dev) present operation (fares (registers.rests_of present))

theorem Registers.drop (registers : b.Registers extra) (slot : Nat) :
    Remains extra b (b.drop dev slot) ∧
      ∀ s, b.session? slot = some s → ∃ s', (b.drop dev slot).session? slot = some s' ∧
        s'.Outlives { s with live := false } := by
  rw [Bench.drop]
  cases present : b.session? slot with
  | none =>
    refine ⟨registers.remains, ?_⟩
    intro s same
    cases same
  | some s =>
    have dropped := registers.visit dev present (fun st => ((), st.drop (shared dev)))
      fun rests => Station.Fares.drop (shared dev) rests
    refine ⟨dropped.1, ?_⟩
    intro s' same
    obtain rfl := Option.some.inj same
    exact ⟨_, dropped.2, Station.Fares.dropped (shared dev) (registers.rests_of present)⟩

theorem Registers.perform (registers : b.Registers extra) (slot : Nat) (command : Command) :
    Remains extra b (b.act dev (.perform slot command)) := by
  simp only [act, Bench.perform]
  cases present : b.session? slot with
  | none => exact registers.remains
  | some s =>
    simp only
    split
    next live =>
      exact (registers.visit dev present _ fun rests => Station.Fares.perform (shared dev) rests live command).1
    next => exact registers.remains

theorem Registers.stop (registers : b.Registers extra) (slot : Nat) :
    Remains extra b (b.act dev (.stop slot)) := by
  simp only [act, Bench.stop]
  cases present : b.session? slot with
  | none => exact registers.remains
  | some s => exact (registers.visit dev present _ fun rests => Station.Fares.halt (shared dev) rests).1

theorem Registers.settle (slots : List Nat) :
    ∀ {b : Bench σ}, b.Registers extra → Remains extra b (b.settle dev slots) := by
  -- by induction on the slots
  induction slots with
  | nil => exact fun registers => registers.remains
  | cons slot rest ih =>
    intro b registers
    rw [Bench.settle]
    cases present : b.session? slot with
    | none => exact ih registers
    | some s =>
      have closed := (registers.visit dev present (fun st => ((), st.close (shared dev)))
        fun rests => Station.Fares.close (shared dev) rests).1
      exact closed.trans (ih closed.registers)

theorem Registers.takeNotes (registers : b.Registers extra) (slot : Nat) :
    Remains extra b (b.takeNotes slot).2 := by
  rw [Bench.takeNotes]
  cases present : b.session? slot with
  | none => exact registers.remains
  | some s =>
    obtain ⟨before, after, seats⟩ := exists_seats present
    have rests := registers.rests_of present
    have resting : Session.Resting { s with notes := [] } :=
      ⟨⟨rests.sound.numbering, rests.sound.delivering, rests.sound.stalled⟩, rests.idle, rests.dropped⟩
    have same : Session.Outlives { s with notes := [] } s := (Session.Outlives.refl s).congr rfl rfl rfl
    have kept : unbind s { s with notes := [] } b.bindings = b.bindings := by simp [unbind]
    have replaced := registers.replace seats resting same b.device
    rw [kept] at replaced
    have taken : b.put slot { s with notes := [] } =
        ⟨before ++ (slot, { s with notes := [] }) :: after, b.bindings, b.device⟩ := by
      rw [← seats.put]
      rfl
    simp only [taken]
    exact ⟨replaced, seats.outlives same _ _, trivial⟩

/-- Every session changes in its slot, and none of them is dropped. -/
theorem Registers.map (registers : b.Registers extra) {f : Nat × Session → Nat × Session}
    (slots : ∀ entry, (f entry).1 = entry.1) (claims : ∀ entry, (f entry).2.claim = entry.2.claim)
    (rests : ∀ entry, entry.2.Resting → (f entry).2.Resting)
    (outlives : ∀ entry, (f entry).2.Outlives entry.2) : Remains extra b { b with slots := b.slots.map f } := by
  refine ⟨⟨?_, ?_, ?_, registers.once⟩, ?_, trivial⟩
  · simpa [Function.comp_def, slots] using registers.distinct
  · intro entry member
    obtain ⟨earlier, listed, rfl⟩ := List.mem_map.1 member
    exact rests earlier (registers.rests earlier listed)
  · simpa only [Bench.held, List.flatMap_map, claims] using registers.bindings
  · rw [Bench.Outlives, List.forall₂_map_left_iff]
    exact List.forall₂_same.2 fun entry _ => ⟨slots entry, outlives entry⟩

theorem Registers.hangUp (registers : b.Registers extra) (h : Handle) : Remains extra b (b.hangUp h) := by
  apply registers.map
  · intro entry
    split <;> rfl
  · intro entry
    split <;> rfl
  · intro entry rests
    split
    next => exact ⟨⟨rests.sound.numbering, nofun, rests.sound.stalled⟩, nofun, rests.dropped⟩
    next => exact rests
  · intro entry
    split
    next => exact (Session.Outlives.refl entry.2).congr rfl rfl rfl
    next => exact .refl entry.2

theorem Registers.request (registers : b.Registers extra) (h : Handle) (r : Request) :
    Remains extra b (b.request dev h r).2 := by
  have told : Remains extra b ((dev.announce h r b.device).1.foldl (fun b report => b.send dev h report)
      { b with device := (dev.announce h r b.device).2 }) := by
    apply List.foldlRecOn _ _ (registers.remains.withDevice trivial)
    intro b' remains report _
    exact remains.send (.always dev) h report
  exact told.withDevice trivial

theorem Registers.pass (registers : b.Registers extra) : Remains extra b (b.pass dev) := by
  apply List.foldlRecOn _ _ (registers.remains.withDevice trivial)
  intro b' remains report _
  exact remains.send (.always dev) report.1 report.2

/-! ## Binding -/

theorem session?_append {before after : List (Nat × Session)} (other : Nat) (distinct : other ≠ slot)
    (s : Session) : (before ++ (slot, s) :: after).lookup other = (before ++ after).lookup other := by
  have skipped : (other == slot) = false := by simpa using distinct
  simp only [List.lookup_append, List.lookup_cons, skipped]

/-- A slot whose session was dropped, or that was never used, can be emptied: no handle becomes free. -/
theorem Registers.vacate (registers : b.Registers extra)
    (dropped : ∀ s, b.session? slot = some s → s.live = false) :
    ∃ before after, b.place slot = before.length ∧ (b.without slot).slots = before ++ after ∧
      (b.without slot).Registers extra ∧ slot ∉ (b.without slot).slots.map Prod.fst ∧
      ∀ other ≠ slot, (before ++ after).lookup other = b.session? other := by
  cases present : b.session? slot with
  | some s =>
    obtain ⟨before, after, seats⟩ := exists_seats present
    obtain ⟨away, free⟩ := registers.without seats
    have nothing : s.claim = [] := by simp [Session.claim, dropped s present]
    rw [nothing, List.nil_append] at away
    refine ⟨before, after, seats.place, seats.without, away, free, ?_⟩
    intro other distinct
    rw [Bench.session?, seats.slots, session?_append other distinct]
  | none =>
    have unused : ∀ entry ∈ b.slots, entry.1 ≠ slot := by
      intro entry member
      have differs : slot ≠ entry.1 := by simpa using List.lookup_eq_none_iff.1 present entry member
      exact differs.symm
    have place : b.place slot = b.slots.length := by
      rw [Bench.place, List.findIdx_eq_length]
      intro entry member
      simpa using unused entry member
    have same : b.without slot = b := by
      rw [Bench.without, place, List.eraseIdx_of_length_le (Nat.le_refl _)]
    rw [same]
    refine ⟨b.slots, [], place, (List.append_nil _).symm, registers, ?_, ?_⟩
    · simpa using fun s member => unused (slot, s) member rfl
    · intro other _
      rw [List.append_nil]
      rfl

theorem resting_bind (h : Handle) (options : Options) : (Session.bind h options).Resting :=
  ⟨⟨rfl, nofun, rfl⟩, nofun, nofun⟩

/-- All that binding a session can do: nothing if the handle is registered; else the new session is in its slot,
and the other sessions are still there. -/
inductive Binds (b : Bench σ) (slot : Nat) (h : Handle) (options : Options) :
    Except Failure Unit × Bench σ → Prop where
  | refused (registered : h ∈ b.bindings) : Binds b slot h options (.error (.misuse (.handleBound h.id)), b)
  | bound {b' : Bench σ} (free : h ∉ b.bindings) (registers : b'.Registers [])
      (seated : b'.session? slot = some (.bind h options))
      (others : ∀ other ≠ slot, Option.Rel Session.Outlives (b'.session? other) (b.session? other)) :
      Binds b slot h options (.ok (), b')

theorem binds_bind (registers : b.Registers []) (slot : Nat) (h : Handle) (options : Options) :
    Binds b slot h options (b.bind dev slot h options) := by
  rw [Bench.bind, Bench.acquire]
  by_cases registered : h ∈ b.bindings
  · rw [if_pos registered]
    exact .refused registered
  · rw [if_neg registered]
    have acquired : Registers [h] { b with bindings := h :: b.bindings } :=
      ⟨registers.distinct, registers.rests, registers.bindings.cons h,
        List.nodup_cons.2 ⟨registered, registers.once⟩⟩
    obtain ⟨remains, gone⟩ := acquired.drop dev slot
    simp only
    generalize Bench.drop dev { b with bindings := h :: b.bindings } slot = vacated at remains gone ⊢
    have kept := remains.outlives.session?
    have dropped : ∀ s, vacated.session? slot = some s → s.live = false := by
      intro s present
      have earlier := kept slot
      rw [present] at earlier
      generalize before : Bench.session? _ slot = occupant at earlier
      cases earlier with
      | some _ =>
        obtain ⟨s', present', left⟩ := gone _ before
        obtain rfl := Option.some.inj (present.symm.trans present')
        exact left.dropped rfl
    obtain ⟨before, after, place, slots, away, free, others⟩ := remains.registers.vacate dropped
    have entered := away.enter (s := .bind h options) slots free (resting_bind h options) (.refl _)
      vacated.device
    have put : vacated.put slot (.bind h options) =
        ⟨before ++ (slot, .bind h options) :: after, vacated.bindings, vacated.device⟩ := by
      simp only [Bench.put, slots, place, insertIdx_append]
    rw [put]
    obtain ⟨_, _, seats⟩ := entered.seats_of_mem (List.mem_append_right _ List.mem_cons_self)
    refine .bound registered entered seats.session? ?_
    intro other distinct
    have same : Bench.session?
        ⟨before ++ (slot, .bind h options) :: after, vacated.bindings, vacated.device⟩ other =
          vacated.session? other := by
      rw [Bench.session?, session?_append other distinct, others other distinct]
    rw [same]
    exact kept other

/-! ## Events -/

/-- What an event does: either all sessions remain, or a new one is bound to a free handle. -/
inductive Acts (b : Bench σ) : Event σ → Bench σ → Prop where
  | remains (event : Event σ) {b' : Bench σ} (remains : Remains [] b b') : Acts b event b'
  | bound (slot : Nat) (h : Handle) (options : Options) {b' : Bench σ}
      (binds : Binds b slot h options (.ok (), b')) : Acts b (.bind slot h options) b'

theorem acts_act (registers : b.Registers []) (event : Event σ) : Acts b event (b.act dev event) := by
  cases event with
  | bind slot h options =>
    have binds := binds_bind dev registers slot h options
    simp only [act]
    generalize b.bind dev slot h options = outcome at binds ⊢
    cases binds with
    | refused _ => exact .remains _ registers.remains
    | bound free registers' seated others => exact .bound slot h options (.bound free registers' seated others)
  | perform slot command => exact .remains _ (registers.perform dev slot command)
  | stop slot => exact .remains _ (registers.stop dev slot)
  | drop slot => exact .remains _ (registers.drop dev slot).1
  | takeNotes slot => exact .remains _ (registers.takeNotes slot)
  | settle slots => exact .remains _ (Registers.settle dev slots registers)
  | request h r => exact .remains _ (registers.request dev h r)
  | pass => exact .remains _ (registers.pass dev)
  | send h report => exact .remains _ (registers.remains.send (.always dev) h report)
  | hangUp h => exact .remains _ (registers.hangUp h)
  | disturb change => exact .remains _ (registers.remains.withDevice trivial)

namespace Acts

variable {event : Event σ}

theorem registers (acts : Acts b event b') : b'.Registers [] := by
  cases acts with
  | remains _ remains => exact remains.registers
  | bound _ _ _ binds => cases binds with
    | bound _ registers _ _ => exact registers

/-- Where no session is bound the session is still there. -/
theorem sessions (acts : Acts b event b') (unbound : event.binds slot = false) :
    Option.Rel Session.Outlives (b'.session? slot) (b.session? slot) := by
  cases acts with
  | remains _ remains => exact remains.outlives.session? slot
  | bound other _ _ binds => cases binds with
    | bound _ _ _ others =>
      apply others
      rintro rfl
      simp [Event.binds] at unbound

/-- A live session was live before, or its handle was free. -/
theorem holder (acts : Acts b event b') (present : b'.session? slot = some s') (live : s'.live = true) :
    (∃ s, b.session? slot = some s ∧ s.live = true ∧ s.handle = s'.handle) ∨ s'.handle ∉ b.bindings := by
  have outliving (related : Option.Rel Session.Outlives (b'.session? slot) (b.session? slot)) :
      ∃ s, b.session? slot = some s ∧ s.live = true ∧ s.handle = s'.handle := by
    rw [present] at related
    generalize b.session? slot = occupant at related
    cases related with
    | some outlives => exact ⟨_, rfl, outlives.live live, outlives.handle.symm⟩
  cases acts with
  | remains _ remains => exact .inl (outliving (remains.outlives.session? slot))
  | bound other h options binds => cases binds with
    | bound free _ seated others =>
      by_cases same : slot = other
      · subst same
        obtain rfl := Option.some.inj (seated.symm.trans present)
        exact .inr free
      · exact .inl (outliving (others slot same))

end Acts

theorem registers_start (device : σ) : (start device).Registers [] where
  distinct := .nil
  rests entry member := by cases member
  bindings := .nil
  once := .nil

theorem registers_course (events : List (Event σ)) :
    ∀ {b : Bench σ}, b.Registers [] → (b.course dev events).Registers [] := by
  -- by induction on the events
  induction events with
  | nil => exact fun registers => registers
  | cons event rest ih => exact fun registers => ih (acts_act dev registers event).registers

/-! ## The holders of the handles -/

namespace Registers

variable {slot' : Nat}

theorem mem_slots (present : b.session? slot = some s) : (slot, s) ∈ b.slots := by
  obtain ⟨before, after, seats⟩ := exists_seats present
  rw [seats.slots]
  exact List.mem_append_right _ List.mem_cons_self

/-- A handle is registered if a live session holds it. -/
theorem mem_bindings_iff (registers : b.Registers []) {h : Handle} :
    h ∈ b.bindings ↔ ∃ slot s, b.session? slot = some s ∧ s.live = true ∧ s.handle = h := by
  rw [registers.bindings.mem_iff, List.nil_append, held, List.mem_flatMap]
  constructor
  · rintro ⟨⟨slot, s⟩, member, claims⟩
    obtain ⟨_, _, seats⟩ := registers.seats_of_mem member
    simp only [Session.claim] at claims
    split at claims
    next live => exact ⟨slot, s, seats.session?, live, (List.mem_singleton.1 claims).symm⟩
    next => cases claims
  · rintro ⟨slot, s, present, live, rfl⟩
    exact ⟨(slot, s), mem_slots present, by simp [Session.claim, live]⟩

/-- Two live sessions do not share a handle. -/
theorem slot_eq (registers : b.Registers []) (present : b.session? slot = some s)
    (present' : b.session? slot' = some s') (live : s.live = true) (live' : s'.live = true)
    (same : s.handle = s'.handle) : slot = slot' := by
  by_contra distinct
  have once : b.held.Nodup := registers.bindings.nodup_iff.1 registers.once
  have symmetric : Std.Symm (Function.onFun List.Disjoint fun entry : Nat × Session => entry.2.claim) :=
    ⟨fun _ _ disjoint _ second first => disjoint first second⟩
  have apart := (List.nodup_flatMap.1 once).2.forall (mem_slots present) (mem_slots present')
    (fun equal => distinct (congrArg Prod.fst equal))
  have claims : s.handle ∈ s.claim := by simp [Session.claim, live]
  exact apart claims (by simp [Session.claim, live', same])

end Registers

/-- A handle stays registered only as long as its session is live. -/
theorem Registers.still_live (registers : b.Registers []) (event : Event σ) (present : b.session? slot = some s)
    (live : s.live = true) (registered : s.handle ∈ (b.act dev event).bindings) :
    ∃ s', (b.act dev event).session? slot = some s' ∧ s'.live = true ∧ s'.handle = s.handle := by
  have acts := acts_act dev registers event
  obtain ⟨slot', s', present', live', same⟩ := acts.registers.mem_bindings_iff.1 registered
  cases acts.holder present' live' with
  | inl held =>
    obtain ⟨earlier, holding, living, kept⟩ := held
    obtain rfl := registers.slot_eq holding present living live (kept.trans same)
    exact ⟨s', present', live', same⟩
  | inr free => exact absurd (registers.mem_bindings_iff.2 ⟨slot, s, present, live, rfl⟩) (same ▸ free)

theorem Registers.free_of_dropped (registers : b.Registers []) (event : Event σ)
    (present : b.session? slot = some s) (live : s.live = true)
    (present' : (b.act dev event).session? slot = some s') (dropped : s'.live = false) :
    s.handle ∉ (b.act dev event).bindings := by
  intro registered
  obtain ⟨later, present'', live', _⟩ := registers.still_live dev event present live registered
  obtain rfl := Option.some.inj (present'.symm.trans present'')
  rw [dropped] at live'
  cases live'

theorem perform_drop (present : b.session? slot = some s) (live : s.live = true) :
    b.act dev (.perform slot .drop) = b.act dev (.drop slot) := by
  simp only [act, Bench.perform, Bench.drop, present, live, if_true]
  rfl

/-- A handler that drops its session when it is told something. -/
theorem Registers.send_drop (registers : b.Registers []) {h : Handle} {d : Delivery}
    (listens : b.listener? h = some (slot, s)) (delivery : s.delivery = some d)
    (drops : d.reactions.head? = some .drop) (report : Report) :
    b.session? slot = some s ∧
      ∃ s', (b.act dev (.send h report)).session? slot = some s' ∧ s'.live = false := by
  have member := List.mem_of_find?_eq_some listens
  obtain ⟨before, after, seats⟩ := registers.seats_of_mem member
  have rests : (⟨s, b.device⟩ : Station σ).session.Resting := registers.rests _ member
  have dropped := Station.Fares.dropped_inside dev rests delivery drops report
  simp only [act, Bench.send, listens]
  generalize Station.receive dev ⟨s, b.device⟩ report = received at dropped ⊢
  have seats' : Seats (b.put slot received.session) slot received.session before after :=
    ⟨seats.put _, seats.first⟩
  exact ⟨seats.session?, received.session, seats'.session?, dropped⟩

/-- **A handle belongs to one live session.** Whatever happened on a bench, the registered handles are exactly
those of the live sessions, each once, and no two live sessions share one. A session can be bound to a handle
if and only if no live session holds it; otherwise binding fails with that handle and changes nothing. A handle
stays registered only as long as its session is live: it is free once its owner or its handler dropped it. -/
theorem bindings_of_course (device : σ) (events : List (Event σ)) :
    let b := (start device).course dev events
    (b.bindings.Perm b.held ∧ b.bindings.Nodup) ∧
      (∀ slot slot' s s', b.session? slot = some s → b.session? slot' = some s' → s.live = true →
        s'.live = true → s.handle = s'.handle → slot = slot') ∧
      (∀ slot h options,
        ((∃ other s, b.session? other = some s ∧ s.live = true ∧ s.handle = h) →
          b.bind dev slot h options = (.error (.misuse (.handleBound h.id)), b)) ∧
        ((¬∃ other s, b.session? other = some s ∧ s.live = true ∧ s.handle = h) →
          (b.bind dev slot h options).1 = .ok () ∧
            (b.bind dev slot h options).2.session? slot = some (.bind h options))) ∧
      (∀ event slot s, b.session? slot = some s → s.live = true → s.handle ∈ (b.act dev event).bindings →
        ∃ s', (b.act dev event).session? slot = some s' ∧ s'.live = true ∧ s'.handle = s.handle) ∧
      (∀ slot s, b.session? slot = some s → s.live = true →
        s.handle ∉ (b.act dev (.drop slot)).bindings ∧ s.handle ∉ (b.act dev (.perform slot .drop)).bindings) ∧
      (∀ h report slot s d, b.listener? h = some (slot, s) → s.live = true → s.delivery = some d →
        d.reactions.head? = some .drop → s.handle ∉ (b.act dev (.send h report)).bindings) := by
  intro b
  have registers : b.Registers [] := registers_course dev events (registers_start device)
  refine ⟨⟨registers.bindings, registers.once⟩, fun _ _ _ _ => registers.slot_eq, ?_,
    fun event _ _ => registers.still_live dev event, ?_, ?_⟩
  · intro slot h options
    have binds := binds_bind dev registers slot h options
    rw [← registers.mem_bindings_iff]
    generalize b.bind dev slot h options = outcome at binds ⊢
    cases binds with
    | refused registered => exact ⟨fun _ => rfl, fun free => absurd registered free⟩
    | bound free _ seated _ => exact ⟨fun registered => absurd registered free, fun _ => ⟨rfl, seated⟩⟩
  · intro slot s present live
    rw [perform_drop dev present live, and_self]
    obtain ⟨s', present', left⟩ := (registers.drop dev slot).2 s present
    exact registers.free_of_dropped dev (.drop slot) present live present' (left.dropped rfl)
  · intro h report slot s d listens live delivery drops
    obtain ⟨present, s', present', dropped⟩ := registers.send_drop dev listens delivery drops report
    exact registers.free_of_dropped dev (.send h report) present live present' dropped

end TriggeredSampler.Bench
