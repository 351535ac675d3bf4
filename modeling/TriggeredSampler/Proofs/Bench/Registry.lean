import Mathlib.Data.List.Forall2
import Mathlib.Data.List.Perm.Basic
import TriggeredSampler.Bench
import TriggeredSampler.Proofs.Session.Resting

/-! # The handles of the live sessions

The registered handles of a bench are those of its live sessions, each once. While a session is taken out of
its slot for an operation its handle stays registered, so the invariant has a list of handles beside those of
the sessions on the bench.

* `Bench.Registers`, `Bench.Stays` — the invariant, and that no session comes back.
* `Bench.keeps_shared` — a session that shares the device keeps them for the others.
* `Bench.Stays.visit` — an operation of one session.
-/

namespace TriggeredSampler

variable {σ : Type}

/-- The handle that a session holds. -/
def Session.claim (s : Session) : List Handle := if s.live then [s.handle] else []

namespace Bench

/-- The handles that the sessions hold. -/
def held (b : Bench σ) : List Handle := b.slots.flatMap fun entry => entry.2.claim

/-- The registered handles are those in `extra` and those of the live sessions, each once; every slot is there
once, and every session is at rest. -/
structure Registers (extra : List Handle) (b : Bench σ) : Prop where
  distinct : (b.slots.map Prod.fst).Nodup
  rests : ∀ entry ∈ b.slots, entry.2.Resting
  bindings : b.bindings.Perm (extra ++ b.held)
  once : b.bindings.Nodup

/-- The slots are the same, and so are the sessions in them. -/
def Outlives (later earlier : Bench σ) : Prop :=
  List.Forall₂ (fun entry entry' => entry.1 = entry'.1 ∧ entry.2.Outlives entry'.2) later.slots earlier.slots

/-- The bench `b` comes from `b₀`, its handles are registered, and `J` holds of the device. -/
structure Stays (extra : List Handle) (J : σ → Prop) (b₀ b : Bench σ) : Prop where
  registers : Registers extra b
  outlives : b.Outlives b₀
  device : J b.device

variable {dev : Device σ} {extra : List Handle} {J : σ → Prop} {b b₀ : Bench σ} {slot : Nat} {s s' : Session}
  {before after : List (Nat × Session)}

theorem Outlives.refl (b : Bench σ) : b.Outlives b :=
  List.forall₂_same.2 fun entry _ => ⟨rfl, .refl entry.2⟩

theorem Outlives.trans {b' : Bench σ} (second : b'.Outlives b) (first : b.Outlives b₀) : b'.Outlives b₀ := by
  simp only [Bench.Outlives] at first second ⊢
  generalize b.slots = sessions, b'.slots = later, b₀.slots = earlier at first second ⊢
  -- by induction on the slots
  induction second generalizing earlier with
  | nil => exact first
  | cons same _ ih =>
    cases first with
    | cons same' rest => exact .cons ⟨same.1.trans same'.1, same.2.trans same'.2⟩ (ih _ rest)

/-! ## Slots -/

/-- The session `s` is in a slot, with some slots before it and some behind it. -/
structure Seats (b : Bench σ) (slot : Nat) (s : Session) (before after : List (Nat × Session)) : Prop where
  slots : b.slots = before ++ (slot, s) :: after
  first : ∀ entry ∈ before, entry.1 ≠ slot

namespace Seats

theorem place (seats : b.Seats slot s before after) : b.place slot = before.length := by
  have none : before.findIdx (fun entry => entry.1 == slot) = before.length := by
    rw [List.findIdx_eq_length]
    intro entry member
    simpa using seats.first entry member
  simp [Bench.place, seats.slots, List.findIdx_append, List.findIdx_cons, none]

theorem without (seats : b.Seats slot s before after) : (b.without slot).slots = before ++ after := by
  simp [Bench.without, seats.place, seats.slots, List.eraseIdx_append_of_length_le]

end Seats

theorem insertIdx_append {α : Type} (before after : List α) (a : α) :
    (before ++ after).insertIdx before.length a = before ++ a :: after := by
  induction before with
  | nil => rfl
  | cons first rest ih => simp [List.insertIdx_succ_cons, ih]

theorem Seats.put (seats : b.Seats slot s before after) (s' : Session) :
    (b.put slot s').slots = before ++ (slot, s') :: after := by
  simp only [Bench.put, seats.without, seats.place, insertIdx_append]

theorem exists_seats (present : b.session? slot = some s) : ∃ before after, b.Seats slot s before after := by
  obtain ⟨before, after, slots, first⟩ := List.lookup_eq_some_iff.1 present
  refine ⟨before, after, slots, ?_⟩
  intro entry member same
  simpa [same] using first entry member

theorem Seats.session? (seats : b.Seats slot s before after) : b.session? slot = some s := by
  refine List.lookup_eq_some_iff.2 ⟨before, after, seats.slots, ?_⟩
  intro entry member
  simpa using (seats.first entry member).symm

theorem Registers.seats_of_mem (registers : b.Registers extra) (member : (slot, s) ∈ b.slots) :
    ∃ before after, b.Seats slot s before after := by
  obtain ⟨before, after, slots⟩ := List.mem_iff_append.1 member
  refine ⟨before, after, slots, ?_⟩
  have distinct := registers.distinct
  rw [slots, List.map_append, List.map_cons, List.nodup_append] at distinct
  intro entry member
  exact distinct.2.2 _ (List.mem_map_of_mem member) _ List.mem_cons_self

/-! ## Claims -/

theorem Seats.held (seats : b.Seats slot s before after) :
    b.held.Perm (s.claim ++ (before ++ after).flatMap fun entry => entry.2.claim) := by
  rw [Bench.held, seats.slots, List.flatMap_append, List.flatMap_cons, List.flatMap_append]
  exact List.perm_append_comm_assoc _ _ _

/-- A session gives its handle up when it is dropped. -/
theorem unbind_perm {bindings rest : List Handle} (outlives : s'.Outlives s)
    (claimed : bindings.Perm (s.claim ++ rest)) : (unbind s s' bindings).Perm (s'.claim ++ rest) := by
  simp only [unbind, Session.claim] at claimed ⊢
  cases live : s.live with
  | false => simpa [live, outlives.dropped live] using claimed
  | true =>
    rw [live] at claimed
    cases still : s'.live with
    | true => simpa [outlives.handle] using claimed
    | false => simpa using claimed.erase s.handle

theorem nodup_unbind {bindings : List Handle} (once : bindings.Nodup) (s s' : Session) :
    (unbind s s' bindings).Nodup := by
  rw [unbind]
  split
  next => exact once.erase _
  next => exact once

/-- Without its session a slot is empty, and the handle of the session stays registered. -/
theorem Registers.without (registers : b.Registers extra) (seats : b.Seats slot s before after) :
    Registers (s.claim ++ extra) (b.without slot) ∧ slot ∉ (b.without slot).slots.map Prod.fst := by
  have distinct := registers.distinct
  have others := registers.rests
  rw [seats.slots] at others
  rw [seats.slots, List.map_append, List.map_cons, List.perm_middle.nodup_iff, ← List.map_append,
    List.nodup_cons] at distinct
  have claimed : b.bindings.Perm (s.claim ++ (extra ++ (before ++ after).flatMap fun entry => entry.2.claim)) :=
    (registers.bindings.trans (seats.held.append_left extra)).trans (List.perm_append_comm_assoc _ _ _)
  rw [seats.without]
  refine ⟨⟨?_, ?_, ?_, registers.once⟩, distinct.1⟩
  · rw [seats.without]
    exact distinct.2
  · rw [seats.without]
    intro entry member
    cases List.mem_append.1 member with
    | inl early => exact others entry (List.mem_append_left _ early)
    | inr late => exact others entry (List.mem_append_right _ (List.mem_cons_of_mem _ late))
  · rw [Bench.held, seats.without, List.append_assoc]
    exact claimed

/-- A session comes into an empty slot; it gives its handle up if it was dropped since it left. -/
theorem Registers.enter (registers : Registers (s.claim ++ extra) b) (slots : b.slots = before ++ after)
    (free : slot ∉ b.slots.map Prod.fst) (rests : s'.Resting) (outlives : s'.Outlives s) (device : σ) :
    Registers extra ⟨before ++ (slot, s') :: after, unbind s s' b.bindings, device⟩ := by
  have distinct := registers.distinct
  have others := registers.rests
  have claimed := registers.bindings
  rw [slots] at distinct free others
  rw [Bench.held, slots, List.append_assoc] at claimed
  refine ⟨?_, ?_, ?_, nodup_unbind registers.once s s'⟩
  · rw [List.map_append, List.map_cons, List.perm_middle.nodup_iff, ← List.map_append, List.nodup_cons]
    exact ⟨free, distinct⟩
  · intro entry member
    rcases List.mem_append.1 member with early | late
    · exact others entry (List.mem_append_left _ early)
    · cases late with
      | head => exact rests
      | tail _ late => exact others entry (List.mem_append_right _ late)
  · rw [Bench.held, List.flatMap_append, List.flatMap_cons]
    rw [List.flatMap_append] at claimed
    exact ((unbind_perm outlives claimed).trans (List.perm_append_comm_assoc _ _ _)).trans
      ((List.perm_append_comm_assoc _ _ _).append_left extra)

/-- A session changes in its slot. -/
theorem Registers.replace (registers : b.Registers extra) (seats : b.Seats slot s before after)
    (rests : s'.Resting) (outlives : s'.Outlives s) (device : σ) :
    Registers extra ⟨before ++ (slot, s') :: after, unbind s s' b.bindings, device⟩ := by
  obtain ⟨away, free⟩ := registers.without seats
  exact away.enter seats.without free rests outlives device

theorem Seats.outlives (seats : b.Seats slot s before after) (same : s'.Outlives s) (bindings : List Handle)
    (device : σ) : Outlives ⟨before ++ (slot, s') :: after, bindings, device⟩ b := by
  rw [Bench.Outlives, seats.slots]
  have others (entries : List (Nat × Session)) : List.Forall₂
      (fun entry entry' => entry.1 = entry'.1 ∧ entry.2.Outlives entry'.2) entries entries :=
    List.forall₂_same.2 fun entry _ => ⟨rfl, .refl entry.2⟩
  exact List.rel_append (others before) (.cons ⟨rfl, same⟩ (others after))

/-! ## Reports -/

theorem Stays.withDevice {K : σ → Prop} (stays : Stays extra K b₀ b) {device : σ} (holds : J device) :
    Stays extra J b₀ { b with device := device } :=
  ⟨⟨stays.registers.distinct, stays.registers.rests, stays.registers.bindings, stays.registers.once⟩,
    stays.outlives, holds⟩

theorem Stays.send (keeps : dev.Keeps J) (stays : Stays extra J b₀ b) (h : Handle) (report : Report) :
    Stays extra J b₀ (b.send dev h report) := by
  rw [Bench.send]
  cases listening : b.listener? h with
  | none => exact stays.withDevice (keeps.sent h report false stays.device)
  | some entry =>
    obtain ⟨slot, s⟩ := entry
    have member := List.mem_of_find?_eq_some listening
    obtain ⟨before, after, seats⟩ := stays.registers.seats_of_mem member
    have rests : (⟨s, b.device⟩ : Station σ).session.Resting := stays.registers.rests _ member
    have fares := Station.Fares.receive dev rests report
    simp only
    generalize Station.receive dev ⟨s, b.device⟩ report = received at fares ⊢
    rw [seats.put]
    exact ⟨stays.registers.replace seats fares.rests fares.outlives _,
      (seats.outlives fares.outlives _ _).trans stays.outlives, fares.device keeps stays.device⟩

theorem Stays.divert (keeps : dev.Keeps J) (reports : List (Handle × Report)) :
    ∀ {b : Bench σ}, Stays extra J b₀ b → Stays extra J b₀ (divert dev reports b).2 := by
  -- by induction on the reports
  induction reports with
  | nil => exact fun stays => stays
  | cons report rest ih =>
    intro b stays
    rw [Bench.divert]
    split
    next => exact ih (stays.send keeps report.1 report.2)
    next => exact ih stays

/-- A session that shares the device with those on the bench keeps what holds of them. -/
theorem keeps_shared (keeps : dev.Keeps J) (extra : List Handle) (b₀ : Bench σ) :
    (shared dev).Keeps (Stays extra J b₀) where
  announce h r stays := (stays.withDevice (keeps.announce h r stays.device)).divert keeps _
  answer h r stays := stays.withDevice (keeps.answer h r stays.device)
  sent h report heard stays := stays.withDevice (keeps.sent h report heard stays.device)
  advance stays := (stays.withDevice (keeps.advance stays.device)).divert keeps _

/-! ## Operations -/

theorem Outlives.slots (outlives : b.Outlives b₀) : b.slots.map Prod.fst = b₀.slots.map Prod.fst := by
  have keys : List.Forall₂ Eq (b.slots.map Prod.fst) (b₀.slots.map Prod.fst) := by
    rw [List.forall₂_map_left_iff, List.forall₂_map_right_iff]
    exact List.Forall₂.imp (fun _ _ same => same.1) outlives
  exact List.forall₂_eq_eq_eq ▸ keys

/-- An operation of one session, while the others share the device with it. -/
theorem Stays.visit {α : Type} (keeps : dev.Keeps J) (stays : Stays extra J b₀ b)
    (present : b.session? slot = some s) (operation : Station (Bench σ) → α × Station (Bench σ))
    (fares : Station.Fares (shared dev) ⟨s, b.without slot⟩ (operation ⟨s, b.without slot⟩).2) :
    Stays extra J b₀ (b.visit slot s operation).2 ∧
      (b.visit slot s operation).2.session? slot = some (operation ⟨s, b.without slot⟩).2.session := by
  obtain ⟨before, after, seats⟩ := exists_seats present
  obtain ⟨away, free⟩ := stays.registers.without seats
  have left : Stays (s.claim ++ extra) J (b.without slot) (b.without slot) := ⟨away, .refl _, stays.device⟩
  have behind := fares.device (keeps_shared keeps _ _) left
  have rests := fares.rests
  have outlives := fares.outlives
  simp only [Bench.visit]
  generalize operation ⟨s, b.without slot⟩ = outcome at behind rests outlives ⊢
  obtain ⟨result, session, others⟩ := outcome
  simp only at behind rests outlives ⊢
  -- the other sessions stay in their slots, so the slot is where it was
  have paired := behind.outlives
  rw [← behind.outlives.slots] at free
  rw [Bench.Outlives, seats.without] at paired
  have first := List.forall₂_take_append _ before after paired
  have second := List.forall₂_drop_append _ before after paired
  have split : others.slots = others.slots.take before.length ++ others.slots.drop before.length :=
    (List.take_append_drop _ _).symm
  have length := first.length_eq
  have slots : others.slots.insertIdx (b.place slot) (slot, session) =
      others.slots.take before.length ++ (slot, session) :: others.slots.drop before.length := by
    rw [seats.place, ← insertIdx_append, length, ← split]
  rw [slots]
  have registers := behind.registers.enter split free rests outlives others.device
  obtain ⟨_, _, seats'⟩ := registers.seats_of_mem (List.mem_append_right _ List.mem_cons_self)
  refine ⟨⟨registers, ?_, behind.device⟩, seats'.session?⟩
  apply Outlives.trans _ stays.outlives
  rw [Bench.Outlives, seats.slots]
  exact List.rel_append first (.cons ⟨rfl, outlives⟩ second)

theorem Outlives.session? (outlives : b.Outlives b₀) (slot : Nat) :
    Option.Rel Session.Outlives (b.session? slot) (b₀.session? slot) := by
  simp only [Bench.session?, Bench.Outlives] at outlives ⊢
  generalize b.slots = later, b₀.slots = earlier at outlives ⊢
  -- by induction on the slots
  induction outlives with
  | nil => exact .none
  | @cons entry entry' _ _ same _ ih =>
    obtain ⟨key, later⟩ := entry
    obtain ⟨key', earlier⟩ := entry'
    obtain rfl : key = key' := same.1
    simp only [List.lookup_cons]
    split
    next => exact .some same.2
    next => exact ih

end Bench

end TriggeredSampler
