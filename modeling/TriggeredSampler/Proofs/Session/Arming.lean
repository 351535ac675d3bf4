import TriggeredSampler.Proofs.Device.Registers
import TriggeredSampler.Proofs.Device.Stored
import TriggeredSampler.Proofs.Session.Agreement
import TriggeredSampler.Proofs.Trigger.Condition

/-! # When the writes around a start fire the trigger

A start writes the value of its trigger, starts the sampler, and writes the number above it. For a trigger that
waits for a reading above its threshold the first write should hold the sampler back, and the second one should
let it go. The value is written as a number without sign, the register keeps its low bits with a sign, and the
threshold is a signed number of 32 bits; where the three disagree, the writes do not do what they are for.

* `Condition.Armable` — the values for which they agree.
* `Condition.arms_iff` — the two readings, for every width.
* `Station.start_of_accepted` — a start, write by write.
* `Station.arming_fires_iff` — the registers of a device, and the starts of a session.
-/

namespace TriggeredSampler

namespace Condition

/-- The values for which a register of `bits` bits holds the threshold, and the number above it. -/
def Armable (value : UInt32) (bits : Nat) : Prop :=
  if bits = 64 then 0 ≤ threshold value
  else -2 ^ (bits - 1) ≤ threshold value ∧ threshold value ≤ 2 ^ (bits - 1) - 2

instance (value : UInt32) (bits : Nat) : Decidable (Armable value bits) :=
  inferInstanceAs (Decidable (ite _ _ _))

/-- The trigger is not met by what the value reads back as, and is met by what the number above it does. -/
def Arms (previous low high : Int) (value : UInt32) : Prop :=
  greater.holds previous low value = false ∧ greater.holds previous high value = true

theorem arms_iff (previous : Int) (value : UInt32) {bits : Nat} (width : Registers.isWidth bits = true) :
    Arms previous (Registers.extended value.toNat bits) (Registers.extended (value.toNat + 1) bits) value ↔
      Armable value bits := by
  have small : value.toNat < 2 ^ 32 := value.toNat_lt
  have signed : threshold value = (value.toNat : Int).bmod 4294967296 := rfl
  have widths : bits = 8 ∨ bits = 16 ∨ bits = 32 ∨ bits = 64 := by simpa [Registers.isWidth] using width
  have fits : bits ≤ 64 := by omega
  simp only [Arms, Armable, holds, decide_eq_false_iff_not, decide_eq_true_eq, Registers.extended_eq fits, signed]
  -- all three numbers are what is left of the same one, modulo different powers of two
  generalize value.toNat = n at small ⊢
  by_cases wide : bits = 64
  · subst wide
    rw [if_pos rfl]
    simp only [Int.bmod]
    omega
  · rw [if_neg wide]
    obtain rfl | rfl | rfl : bits = 8 ∨ bits = 16 ∨ bits = 32 := by omega
    all_goals
      simp only [Int.bmod]
      omega

theorem armable_thirtyTwo (value : UInt32) : Armable value 32 ↔ value ≠ 0x7FFFFFFF := by
  have small : value.toNat < 2 ^ 32 := value.toNat_lt
  have signed : threshold value = (value.toNat : Int).bmod 4294967296 := rfl
  have same : value = 0x7FFFFFFF ↔ value.toNat = 2147483647 := UInt32.toNat_inj.symm
  rw [ne_eq, same, Armable, if_neg (by decide), signed, Int.bmod]
  generalize value.toNat = n at small ⊢
  omega

end Condition

/-! ## Two writes to a register -/

/-- A start does not look at the registers. -/
theorem Node.start_registers (n : Node) (rs : Registers) (reported : Bool) (tag : Int) :
    ({ n with registers := rs } : Node).start reported tag =
      ((n.start reported tag).1, { (n.start reported tag).2 with registers := rs }) := by
  have same : ({ n with registers := rs } : Node).armedEngine = n.armedEngine := rfl
  unfold start
  rw [same]
  split
  · rfl
  split
  · rfl
  cases n.armedEngine <;> rfl

namespace Simulation

variable {s : Simulation} {h : Handle} {n : Node} {a : Address}

theorem read_of_node (node : s.node? h = some n) (a : Address) : s.read h a = n.read a := by
  rw [read, node]

theorem serve_write {writes : Nat} (node : s.node? h = some n) (takes : n.registers.Takes a (writes + 1))
    (value : Int) {bits : Nat} (width : Registers.isWidth bits = true) :
    (s.serve h (.write a value bits)).1 = .ok () ∧
      (s.serve h (.write a value bits)).2.read h a = .ok (Registers.extended value bits) ∧
      ∃ n', (s.serve h (.write a value bits)).2.node? h = some n' ∧ n'.registers.Takes a writes := by
  obtain ⟨granted, takes, reads⟩ := takes.write value width
  rw [serve_of_node node]
  have after := node?_putNode node ((n.announce (.write a value bits)).2.answer (.write a value bits)).2
  exact ⟨granted, (read_of_node after a).trans (reads _), _, after, takes⟩

end Simulation

/-! ## The writes of a start -/

namespace Station

variable {st : Station Simulation} {h : Handle} {n n' : Node} {t : Trigger} {rs rs' : Registers}

/-- Before a start there is nothing to wait for but an old delivery, and nothing ends that. -/
theorem join_of_configured (dev : Device Simulation) (configured : st.session.lifecycle = .configured) :
    ∃ stalled, st.join dev = ⟨{ st.session with stalled := stalled }, st.device⟩ := by
  have going : ¬st.session.phase.isTerminal = true := by
    rw [Session.phase, configured]
    decide
  unfold join
  cases st.session.delivery with
  | none => exact ⟨st.session.stalled, rfl⟩
  | some _ =>
    simp only [if_neg going]
    exact ⟨true, rfl⟩

/-- A start whose requests the device takes succeeds, and leaves the registers as the second write does. -/
theorem start_of_accepted (handle : st.session.handle = h) (node : st.device.node? h = some n)
    (startable : st.startTrigger = .ok t) (handler : Option (List Reaction)) (tag : Int)
    (first : st.session.writeAt t 0 n.registers = (.ok (), rs))
    (started : ({ n with registers := rs } : Node).start handler.isSome tag = (.ok (), n'))
    (second : st.session.writeAt t 1 n'.registers = (.ok (), rs')) :
    ∃ session device, st.start Simulation.device handler tag none = (.ok (), ⟨session, device⟩) ∧
      device.node? h = some { n' with registers := rs' } := by
  have configured := lifecycle_of_startTrigger startable
  obtain ⟨device, written, node⟩ := writeTrigger_simulation handle node t 0
  rw [first] at written node
  obtain ⟨stalled, joined⟩ :=
    @join_of_configured ⟨st.session, device⟩ Simulation.device configured
  unfold Station.start
  rw [startable]
  simp only [written, joined, threadFault_of_created]
  unfold launch openDelivery
  simp only [configured, Lifecycle.arm]
  let opened : Session := { st.session with
    lifecycle := .ready
    notified := handler.isSome
    delivery := handler.map fun reactions => ⟨tag, reactions, []⟩
    stalled := stalled }
  obtain ⟨device', answered, node'⟩ :=
    @line_simulation h _ ⟨opened, device⟩ handle node (.start handler.isSome tag) (by simp)
  simp only [Node.answer, started] at answered node'
  have writes : opened.writeAt t 1 n'.registers = (.ok (), rs') := second
  obtain ⟨device'', _, activated, node''⟩ | ⟨fails, _⟩ :=
    @activate_simulation h n' ⟨opened, device'⟩ handle node' t
  · rw [writes] at node''
    simp only [opened] at answered
    rw [answered]
    exact ⟨opened, device'', activated, node''⟩
  · exact absurd (congrArg Prod.fst writes) fails

/-- The writes of a start to a register that takes them. -/
theorem start_of_takes (handle : st.session.handle = h) (node : st.device.node? h = some n)
    (startable : st.startTrigger = .ok t)
    (drives : (st.session.options.armsTrigger && t.condition.readsAddress) = true)
    (width : Registers.isWidth st.session.options.triggerBits = true)
    (takes : n.registers.Takes t.address 2) (handler : Option (List Reaction)) (tag : Int)
    (accepts : (n.start handler.isSome tag).1 = .ok ()) :
    let bits := st.session.options.triggerBits
    let lowered := st.writeTrigger Simulation.device t 0
    let started := st.start Simulation.device handler tag none
    lowered.1 = .ok () ∧ lowered.2.device.read h t.address = .ok (Registers.extended t.value.toNat bits) ∧
      started.1 = .ok () ∧
      started.2.device.read h t.address = .ok (Registers.extended (t.value.toNat + 1) bits) := by
  intro bits lowered started
  have writes : ∀ (offset : Int) (rs : Registers),
      st.session.writeAt t offset rs = rs.write t.address (t.value.toNat + offset) bits :=
    fun offset rs => if_pos drives
  -- the first write, the start and the second write, each of them granted
  obtain ⟨granted, takes, low⟩ := takes.write (t.value.toNat + 0) width
  obtain ⟨device, written, node'⟩ := writeTrigger_simulation handle node t 0
  rw [writes] at written node'
  obtain ⟨granted', _, high⟩ := takes.write (t.value.toNat + 1) width
  have starts := n.start_registers (n.registers.write t.address (t.value.toNat + 0) bits).2 handler.isSome tag
  rw [accepts] at starts
  obtain ⟨session, device', result, node''⟩ := start_of_accepted handle node startable handler tag
    ((writes 0 _).trans (Prod.ext granted rfl)) starts ((writes 1 _).trans (Prod.ext granted' rfl))
  rw [show lowered = _ from written, show started = _ from result, Simulation.read_of_node node',
    Simulation.read_of_node node'']
  exact ⟨granted, (low _).trans (by rw [Int.add_zero]), rfl, high _⟩

/-- **When the writes of a start fire its trigger.** Let a value be written to a register, and then the number
above it. What is read back in between does not meet a trigger that waits for more than the value, and what is
read back behind meets it, exactly if the value is armable in the width of the writes. A start with the usual
tuning makes these writes if the device takes them and a handler gets its thread, and they fire the trigger for
every value but one. -/
theorem arming_fires_iff {s : Simulation} (node : s.node? h = some n) {a : Address}
    (takes : n.registers.Takes a 2) (value : UInt32) (previous : Int) :
    (∀ bits ∈ [8, 16, 32, 64],
      let lowered := s.serve h (.write a value.toNat bits)
      let raised := lowered.2.serve h (.write a (value.toNat + 1) bits)
      lowered.1 = .ok () ∧ raised.1 = .ok () ∧
        ∃ low high, lowered.2.read h a = .ok low ∧ raised.2.read h a = .ok high ∧
          (Condition.Arms previous low high value ↔ Condition.Armable value bits)) ∧
      ∀ (st : Station Simulation) (handler : Option (List Reaction)) (tag : Int),
        st.device = s → st.session.handle = h → st.session.options = .standard →
        st.startTrigger = .ok ⟨.greater, a, value⟩ → (s.serve h (.start handler.isSome tag)).1 = .ok () →
        let lowered := st.writeTrigger Simulation.device ⟨.greater, a, value⟩ 0
        let started := st.start Simulation.device handler tag none
        lowered.1 = .ok () ∧ started.1 = .ok () ∧
          ∃ low high, lowered.2.device.read h a = .ok low ∧ started.2.device.read h a = .ok high ∧
            (Condition.Arms previous low high value ↔ value ≠ 0x7FFFFFFF) := by
  refine ⟨fun bits supported => ?_, ?_⟩
  · have width : Registers.isWidth bits = true := List.contains_iff_mem.2 supported
    intro lowered raised
    obtain ⟨granted, low, n', node', takes'⟩ := Simulation.serve_write node takes value.toNat width
    obtain ⟨granted', high, _⟩ := Simulation.serve_write node' takes' (value.toNat + 1) width
    exact ⟨granted, granted', _, _, low, high, Condition.arms_iff previous value width⟩
  · rintro st handler tag rfl handle options startable accepts
    rw [Simulation.serve_of_node node] at accepts
    have drives : (st.session.options.armsTrigger && Condition.greater.readsAddress) = true := by
      rw [options]
      rfl
    obtain ⟨granted, low, started, high⟩ :=
      start_of_takes handle node startable drives (by rw [options]; rfl) takes handler tag accepts
    rw [options] at low high
    exact ⟨granted, started, _, _, low, high,
      (Condition.arms_iff previous value rfl).trans (Condition.armable_thirtyTwo value)⟩

/-- A sampler whose trigger waits for a reading above -2. -/
def aboveMinusTwo : Configuration :=
  { Engine.threeSamples with start := ⟨.greater, ⟨0x2400, 1⟩, 0xFFFFFFFE⟩ }

/-- The start arms the trigger with 32 bits. In 64 bits the value would not be -2, and would be above the
threshold. -/
theorem arming_of_minusTwo :
    let a : Address := ⟨0x2400, 1⟩
    let n : Node := { Node.fresh with
      registers := Registers.empty.declare a 5
      record := some aboveMinusTwo.encode
      status := ⟨.configured, none, []⟩ }
    let bound := { Session.bind ⟨0⟩ .standard with configuration := some aboveMinusTwo, lifecycle := .configured }
    let started := (⟨bound, ⟨[n]⟩⟩ : Station Simulation).start Simulation.device none 7 none
    let wide := Simulation.serve ⟨0⟩ (.write a 0xFFFFFFFE 64) ⟨[n]⟩
    started.1 = .ok () ∧
      (∃ high, started.2.device.read ⟨0⟩ a = .ok high ∧ Condition.greater.holds 0 high 0xFFFFFFFE = true) ∧
      ∃ low, wide.2.read ⟨0⟩ a = .ok low ∧ ∀ high, (wide.2.serve ⟨0⟩ (.write a 0xFFFFFFFF 64)).2.read ⟨0⟩ a =
        .ok high → ¬Condition.Arms 0 low high 0xFFFFFFFE := by
  intro a n bound started wide
  have takes : n.registers.Takes a 2 := ⟨⟨5, rfl⟩, rfl, fun _ passing => by cases passing⟩
  obtain ⟨widths, starts⟩ :=
    arming_fires_iff (s := ⟨[n]⟩) (h := ⟨0⟩) (n := n) rfl takes 0xFFFFFFFE 0
  obtain ⟨_, granted, _, high, _, reads, arms⟩ :=
    starts ⟨bound, ⟨[n]⟩⟩ none 7 rfl rfl rfl rfl (by decide +kernel)
  obtain ⟨_, _, low, high', reads', raised, arms'⟩ := widths 64 (by decide)
  refine ⟨granted, ⟨high, reads, (arms.2 (by decide)).2⟩, low, reads', fun _ again armed => ?_⟩
  obtain rfl := Except.ok.inj (raised.symm.trans again)
  exact absurd (arms'.1 armed) (by decide)

end Station

end TriggeredSampler
