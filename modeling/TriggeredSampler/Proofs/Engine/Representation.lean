import TriggeredSampler.Proofs.Engine.Edges

/-! # The representation of an engine

The rings of an engine are pushed to and drained together, so that they always hold and have dropped equally
many values. Rows wait in them only while an iteration is under way or after it was broken off, and those of a
firmware sampler never lose one.

* `Ring.InStep` — rings that were used in the same way.
* `Engine.Aligned` — what every stage of a tick keeps.
* `Engine.Regular` — what every call keeps.
* `Engine.columns_of_calls` — the rings and counters of an engine, whatever calls were made.
-/

namespace TriggeredSampler

/-- Rows may wait in the rings: the iteration is under way, or it was broken off. -/
def Phase.mayHold : Phase → Bool
  | running | failed | cancelled => true
  | _ => false

theorem Phase.mayHold_iff {p : Phase} : p.mayHold = true ↔ p = running ∨ p = failed ∨ p = cancelled := by
  cases p <;> simp [mayHold]

namespace Ring

variable {α : Type} {r other : Ring α}

/-- Two rings with the same room that hold and have dropped equally many values. -/
structure InStep (r other : Ring α) : Prop where
  capacity : r.capacity = other.capacity
  size : r.size = other.size
  dropped : r.dropped = other.dropped

theorem InStep.push (inStep : r.InStep other) (a b : α) : (r.push a).2.InStep (other.push b).2 := by
  obtain ⟨capacity, size, dropped⟩ := inStep
  have same : other.isFull = r.isFull := by
    simp only [Ring.size] at size
    rw [isFull, isFull, capacity, size]
  cases full : r.isFull with
  | true =>
    obtain ⟨_, size₁, dropped₁⟩ := push_of_isFull full a
    obtain ⟨_, size₂, dropped₂⟩ := push_of_isFull (same.trans full) b
    exact ⟨by simpa using capacity, by rw [size₁, size₂, size], by rw [dropped₁, dropped₂, dropped]⟩
  | false =>
    obtain ⟨_, size₁, dropped₁⟩ := push_of_room full a
    obtain ⟨_, size₂, dropped₂⟩ := push_of_room (same.trans full) b
    exact ⟨by simpa using capacity, by rw [size₁, size₂, size], by rw [dropped₁, dropped₂, dropped]⟩

theorem InStep.drain (inStep : r.InStep other) : r.drain.2.InStep other.drain.2 :=
  ⟨inStep.capacity, rfl, inStep.dropped⟩

end Ring

namespace Engine

variable {ρ : Type} {c : Configuration} {capacity : Nat} {quota : Option Nat} {e opened made : Engine}
  {segment : List Sampled}

/-! ## The stages of a tick -/

/-- What is known of the rings and counters at each stage of a tick. -/
structure Aligned (e : Engine) : Prop where
  inStep : ∀ ring ∈ e.columns, ∀ other ∈ e.columns, ring.InStep other
  emptied : e.phase.mayHold = false → ∀ ring ∈ e.columns, ring.size = 0
  counted : ∀ ring ∈ e.columns, ring.size ≤ e.taken
  lossless : e.quota.isSome = true → ∀ ring ∈ e.columns, ring.dropped = 0
  single : e.configuration.mode ≠ .repetitive → e.iteration = 0

theorem Aligned.prepare (c : Configuration) (capacity : Nat) (quota : Option Nat) :
    (prepare c capacity quota).Aligned := by
  -- all rings are empty ones of the same capacity
  have empty : ∀ ring ∈ (Engine.prepare c capacity quota).columns, ring = Ring.empty capacity := by
    intro ring member
    obtain ⟨_, _, same⟩ := List.mem_map.1 member
    exact same.symm
  refine ⟨?_, ?_, ?_, ?_, fun _ => rfl⟩
  · intro ring member other listed
    rw [empty ring member, empty other listed]
    exact ⟨rfl, rfl, rfl⟩
  · intro _ ring member
    rw [empty ring member]
    rfl
  · intro ring member
    rw [empty ring member]
    exact Nat.zero_le _
  · intro _ ring member
    rw [empty ring member]
    rfl

/-- A run that breaks off keeps what its rings hold. -/
theorem Aligned.fail (aligned : Aligned e) (going : e.phase.isTerminal = false) (fault : DeviceFault) :
    (e.fail fault).Aligned := by
  refine ⟨aligned.inStep, ?_, aligned.counted, aligned.lossless, aligned.single⟩
  rw [phase_fail going]
  rintro ⟨⟩

theorem Aligned.opening {now : Nat} (aligned : Aligned e) (opening : e.Opening now opened) :
    opened.Aligned := by
  cases opening with
  | idle _ => exact aligned
  | failed ready fault => exact aligned.fail (by rw [ready]; rfl) fault
  | waiting ready seen =>
    exact ⟨aligned.inStep, aligned.emptied, aligned.counted, aligned.lossless, aligned.single⟩
  | opened ready seen =>
    -- the count of samples starts anew, with empty rings
    have none : ∀ ring ∈ e.columns, ring.size = 0 := aligned.emptied (by rw [ready]; rfl)
    refine ⟨aligned.inStep, ?_, fun ring member => (none ring member).le, aligned.lossless,
      aligned.single⟩
    rw [phase_openIteration now (e := { e with startSeen := seen }) ready]
    rintro ⟨⟩

/-- Rings that were drained are empty, and have dropped what they had dropped before. -/
theorem Aligned.drained (aligned : Aligned e) {ring : Ring Reading}
    (member : ring ∈ e.columns.map fun ring => ring.drain.2) :
    ring.size = 0 ∧ (e.quota.isSome = true → ring.dropped = 0) ∧
      ∀ other ∈ e.columns.map fun ring => ring.drain.2, ring.InStep other := by
  obtain ⟨before, listed, rfl⟩ := List.mem_map.1 member
  refine ⟨rfl, fun limited => aligned.lossless limited before listed, ?_⟩
  intro other member
  obtain ⟨before', listed', rfl⟩ := List.mem_map.1 member
  exact (aligned.inStep before listed before' listed').drain

theorem Aligned.flush (aligned : Aligned e) : e.flush.Aligned := by
  rw [flush_eq]
  refine ⟨fun ring member => (aligned.drained member).2.2, fun _ ring member => (aligned.drained member).1,
    fun ring member => ?_, fun limited ring member => (aligned.drained member).2.1 limited, aligned.single⟩
  rw [(aligned.drained member).1]
  exact Nat.zero_le _

theorem Aligned.closeIteration (aligned : Aligned e) : e.closeIteration.Aligned := by
  have flushed := aligned.flush
  have empty : ∀ ring ∈ e.flush.columns, ring.size = 0 := by
    rw [flush_eq]
    exact fun ring member => (aligned.drained member).1
  unfold Engine.closeIteration
  simp only
  split
  next again =>
    have again : e.flush.configuration.mode = .repetitive := by
      rw [flush_eq]
      simpa using again
    exact ⟨flushed.inStep, fun _ => empty, flushed.counted, flushed.lossless,
      fun single => absurd again single⟩
  next => exact ⟨flushed.inStep, fun _ => empty, flushed.counted, flushed.lossless, flushed.single⟩

/-- A row goes into all rings at once, and a firmware sampler has room for it. -/
theorem Aligned.store (aligned : Aligned e) (running : e.phase = .running)
    (room : e.quota.isSome = true → ∀ ring ∈ e.columns, ring.isFull = false) (now : Nat) (values : List Int) :
    (e.store now values).Aligned := by
  -- each ring is one from before, with a value pushed
  have pushed : ∀ ring ∈ (e.store now values).columns,
      ∃ before ∈ e.columns, ∃ reading, ring = (before.push reading).2 := by
    intro ring member
    rw [Engine.store, ← List.map_uncurry_zip_eq_zipWith] at member
    obtain ⟨⟨before, value⟩, listed, rfl⟩ := List.mem_map.1 member
    exact ⟨before, (List.of_mem_zip listed).1, _, rfl⟩
  refine ⟨?_, ?_, ?_, ?_, aligned.single⟩
  · intro ring member other member'
    obtain ⟨before, listed, _, rfl⟩ := pushed ring member
    obtain ⟨before', listed', _, rfl⟩ := pushed other member'
    exact (aligned.inStep before listed before' listed').push _ _
  · intro idle
    rw [show (e.store now values).phase = e.phase from rfl, running] at idle
    cases idle
  · intro ring member
    obtain ⟨before, listed, reading, rfl⟩ := pushed ring member
    have counted := aligned.counted before listed
    have grows : (before.push reading).2.size ≤ before.size + 1 := by
      cases full : before.isFull with
      | true => exact (Ring.push_of_isFull full reading).2.1.le.trans (Nat.le_succ _)
      | false => exact (Ring.push_of_room full reading).2.1.le
    exact grows.trans (Nat.succ_le_succ counted)
  · intro limited ring member
    obtain ⟨before, listed, reading, rfl⟩ := pushed ring member
    rw [(Ring.push_of_room (room limited before listed) reading).2.2]
    exact aligned.lossless limited before listed

/-- While an iteration of a firmware sampler is under way, its rings have room for a row. -/
theorem Aligned.room (aligned : Aligned e) (sized : Sized c capacity quota)
    (collects : Collects c capacity quota segment e) (running : e.phase = .running)
    (limited : e.quota.isSome = true) : ∀ ring ∈ e.columns, ring.isFull = false := by
  intro ring member
  have software : c.software = false := by
    by_contra software
    rw [collects.limited, (sized.software (by simpa using software)).2] at limited
    cases limited
  obtain ⟨planned, fits⟩ := sized.firmware software
  have counted : ring.size ≤ e.taken := aligned.counted ring member
  have below : e.taken < _ := (collects.room _ planned running).2
  have capacity_ring := (collects.columns.keeps member).1
  simp only [Ring.size] at counted
  rw [Ring.isFull, capacity_ring, decide_eq_false_iff_not]
  omega

/-- What the rest of a tick keeps, behind the check of the start trigger. -/
theorem Aligned.advance (aligned : Aligned e) (sized : Sized c capacity quota)
    (collects : Collects c capacity quota segment e) {source : Source ρ} {now : Nat} {r : ρ} {done : Engine}
    {sampled : Bool} (advance : e.Advance source now r done sampled) : done.Aligned := by
  have stored : e.phase = .running → ∀ values, (e.store now values).Aligned := fun running values =>
    aligned.store running (aligned.room sized collects running) now values
  have seen : e.phase = .running → ∀ values seen,
      ({ e.store now values with stopSeen := seen } : Engine).Aligned := by
    intro running values seen
    obtain ⟨inStep, emptied, counted, lossless, single⟩ := stored running values
    exact ⟨inStep, emptied, counted, lossless, single⟩
  cases advance with
  | idle _ => exact aligned
  | elapsed _ _ => exact aligned.closeIteration
  | failed running fault => exact aligned.fail (isTerminal_of_running running) fault
  | full running values _ _ _ => exact (stored running values).closeIteration
  | stopped running values _ _ found => exact (seen running values found).closeIteration
  | stopFailed running values _ _ _ fault =>
    exact (stored running values).fail (isTerminal_of_running (e := e.store now values) running) fault
  | kept running values _ _ _ found => exact seen running values found

/-! ## Calls -/

/-- What is known of the rings and counters between two calls. -/
structure Regular (e : Engine) : Prop extends Aligned e where
  started : e.phase = .running → 1 ≤ e.taken

theorem Regular.of_new (accepted : new? c = .ok made) : made.Regular := by
  obtain ⟨_, capacity, quota, rfl, _⟩ := new?_eq_ok accepted
  refine ⟨.prepare c capacity quota, ?_⟩
  rintro ⟨⟩

/-- Every call keeps the representation. -/
theorem Regular.call (regular : Regular e) (reached : Reached c e) (r : ρ) (call : Call ρ) :
    (e.after r call).1.Regular := by
  obtain ⟨inStep, emptied, counted, lossless, single⟩ := regular.toAligned
  cases call with
  | tick now source =>
    obtain ⟨_, ⟨capacity, quota, segment, sized, collects⟩, _⟩ := reached
    have opening := awaitStart_opening source now e r
    obtain ⟨checked, _⟩ := collects.opening sized.planned opening
    have aligned := regular.toAligned.opening opening
    exact ⟨aligned.advance sized checked (tick_advance source now e r),
      fun running => (sampled_of_running running).2.2⟩
  | arm =>
    simp only [after]
    cases armed : e.arm with
    | error _ => exact regular
    | ok waiting =>
      obtain ⟨lifecycle, rfl⟩ := arm_eq_ok armed
      have idle : e.phase.mayHold = false := by rw [phase, lifecycle]; rfl
      refine ⟨⟨inStep, fun _ => emptied idle, counted, lossless, single⟩, ?_⟩
      rintro ⟨⟩
  | cancel =>
    simp only [after, cancel, Lifecycle.cancel]
    split
    · exact ⟨⟨inStep, emptied, counted, lossless, single⟩, regular.started⟩
    · refine ⟨⟨inStep, ?_, counted, lossless, single⟩, ?_⟩ <;> rintro ⟨⟩
  | takeData =>
    obtain ⟨inStep, emptied, counted, lossless, single⟩ := regular.toAligned.flush
    refine ⟨⟨inStep, emptied, counted, lossless, single⟩, ?_⟩
    intro running
    have same : (e.after r .takeData).1.taken = e.taken := taken_flush e
    rw [same]
    exact regular.started ((phase_flush e).symm.trans running)

theorem Regular.afterAll (regular : Regular e) (reached : Reached c e) (r : ρ) (calls : List (Call ρ)) :
    (e.afterAll r calls).1.Regular := by
  induction calls generalizing e r with
  | nil => exact regular
  | cons call rest ih => exact ih (regular.call reached r call) (reached.call r call) _

/-- **The representation is kept.** Whatever calls are made, there is a ring for each address, and the rings
hold and have dropped equally many values. Only an iteration that is under way or was broken off leaves values in
them. The rings of a firmware sampler have room for the quota, hold no more than was sampled in the iteration
and have dropped nothing; an iteration that is under way has at least one sample, and fewer than the quota. Only
a repetitive sampler gets beyond iteration 0. -/
theorem columns_of_calls (accepted : new? c = .ok made) (r : ρ) (calls : List (Call ρ)) :
    let e := (made.afterAll r calls).1
    e.columns.length = c.tracked.length ∧ 0 < e.columns.length ∧
      (∀ ring ∈ e.columns, ∀ other ∈ e.columns, ring.size = other.size ∧ ring.dropped = other.dropped) ∧
      ((∃ ring ∈ e.columns, ring.size ≠ 0) →
        e.phase = .running ∨ e.phase = .failed ∨ e.phase = .cancelled) ∧
      (c.software = false → ∃ quota, e.quota = some quota ∧
        (∀ ring ∈ e.columns, quota ≤ ring.capacity ∧ ring.size ≤ e.taken ∧ ring.dropped = 0) ∧
        (e.phase = .running → 1 ≤ e.taken ∧ e.taken < quota)) ∧
      (c.mode ≠ .repetitive → e.iteration = 0) := by
  have reached := (Reached.of_new accepted).afterAll r calls
  have regular := (Regular.of_new accepted).afterAll (.of_new accepted) r calls
  intro e
  obtain ⟨width, ⟨capacity, quota, segment, sized, collects⟩, _⟩ := reached
  have length : e.columns.length = c.tracked.length := collects.columns.length_eq
  refine ⟨length, width.trans_eq length.symm, ?_, ?_, ?_, ?_⟩
  · intro ring member other listed
    exact ⟨(regular.inStep ring member other listed).size, (regular.inStep ring member other listed).dropped⟩
  · rintro ⟨ring, member, some⟩
    rw [← Phase.mayHold_iff]
    by_contra idle
    exact some (regular.emptied (by simpa using idle) ring member)
  · intro firmware
    obtain ⟨planned, fits⟩ := sized.firmware firmware
    have limited : e.quota = some _ := collects.limited.trans planned
    refine ⟨_, limited, fun ring member => ⟨?_, regular.counted ring member, ?_⟩, fun running =>
      ⟨regular.started running, (collects.room _ planned running).2⟩⟩
    · rwa [(collects.columns.keeps member).1]
    · exact regular.lossless (by rw [limited]; rfl) ring member
  · intro single
    exact regular.single (by rwa [collects.configured])

/-- A firmware sampler of two addresses with three samples in an iteration. -/
def twoAddresses : Configuration := { threeSamples with tracked := [⟨0x2000, 0⟩, ⟨0x2001, 0⟩] }

/-- Behind the second of the three samples; the first one was taken out of the rings. -/
theorem columns_of_twoAddresses :
    let counter : Source Int := fun _ r => (.ok r, r + 1)
    let calls : List (Call Int) := [.arm, .tick 0 counter, .takeData, .tick 10 counter]
    let made := prepare twoAddresses 254 (some 3)
    let e := (made.afterAll 7 calls).1
    new? twoAddresses = .ok made ∧ e.phase = .running ∧ e.quota = some 3 ∧
      e.columns.map Ring.toList = [[⟨9, 10⟩], [⟨10, 10⟩]] ∧
      (∀ ring ∈ e.columns, ∀ other ∈ e.columns, ring.size = other.size ∧ ring.dropped = other.dropped) ∧
      (e.phase = .running ∨ e.phase = .failed ∨ e.phase = .cancelled) ∧
      (∀ ring ∈ e.columns, 3 ≤ ring.capacity ∧ ring.size ≤ e.taken ∧ ring.dropped = 0) ∧
      1 ≤ e.taken ∧ e.taken < 3 ∧ e.iteration = 0 := by
  intro counter calls made e
  have accepted : new? twoAddresses = .ok made := rfl
  have running : e.phase = .running := by decide
  obtain ⟨_, _, inStep, holds, firmware, single⟩ := columns_of_calls accepted 7 calls
  obtain ⟨quota, limited, rings, below⟩ := firmware rfl
  obtain rfl : quota = 3 := Option.some.inj (limited.symm.trans (by decide))
  obtain ⟨some, room⟩ := below running
  exact ⟨accepted, running, limited, by decide, inStep, holds (by decide), rings, some, room,
    single (by decide)⟩

end Engine

end TriggeredSampler
