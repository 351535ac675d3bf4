import TriggeredSampler.Proofs.Engine.Shape

/-! # The order of the reads

A tick reads its addresses in a fixed order, and stops at the first read that fails.

* `Answers` — addresses that are read in order, up to the first fault.
* `Engine.plannedReads` — what a tick reads if nothing ends it early.
* `Engine.Outcome`, `Engine.tick_outcome` — what a tick reads of it, and what a fault makes of the engine.
-/

namespace TriggeredSampler

/-- Addresses that are read in order, up to the first read that fails. -/
inductive Answers : List Address → Reads → Option DeviceFault → Prop
  | nil : Answers [] [] none
  | failed (a : Address) (rest : List Address) (fault : DeviceFault) :
      Answers (a :: rest) [(a, .error fault)] (some fault)
  | cons (a : Address) (value : Int) {rest : List Address} {reads : Reads} {fault : Option DeviceFault}
      (others : Answers rest reads fault) : Answers (a :: rest) ((a, .ok value) :: reads) fault

namespace Answers

variable {addresses more : List Address} {reads others : Reads} {fault : Option DeviceFault}

theorem isPrefix (answers : Answers addresses reads fault) : reads.map Prod.fst <+: addresses := by
  induction answers with
  | nil => exact List.prefix_refl []
  | failed a rest fault => exact ⟨rest, rfl⟩
  | cons a value _ ih => exact (List.prefix_cons_inj a).2 ih

theorem length_le (answers : Answers addresses reads fault) : reads.length ≤ addresses.length := by
  have length := answers.isPrefix.length_le
  rwa [List.length_map] at length

/-- Every read but the last one was answered with a value. -/
theorem of_mem_dropLast (answers : Answers addresses reads fault) :
    ∀ read ∈ reads.dropLast, ∃ value, read.2 = .ok value := by
  induction answers with
  | nil => simp
  | failed a rest fault => simp
  | @cons a value rest reads fault others ih =>
    cases reads with
    | nil => simp
    | cons first reads =>
      rw [List.dropLast_cons_cons, List.forall_mem_cons]
      exact ⟨⟨value, rfl⟩, ih⟩

theorem fault_of_mem (answers : Answers addresses reads fault) {a : Address} {cause : DeviceFault}
    (member : (a, .error cause) ∈ reads) : fault = some cause := by
  induction answers with
  | nil => cases member
  | failed b rest fault =>
    cases List.mem_singleton.1 member
    rfl
  | cons b value _ ih =>
    cases member with
    | tail _ member => exact ih member

theorem append (answers : Answers addresses reads none) (next : Answers more others fault) :
    Answers (addresses ++ more) (reads ++ others) fault := by
  generalize missing : (none : Option DeviceFault) = before at answers
  induction answers with
  | nil => exact next
  | failed a rest fault => cases missing
  | cons a value _ ih => exact .cons a value (ih missing)

theorem zip {values : List Int} (count : values.length = addresses.length) :
    Answers addresses (addresses.zip (values.map .ok)) none := by
  induction addresses generalizing values with
  | nil => exact .nil
  | cons a rest ih =>
    cases values with
    | nil => cases count
    | cons value values => exact .cons a value (ih (Nat.succ.inj count))

end Answers

/-- The address that a check of the trigger reads, if it reads one. -/
def Trigger.addresses (t : Trigger) : List Address :=
  if t.condition.readsAddress then [t.address] else []

namespace Source

variable {ρ : Type} (source : Source ρ)

theorem answers_of_check {t : Trigger} {seen : Option Int} {r next : ρ} {found : Check}
    (ok : source.check t seen r = (.ok found, next)) :
    Answers t.addresses (source.readsOfCheck t r) none := by
  unfold check at ok
  unfold readsOfCheck Trigger.addresses
  split at ok
  next reads =>
    rw [if_pos reads, if_pos reads]
    rcases answered : source t.address r with ⟨fault | value, _⟩ <;> rw [answered] at ok
    · cases ok
    · exact .cons t.address value .nil
  next constant =>
    rw [if_neg constant, if_neg constant]
    exact .nil

theorem readsOfCheck_of_error {t : Trigger} {seen : Option Int} {r next : ρ} {fault : DeviceFault}
    (failed : source.check t seen r = (.error fault, next)) :
    t.addresses = [t.address] ∧ source.readsOfCheck t r = [(t.address, .error fault)] := by
  unfold check at failed
  unfold readsOfCheck Trigger.addresses
  split at failed
  next reads =>
    rw [if_pos reads, if_pos reads]
    rcases answered : source t.address r with ⟨cause | value, _⟩ <;> rw [answered] at failed <;> cases failed
    exact ⟨rfl, rfl⟩
  next => cases failed

theorem answers_of_readAll {addresses : List Address} {r next : ρ} {values : List Int}
    (ok : source.readAll addresses r = (.ok values, next)) :
    Answers addresses (source.readsOfAll addresses r) none := by
  obtain ⟨count, reads⟩ := source.readsOfAll_of_ok ok
  rw [reads]
  exact .zip count

theorem answers_of_readAll_error {addresses : List Address} {r next : ρ} {fault : DeviceFault}
    (failed : source.readAll addresses r = (.error fault, next)) :
    Answers addresses (source.readsOfAll addresses r) (some fault) := by
  induction addresses generalizing r with
  | nil => cases failed
  | cons a rest ih =>
    unfold readAll at failed
    unfold readsOfAll
    rcases answered : source a r with ⟨cause | value, r'⟩ <;> rw [answered] at failed
    · cases failed
      exact .failed a rest fault
    · simp only at failed ⊢
      rcases tail : source.readAll rest r' with ⟨cause | values, _⟩ <;> rw [tail] at failed <;> cases failed
      exact .cons a value (ih tail)

end Source

namespace Engine

variable {ρ : Type} (source : Source ρ) (now : Nat) {e opened : Engine}

/-! ## The reads of a tick -/

/-- The next row completes the quota. A waiting engine has no row of its iteration yet. -/
def lastRow (e : Engine) : Bool :=
  match e.quota with
  | none => false
  | some quota => quota ≤ (if e.phase = .ready then 0 else e.taken) + 1

/-- The address that a waiting engine reads first. -/
def leadingAddresses (e : Engine) : List Address :=
  if e.phase = .ready then e.configuration.start.addresses else []

/-- What a tick reads if nothing ends it early: the address of the start trigger if the engine waits, the
tracked addresses, and the address of the stop trigger if there is room for another row. -/
def plannedReads (e : Engine) : List Address :=
  e.leadingAddresses ++ e.configuration.tracked ++ if e.lastRow then [] else e.configuration.stop.addresses

theorem leadingAddresses_of_ne (busy : e.phase ≠ .ready) : e.leadingAddresses = [] := if_neg busy

theorem length_leadingAddresses (e : Engine) : e.leadingAddresses.length = e.leadingReads := by
  unfold leadingAddresses leadingReads Trigger.addresses
  by_cases ready : e.phase = .ready <;>
    by_cases address : e.configuration.start.condition.readsAddress <;> simp [ready, address]

theorem quotaReached_store (running : e.phase = .running) (values : List Int) :
    (e.store now values).quotaReached = e.lastRow := by
  unfold quotaReached lastRow
  rw [if_neg (by rw [running]; decide)]
  rfl

theorem Opening.lastRow (opening : e.Opening now opened) (running : opened.phase = .running) :
    opened.lastRow = e.lastRow := by
  cases opening with
  | idle _ => rfl
  | failed ready fault =>
    rw [phase_fail (by rw [ready]; rfl)] at running
    cases running
  | waiting ready seen =>
    change e.phase = .running at running
    rw [ready] at running
    cases running
  | opened ready seen =>
    unfold Engine.lastRow
    rw [if_neg (by rw [running]; decide), if_pos ready]
    rfl

/-- What the reads of a tick make of an engine. -/
inductive Outcome (e : Engine) : Reads → Engine → Prop
  /-- Every read was answered. -/
  | answered {addresses : List Address} (planned : addresses <+: e.plannedReads) {reads : Reads}
      (answers : Answers addresses reads none) (done : Engine) : Outcome e reads done
  /-- A read failed before the row was complete. -/
  | early {opened : Engine} (opening : e.Opening now opened) (going : opened.phase.isActive = true)
      {addresses : List Address} (planned : addresses <+: e.plannedReads) {reads : Reads} {fault : DeviceFault}
      (answers : Answers addresses reads (some fault))
      (short : reads.length ≤ (e.leadingAddresses ++ e.configuration.tracked).length) :
      Outcome e reads (opened.fail fault)
  /-- The read for the stop trigger failed, behind the row. -/
  | late {opened : Engine} (opening : e.Opening now opened) (running : opened.phase = .running)
      {start : Reads} (leading : start.length = e.leadingAddresses.length) {values : List Int}
      (count : values.length = e.configuration.tracked.length) {fault : DeviceFault}
      (answers : Answers e.plannedReads (start ++ (e.configuration.tracked.zip (values.map .ok) ++
        [(e.configuration.stop.address, .error fault)])) (some fault)) :
      Outcome e (start ++ (e.configuration.tracked.zip (values.map .ok) ++
        [(e.configuration.stop.address, .error fault)])) ((opened.store now values).fail fault)

theorem Outcome.answers {reads : Reads} {done : Engine} (outcome : e.Outcome now reads done) :
    ∃ addresses fault, addresses <+: e.plannedReads ∧ Answers addresses reads fault := by
  cases outcome with
  | answered planned answers _ => exact ⟨_, none, planned, answers⟩
  | early _ _ planned answers _ => exact ⟨_, _, planned, answers⟩
  | late _ _ _ _ answers => exact ⟨_, _, List.prefix_refl _, answers⟩

/-- A row is read, and the stop trigger is checked if there is room for another row. -/
theorem sample_outcome (running : e.phase = .running) (r : ρ) :
    e.Outcome now (e.readsOfSample source now r) (e.sample source now r).engine := by
  have busy : e.phase ≠ .ready := by
    rw [running]
    decide
  have noStart := leadingAddresses_of_ne busy
  have planned : e.plannedReads =
      e.configuration.tracked ++ if e.lastRow then [] else e.configuration.stop.addresses := by
    rw [plannedReads, noStart, List.nil_append]
  have begins : e.configuration.tracked <+: e.plannedReads := by
    rw [planned]
    exact List.prefix_append _ _
  unfold readsOfSample sample
  rcases read : source.readAll e.configuration.tracked r with ⟨fault | values, next⟩
  · have row := source.answers_of_readAll_error read
    simp only [List.append_nil]
    refine .early (.idle busy) ?_ begins row ?_
    · rw [running]
      rfl
    · rw [noStart]
      exact row.length_le
  · have row := source.answers_of_readAll read
    simp only
    rw [quotaReached_store now running]
    by_cases last : e.lastRow = true
    · rw [if_pos last, if_pos last, List.append_nil]
      exact .answered begins row _
    rw [if_neg last, if_neg last]
    rw [if_neg last] at planned
    unfold readsOfStop checkStop
    by_cases set : (e.store now values).configuration.stop.isSet = true
    · rw [if_pos set, if_pos set]
      rcases check : source.check (e.store now values).configuration.stop (e.store now values).stopSeen next
        with ⟨fault | found, _⟩
      · obtain ⟨address, failed⟩ := source.readsOfCheck_of_error check
        obtain ⟨count, all⟩ := source.readsOfAll_of_ok read
        have stop : e.configuration.stop.addresses = [e.configuration.stop.address] := address
        have answers := row.append (.failed e.configuration.stop.address [] fault)
        rw [← stop, ← planned, all] at answers
        rw [failed, all]
        have leading : ([] : Reads).length = e.leadingAddresses.length := by
          rw [noStart, List.length_nil, List.length_nil]
        exact .late (.idle busy) running leading count answers
      · have answers := row.append (source.answers_of_check check)
        refine .answered ?_ answers _
        rw [planned]
        exact List.prefix_refl _
    · rw [if_neg set, if_neg set, List.append_nil]
      exact .answered begins row _

/-- The check of the start trigger fails the engine, or its read was answered. -/
theorem awaitStart_answers (e : Engine) (r : ρ) :
    (∃ fault, e.phase = .ready ∧ (e.awaitStart source now r).1 = e.fail fault ∧
        Answers e.leadingAddresses (e.readsOfStart source r) (some fault)) ∨
      Answers e.leadingAddresses (e.readsOfStart source r) none := by
  unfold awaitStart readsOfStart leadingAddresses
  split
  next ready =>
    rcases check : source.check e.configuration.start e.startSeen r with ⟨fault | found, _⟩
    · obtain ⟨address, failed⟩ := source.readsOfCheck_of_error check
      rw [failed, address]
      exact .inl ⟨fault, ready, rfl, .failed _ [] fault⟩
    · exact .inr (source.answers_of_check check)
  next => exact .inr .nil

/-- A running engine does not check its start trigger. -/
theorem Opening.eq_of_running {opened' : Engine} (opening : opened.Opening now opened')
    (running : opened.phase = .running) : opened' = opened := by
  cases opening with
  | idle _ => rfl
  | failed ready _ | waiting ready _ | opened ready _ =>
    rw [running] at ready
    cases ready

theorem Opening.plannedReads (opening : e.Opening now opened) (running : opened.phase = .running) :
    e.plannedReads = e.leadingAddresses ++ opened.plannedReads := by
  have busy : opened.phase ≠ .ready := by
    rw [running]
    decide
  rw [Engine.plannedReads, Engine.plannedReads, leadingAddresses_of_ne busy, opening.lastRow now running,
    opening.configuration, List.nil_append, List.append_assoc]

/-- The reads behind the check of the start trigger, and that check before them. -/
theorem Outcome.prepend {start reads : Reads} {done : Engine} (opening : e.Opening now opened)
    (running : opened.phase = .running) (leading : start.length = e.leadingAddresses.length)
    (first : Answers e.leadingAddresses start none) (outcome : opened.Outcome now reads done) :
    e.Outcome now (start ++ reads) done := by
  have busy : opened.phase ≠ .ready := by
    rw [running]
    decide
  have planned := opening.plannedReads now running
  have configuration := opening.configuration
  cases outcome with
  | answered within answers done =>
    refine .answered ?_ (first.append answers) done
    rw [planned]
    exact (List.prefix_append_right_inj _).2 within
  | early idle going within answers short =>
    obtain rfl := idle.eq_of_running now running
    refine .early opening going ?_ (first.append answers) ?_
    · rw [planned]
      exact (List.prefix_append_right_inj _).2 within
    · rw [leadingAddresses_of_ne busy, configuration] at short
      rw [List.length_append, List.length_append, leading]
      exact Nat.add_le_add_left short _
  | late idle still none count answers =>
    obtain rfl := idle.eq_of_running now running
    have all := first.append answers
    obtain rfl : _ = [] := List.length_eq_zero_iff.1 (none.trans (leadingAddresses_of_ne busy ▸ rfl))
    rw [List.nil_append] at all ⊢
    rw [← planned, configuration] at all
    rw [configuration] at count ⊢
    exact .late opening running leading count all

/-- Every tick reads along its plan. -/
theorem tick_outcome (e : Engine) (r : ρ) :
    e.Outcome now (e.reads source now r) (e.tick source now r).engine := by
  have leading := (length_readsOfStart source e r).trans e.length_leadingAddresses.symm
  have begins : e.leadingAddresses <+: e.plannedReads := by
    rw [plannedReads, List.append_assoc]
    exact List.prefix_append _ _
  rw [reads_eq]
  unfold tick
  simp only
  rcases awaitStart_answers source now e r with ⟨fault, ready, failed, answers⟩ | answers
  · have broken : (e.fail fault).phase ≠ .running := by
      rw [phase_fail (by rw [ready]; rfl)]
      decide
    rw [failed, if_pos broken, if_pos broken, List.append_nil]
    refine .early (.waiting ready e.startSeen) ?_ begins answers ?_
    · show e.phase.isActive = true
      rw [ready]
      rfl
    · rw [leading, List.length_append]
      exact Nat.le_add_right _ _
  · by_cases running : (e.awaitStart source now r).1.phase = .running
    · have going : ¬(e.awaitStart source now r).1.phase ≠ .running := fun still => still running
      rw [if_neg going, if_neg going]
      by_cases elapsed : (e.awaitStart source now r).1.durationOver now = true
      · rw [if_pos elapsed, if_pos elapsed, List.append_nil]
        exact .answered begins answers _
      · rw [if_neg elapsed, if_neg elapsed]
        exact (sample_outcome source now running _).prepend now (awaitStart_opening source now e r) running
          leading answers
    · rw [if_pos running, if_pos running, List.append_nil]
      exact .answered begins answers _

end Engine

end TriggeredSampler
