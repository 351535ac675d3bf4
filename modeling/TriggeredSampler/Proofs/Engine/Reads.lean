import TriggeredSampler.Engine.Tick

/-! # The reads of a tick

`Source.logged` writes down every read that goes through it, with its answer. An engine ticks on it as
on the source itself, so the log tells what the tick read.

* `Engine.reads` — the reads of a tick, in order.
* `Engine.tick_logged` — logging changes nothing.
* `Engine.reads_eq` — the start trigger is read first, then the row, then the stop trigger.
-/

namespace TriggeredSampler

/-- Addresses with what was answered when they were read. -/
abbrev Reads := List (Address × Except DeviceFault Int)

namespace Source

variable {ρ : Type} (source : Source ρ)

/-- The source with a log of its reads. -/
def logged : Source (ρ × Reads) := fun a state =>
  ((source a state.1).1, (source a state.1).2, state.2 ++ [(a, (source a state.1).1)])

/-- The reads of checking a trigger. -/
def readsOfCheck (t : Trigger) (r : ρ) : Reads :=
  if t.condition.readsAddress then [(t.address, (source t.address r).1)] else []

/-- The reads of reading several addresses. -/
def readsOfAll : List Address → ρ → Reads
  | [], _ => []
  | a :: rest, r =>
    match source a r with
    | (.error fault, _) => [(a, .error fault)]
    | (.ok value, r) => (a, .ok value) :: readsOfAll rest r

theorem check_logged (t : Trigger) (seen : Option Int) (r : ρ) (log : Reads) :
    source.logged.check t seen (r, log) =
      ((source.check t seen r).1, (source.check t seen r).2, log ++ source.readsOfCheck t r) := by
  unfold check readsOfCheck logged
  split
  next reads => rcases source t.address r with ⟨_ | _, _⟩ <;> rfl
  next => simp

theorem readAll_logged (addresses : List Address) (r : ρ) (log : Reads) :
    source.logged.readAll addresses (r, log) =
      ((source.readAll addresses r).1, (source.readAll addresses r).2,
        log ++ source.readsOfAll addresses r) := by
  induction addresses generalizing r log with
  | nil => simp [readAll, readsOfAll]
  | cons a rest ih =>
    unfold readAll readsOfAll
    simp only [logged]
    rcases answered : source a r with ⟨fault | value, next⟩
    · rfl
    -- a read that fails is the last one
    · have step := ih next (log ++ [(a, .ok value)])
      simp only at step ⊢
      rw [step]
      rcases source.readAll rest next with ⟨_ | _, _⟩ <;> simp

/-- If no read failed, every address was read and answered with its value. -/
theorem readsOfAll_of_ok {addresses : List Address} {r next : ρ} {values : List Int}
    (ok : source.readAll addresses r = (.ok values, next)) :
    values.length = addresses.length ∧
      source.readsOfAll addresses r = addresses.zip (values.map .ok) := by
  induction addresses generalizing r values with
  | nil =>
    simp only [readAll, Prod.mk.injEq, Except.ok.injEq] at ok
    simp [readsOfAll, ← ok.1]
  | cons a rest ih =>
    unfold readAll at ok
    unfold readsOfAll
    rcases answered : source a r with ⟨result, r'⟩
    cases result with
    | error fault => simp [answered] at ok
    | ok value =>
      rcases others : source.readAll rest r' with ⟨result, r''⟩
      cases result with
      | error fault => simp [answered, others] at ok
      | ok more =>
        simp only [answered, others, Prod.mk.injEq, Except.ok.injEq] at ok
        obtain ⟨rfl, rfl⟩ := ok
        obtain ⟨length, reads⟩ := ih others
        simp [length, reads]

end Source

namespace Engine

variable {ρ : Type} (source : Source ρ) (now : Nat)

/-- The reads of a tick, in order. -/
def reads (e : Engine) (r : ρ) : Reads :=
  (e.tick source.logged now (r, [])).source.2

/-- The reads of checking the start trigger, if the engine waits for it. -/
def readsOfStart (e : Engine) (r : ρ) : Reads :=
  if e.phase = .ready then source.readsOfCheck e.configuration.start r else []

/-- The reads of checking the stop trigger, if there is one. -/
def readsOfStop (e : Engine) (r : ρ) : Reads :=
  if e.configuration.stop.isSet then source.readsOfCheck e.configuration.stop r else []

/-- The reads of a row and of the check behind it. -/
def readsOfSample (e : Engine) (r : ρ) : Reads :=
  source.readsOfAll e.configuration.tracked r ++
    match source.readAll e.configuration.tracked r with
    | (.error _, _) => []
    | (.ok values, r) =>
      if (e.store now values).quotaReached then [] else (e.store now values).readsOfStop source r

theorem awaitStart_logged (e : Engine) (r : ρ) (log : Reads) :
    e.awaitStart source.logged now (r, log) =
      ((e.awaitStart source now r).1, (e.awaitStart source now r).2,
        log ++ e.readsOfStart source r) := by
  unfold awaitStart readsOfStart
  split
  next =>
    rw [source.check_logged]
    obtain ⟨result, _⟩ := source.check e.configuration.start e.startSeen r
    cases result with
    | error _ => rfl
    | ok check => by_cases met : check.met <;> simp [met]
  next => simp

theorem checkStop_logged (e : Engine) (r : ρ) (log : Reads) :
    e.checkStop source.logged (r, log) =
      ((e.checkStop source r).1, (e.checkStop source r).2, log ++ e.readsOfStop source r) := by
  unfold checkStop readsOfStop
  split
  next =>
    rw [source.check_logged]
    obtain ⟨result, _⟩ := source.check e.configuration.stop e.stopSeen r
    cases result with
    | error _ => rfl
    | ok check => by_cases met : check.met <;> simp [met]
  next => simp

theorem sample_logged (e : Engine) (r : ρ) (log : Reads) :
    e.sample source.logged now (r, log) =
      ⟨(e.sample source now r).engine, (e.sample source now r).sampled,
        (e.sample source now r).source, log ++ e.readsOfSample source now r⟩ := by
  unfold sample readsOfSample
  rw [source.readAll_logged]
  obtain ⟨result, next⟩ := source.readAll e.configuration.tracked r
  cases result with
  | error _ => simp
  | ok values =>
    simp only
    split
    next => simp
    next => simp [checkStop_logged]

/-- A tick on the logged source is the tick on the source, and writes its reads behind the log. -/
theorem tick_logged (e : Engine) (r : ρ) (log : Reads) :
    e.tick source.logged now (r, log) =
      ⟨(e.tick source now r).engine, (e.tick source now r).sampled, (e.tick source now r).source,
        log ++ e.reads source now r⟩ := by
  unfold reads tick
  simp only [awaitStart_logged]
  split
  next => simp
  next =>
    split
    next => simp
    next => simp [sample_logged]

theorem reads_eq (e : Engine) (r : ρ) :
    e.reads source now r = e.readsOfStart source r ++
      if (e.awaitStart source now r).1.phase ≠ .running then []
      else if (e.awaitStart source now r).1.durationOver now then []
      else (e.awaitStart source now r).1.readsOfSample source now (e.awaitStart source now r).2 := by
  unfold reads tick
  simp only [awaitStart_logged, List.nil_append]
  split
  next => simp
  next =>
    split
    next => simp
    next => simp [sample_logged]

/-- The number of reads that a tick makes before it reads a row. -/
def leadingReads (e : Engine) : Nat :=
  if e.phase = .ready ∧ e.configuration.start.condition.readsAddress then 1 else 0

theorem length_readsOfStart (e : Engine) (r : ρ) :
    (e.readsOfStart source r).length = e.leadingReads := by
  unfold readsOfStart leadingReads Source.readsOfCheck
  by_cases ready : e.phase = .ready <;>
    by_cases address : e.configuration.start.condition.readsAddress <;> simp [ready, address]

end Engine

end TriggeredSampler
