import Mathlib.Data.List.Induction
import TriggeredSampler.Proofs.Lifecycle
import TriggeredSampler.Proofs.Lifecycle.Machine

/-! # Calls of a lifecycle

A lifecycle lives through a sequence of calls, each of which answers and leaves the lifecycle for the
next one.

* `Lifecycle.Call`, `Lifecycle.perform` — a call with its arguments, and what it answers and leaves.
* `Lifecycle.events` — the calls of a sequence, each with the lifecycle before and behind it.
* `Lifecycle.run_machine` — a machine of two fields answers the same and goes the same way.
* `Lifecycle.events_end_once` — a run is over once, it stays over until a configuration is accepted,
  and it began by an accepted `arm`.
-/

namespace TriggeredSampler

/-- Phases of a run that was armed and not ended from outside. -/
def Phase.isArmed : Phase → Bool
  | ready | running | completed => true
  | _ => false

namespace Lifecycle

variable {ε : Type} {l : Lifecycle ε}

/-- An operation of a lifecycle with its arguments. -/
inductive Call (ε : Type) where
  | configure
  | arm
  | fire
  | finish (again : Bool)
  | cancel
  | fail (cause : ε)
  | follow (reported : Phase)
deriving DecidableEq

/-- What a call answers. -/
inductive Answer where
  /-- The request was accepted. -/
  | accepted
  /-- The request was refused. -/
  | refused (misuse : Misuse)
  /-- Whether the event took effect. -/
  | told (effective : Bool)
  /-- The phase that was reported cannot be reached. -/
  | unreachable (reported : Phase)
deriving DecidableEq

/-- The answer is an error. -/
def Answer.isError : Answer → Bool
  | refused _ | unreachable _ => true
  | accepted | told _ => false

/-- A request that is refused leaves the lifecycle as it is. -/
def request (l : Lifecycle ε) (outcome : Except Misuse (Lifecycle ε)) : Answer × Lifecycle ε :=
  match outcome with
  | .ok l' => (.accepted, l')
  | .error misuse => (.refused misuse, l)

/-- Makes a call. -/
def perform (l : Lifecycle ε) (call : Call ε) : Answer × Lifecycle ε :=
  match call with
  | .configure => l.request l.configure
  | .arm => l.request l.arm
  | .fire => (.told l.fire.1, l.fire.2)
  | .finish again => (.told (l.finish again).1, (l.finish again).2)
  | .cancel => (.told l.cancel.1, l.cancel.2)
  | .fail cause => (.told (l.fail cause).1, (l.fail cause).2)
  | .follow reported =>
    match l.follow reported with
    | .ok (changed, l') => (.told changed, l')
    | .error reported => (.unreachable reported, l)

/-- What a call answers that changes nothing because the run is over. A `configure` is never such a
call. -/
def Call.late : Call ε → Answer
  | .arm => .refused .notConfigured
  | _ => .told false

/-- The lifecycle that is left by a sequence of calls. -/
def run (l : Lifecycle ε) (calls : List (Call ε)) : Lifecycle ε :=
  calls.foldl (fun l call => (l.perform call).2) l

/-- A call that was made: the lifecycle it met, what it answered and the lifecycle it left. -/
structure Event (ε : Type) where
  before : Lifecycle ε
  call : Call ε
  answer : Answer
  after : Lifecycle ε
deriving DecidableEq

namespace Event

/-- What happens when a lifecycle takes a call. -/
def of (l : Lifecycle ε) (call : Call ε) : Event ε :=
  ⟨l, call, (l.perform call).1, (l.perform call).2⟩

/-- A configuration was accepted. -/
def configures (e : Event ε) : Bool :=
  match e.call with
  | .configure => e.answer == .accepted
  | _ => false

/-- The run was armed. -/
def arms (e : Event ε) : Bool :=
  match e.call with
  | .arm => e.answer == .accepted
  | _ => false

/-- The call took the lifecycle to its end. -/
def ends (e : Event ε) : Bool := !e.before.phase.isTerminal && e.after.phase.isTerminal

/-- A `cancel` or a `fail` that took effect. -/
def stops (e : Event ε) : Bool :=
  match e.call with
  | .cancel | .fail _ => e.answer == .told true
  | _ => false

end Event

/-- The calls of a sequence as they go. -/
def events (l : Lifecycle ε) : List (Call ε) → List (Event ε)
  | [] => []
  | call :: calls => .of l call :: (l.perform call).2.events calls

@[simp] theorem run_nil : l.run [] = l := rfl

@[simp] theorem run_cons (call : Call ε) (calls : List (Call ε)) :
    l.run (call :: calls) = (l.perform call).2.run calls := rfl

theorem run_append (l : Lifecycle ε) (calls further : List (Call ε)) :
    l.run (calls ++ further) = (l.run calls).run further :=
  List.foldl_append

/-- The events are those of the first calls, followed by those of the others. -/
theorem events_append (l : Lifecycle ε) (calls further : List (Call ε)) :
    l.events (calls ++ further) = l.events calls ++ (l.run calls).events further := by
  induction calls generalizing l with
  | nil => rfl
  | cons call calls ih => simp only [List.cons_append, events, run_cons, ih]

@[simp] theorem length_events (l : Lifecycle ε) (calls : List (Call ε)) :
    (l.events calls).length = calls.length := by
  induction calls generalizing l with
  | nil => rfl
  | cons call calls ih => simp [events, ih]

/-- The first and the other events are those of the first and the other calls. -/
theorem events_eq_append {calls : List (Call ε)} {earlier later : List (Event ε)}
    (events : l.events calls = earlier ++ later) :
    ∃ first rest, earlier = l.events first ∧ later = (l.run first).events rest := by
  refine ⟨calls.take earlier.length, calls.drop earlier.length, ?_⟩
  have length : earlier.length ≤ calls.length := by
    rw [← length_events l calls, events, List.length_append]
    omega
  rw [← List.take_append_drop earlier.length calls, events_append] at events
  have parts := List.append_inj events (by simp [length])
  exact ⟨parts.1.symm, parts.2.symm⟩

theorem eq_of_of_mem_events {calls : List (Call ε)} {e : Event ε} (mem : e ∈ l.events calls) :
    e = .of e.before e.call := by
  induction calls generalizing l with
  | nil => cases mem
  | cons call calls ih =>
    obtain rfl | mem := List.mem_cons.1 mem
    · rfl
    · exact ih mem

/-! ## Two fields -/

end Lifecycle

namespace Machine

open Lifecycle (Answer Call)

variable {ε : Type}

/-- A request that is refused leaves the machine as it is. -/
def request (m : Machine ε) (outcome : Except Misuse (Machine ε)) : Answer × Machine ε :=
  match outcome with
  | .ok m' => (.accepted, m')
  | .error misuse => (.refused misuse, m)

/-- Makes a call. -/
def perform (m : Machine ε) (call : Call ε) : Answer × Machine ε :=
  match call with
  | .configure => m.request m.configure
  | .arm => m.request m.arm
  | .fire => m.fire.map .told id
  | .finish again => (m.finish again).map .told id
  | .cancel => m.cancel.map .told id
  | .fail cause => (m.fail cause).map .told id
  | .follow reported =>
    match m.follow reported with
    | .ok (changed, m') => (.told changed, m')
    | .error reported => (.unreachable reported, m)

/-- Makes some calls: what they answer, and the machine that they leave. -/
def run (m : Machine ε) : List (Call ε) → List Answer × Machine ε
  | [] => ([], m)
  | call :: calls =>
    let (answer, m) := m.perform call
    let (answers, m) := m.run calls
    (answer :: answers, m)

end Machine

namespace Lifecycle

variable {ε : Type} {l : Lifecycle ε}

theorem request_machine (outcome : Except Misuse (Lifecycle ε)) :
    l.machine.request (outcome.map machine) = (l.request outcome).map id machine := by
  cases outcome <;> rfl

/-- A call of a machine refines that of its lifecycle. -/
theorem perform_machine (l : Lifecycle ε) (call : Call ε) :
    l.machine.perform call = (l.perform call).map id machine := by
  cases call with
  | configure => rw [Machine.perform, configure_machine, request_machine, perform]
  | arm => rw [Machine.perform, arm_machine, request_machine, perform]
  | fire => rw [Machine.perform, fire_machine]; rfl
  | finish again => rw [Machine.perform, finish_machine]; rfl
  | cancel => rw [Machine.perform, cancel_machine]; rfl
  | fail cause => rw [Machine.perform, fail_machine]; rfl
  | follow reported =>
    simp only [Machine.perform, follow_machine, perform]
    cases l.follow reported <;> rfl

/-- A machine answers the calls as its lifecycle does, and is that of the lifecycle behind them. -/
theorem run_machine (l : Lifecycle ε) (calls : List (Call ε)) :
    l.machine.run calls = ((l.events calls).map Event.answer, (l.run calls).machine) := by
  -- by induction on the calls
  induction calls generalizing l with
  | nil => rfl
  | cons call calls ih =>
    simp only [Machine.run, perform_machine, Prod.map, id, ih]
    rfl

/-! ## The end of a run -/

/-- An error leaves the lifecycle as it is. -/
theorem perform_of_isError {call : Call ε} (error : (l.perform call).1.isError = true) :
    (l.perform call).2 = l := by
  have request {outcome} : (l.request outcome).1.isError = true → (l.request outcome).2 = l := by
    cases outcome <;> simp [Lifecycle.request, Answer.isError]
  cases call with
  | configure | arm => exact request error
  | fire | finish | cancel | fail => cases error
  | follow reported =>
    simp only [perform] at error ⊢
    split at error
    · cases error
    · rfl

/-- The end is the end: only a configuration is answered otherwise than before. -/
theorem perform_of_isTerminal (ended : l.phase.isTerminal = true) {call : Call ε}
    (other : call ≠ .configure) : l.perform call = (call.late, l) := by
  cases call with
  | configure => exact absurd rfl other
  | cancel => rw [perform, cancel_of_isTerminal ended]; rfl
  | fail cause => rw [perform, fail_of_isTerminal ended]; rfl
  | follow reported => simp only [perform, follow_of_isTerminal ended]; rfl
  | arm | fire | finish => cases l <;> first | rfl | cases ended

/-- A configuration is accepted once the run is over. -/
theorem perform_configure_of_isTerminal (ended : l.phase.isTerminal = true) :
    l.perform .configure = (.accepted, configured) := by
  simp [perform, configure, Phase.isActive_of_isTerminal ended, request]

/-- A run that is armed has just been armed, or it was armed before and was not configured anew. -/
theorem arms_or_isArmed {call : Call ε} (armed : (Event.of l call).after.phase.isArmed = true) :
    (Event.of l call).configures = false ∧
      ((Event.of l call).arms = true ∨ l.phase.isArmed = true) := by
  cases call with
  | configure =>
    cases l <;>
      simp_all [Event.of, perform, configure, request, Event.configures, Phase.isArmed, Phase.isActive]
  | arm => cases l <;> simp_all [Event.of, perform, arm, request, Event.configures, Event.arms, Phase.isArmed]
  | fire | finish | cancel | fail =>
    refine ⟨rfl, .inr ?_⟩
    cases l <;> first | rfl | cases armed
  | follow reported =>
    refine ⟨rfl, .inr ?_⟩
    cases l <;> first | rfl | (cases reported <;> cases armed)

/-- A `cancel` or a `fail` that took effect ended the run. -/
theorem ends_of_stops {call : Call ε} (stops : (Event.of l call).stops = true) :
    (Event.of l call).ends = true := by
  cases ended : l.phase.isTerminal with
  | false =>
    cases call with
    | cancel => simp [Event.of, Event.ends, ended, perform]
    | fail cause => simp [Event.of, Event.ends, ended, perform]
    | configure | arm | fire | finish | follow => cases stops
  | true =>
    cases call with
    | cancel => simp [Event.of, Event.stops, perform, cancel_of_isTerminal ended] at stops
    | fail cause => simp [Event.of, Event.stops, perform, fail_of_isTerminal ended] at stops
    | configure | arm | fire | finish | follow => cases stops

/-- Once the run is over, it stays so until a configuration is accepted. -/
theorem over_of_isTerminal (ended : l.phase.isTerminal = true) {calls : List (Call ε)}
    (unbroken : ∀ e ∈ l.events calls, e.configures = false) :
    ∀ e ∈ l.events calls, e.call ≠ .configure ∧ e.before = l ∧ e.after = l ∧ e.answer = e.call.late := by
  induction calls with
  | nil => exact List.forall_mem_nil _
  | cons call calls ih =>
    have other : call ≠ .configure := by
      rintro rfl
      have := unbroken _ List.mem_cons_self
      rw [Event.of, perform_configure_of_isTerminal ended] at this
      cases this
    have still : l.perform call = (call.late, l) := perform_of_isTerminal ended other
    intro e mem
    rw [events, still] at mem unbroken
    obtain rfl | mem := List.mem_cons.1 mem
    · exact ⟨other, rfl, congrArg Prod.snd still, congrArg Prod.fst still⟩
    · exact ih (fun e mem => unbroken e (List.mem_cons_of_mem _ mem)) e mem

/-- Until a configuration is accepted, one call at most ends the run. -/
theorem countP_ends_le (l : Lifecycle ε) {calls : List (Call ε)}
    (unbroken : ∀ e ∈ l.events calls, e.configures = false) : (l.events calls).countP Event.ends ≤ 1 := by
  induction calls generalizing l with
  | nil => exact Nat.zero_le 1
  | cons call calls ih =>
    obtain ⟨-, rest⟩ := List.forall_mem_cons.1 unbroken
    rw [events, List.countP_cons]
    by_cases ends : (Event.of l call).ends = true
    · have ended : (l.perform call).2.phase.isTerminal = true := (Bool.and_eq_true_iff.1 ends).2
      have none : ((l.perform call).2.events calls).countP Event.ends = 0 := by
        refine List.countP_eq_zero.2 fun e mem => ?_
        obtain ⟨-, before, -, -⟩ := over_of_isTerminal ended rest e mem
        simp [Event.ends, before, ended]
      simp [none, ends]
    · simpa [ends] using ih _ rest

/-- Until a configuration is accepted, one `cancel` or `fail` at most takes effect. -/
theorem countP_stops_le (l : Lifecycle ε) {calls : List (Call ε)}
    (unbroken : ∀ e ∈ l.events calls, e.configures = false) : (l.events calls).countP Event.stops ≤ 1 := by
  refine Nat.le_trans (List.countP_mono_left fun e mem stops => ?_) (countP_ends_le l unbroken)
  rw [eq_of_of_mem_events mem] at stops ⊢
  exact ends_of_stops stops

/-- A run that is armed was armed by a call behind the last accepted configuration, unless it was so
from the start. -/
theorem armed_of_isArmed (idle : l.phase.isArmed = false) {calls : List (Call ε)}
    (armed : (l.run calls).phase.isArmed = true) :
    ∃ before arm since, l.events calls = before ++ arm :: since ∧ arm.arms = true ∧
      ∀ e ∈ since, e.configures = false := by
  induction calls using List.reverseRecOn with
  | nil => rw [run_nil, idle] at armed; cases armed
  | append_singleton calls call ih =>
    rw [run_append] at armed
    obtain ⟨kept, arms | earlier⟩ := arms_or_isArmed armed
    · exact ⟨l.events calls, _, [], events_append .., arms, List.forall_mem_nil _⟩
    · obtain ⟨before, arm, since, split, arms, unbroken⟩ := ih earlier
      refine ⟨before, arm, since ++ [.of (l.run calls) call], ?_, arms, ?_⟩
      · rw [events_append, split, List.append_assoc]
        rfl
      · rw [List.forall_mem_append]
        exact ⟨unbroken, by simpa using kept⟩

/-- The run ends exactly once, however a lifecycle is called from its start. The machine that keeps phase
and cause beside each other answers every call as the lifecycle does and goes the same way, so that it has
a cause exactly in the failed phase; an error changes nothing; between two accepted configurations one call
at most ends the run, hence one `cancel` or `fail` at most takes effect, and the calls behind it change
nothing and say so; a run gets ready, runs and completes only behind an accepted `arm` that no
accepted configuration follows. -/
theorem events_end_once (fresh : l = unconfigured ∨ l = configured) (calls : List (Call ε)) :
    l.machine.run calls = ((l.events calls).map Event.answer, (l.run calls).machine) ∧
    ((l.machine.run calls).2.cause.isSome = true ↔ (l.machine.run calls).2.phase = .failed) ∧
    (∀ e ∈ l.events calls, e.answer.isError = true → e.after = e.before) ∧
    (∀ earlier stretch later, l.events calls = earlier ++ stretch ++ later →
      (∀ e ∈ stretch, e.configures = false) →
        stretch.countP Event.ends ≤ 1 ∧ stretch.countP Event.stops ≤ 1 ∧
        ∀ before last since, stretch = before ++ last :: since → last.ends = true →
          ∀ e ∈ since, e.call ≠ .configure ∧ e.before = last.after ∧ e.after = last.after ∧
            e.answer = e.call.late) ∧
    ((l.run calls).phase.isArmed = true →
      ∃ before arm since, l.events calls = before ++ arm :: since ∧ arm.arms = true ∧
        ∀ e ∈ since, e.configures = false) := by
  refine ⟨l.run_machine calls, ?cause, ?error, ?ended, ?armed⟩
  case cause =>
    rw [run_machine]
    exact isSome_cause_machine _
  case error =>
    intro e mem error
    rw [eq_of_of_mem_events mem] at error ⊢
    exact perform_of_isError error
  case ended =>
    rintro earlier stretch later split unbroken
    obtain ⟨first, -, together, -⟩ := events_eq_append split
    obtain ⟨_, middle, -, rfl⟩ := events_eq_append together.symm
    refine ⟨countP_ends_le _ unbroken, countP_stops_le _ unbroken, ?_⟩
    intro before last since split ends
    obtain ⟨_, _ | ⟨call, calls⟩, -, behind⟩ := events_eq_append split
    · cases behind
    obtain ⟨rfl, rfl⟩ := List.cons.inj behind
    have ended := (Bool.and_eq_true_iff.1 ends).2
    refine over_of_isTerminal ended fun e mem => unbroken e ?_
    rw [split]
    exact List.mem_append_right _ (List.mem_cons_of_mem _ mem)
  case armed =>
    have idle : l.phase.isArmed = false := by obtain rfl | rfl := fresh <;> rfl
    exact armed_of_isArmed idle

/-- Two calls try to end the run, then two come late. -/
theorem events_end_once_cancelled :
    ((configured : Lifecycle Nat) = unconfigured ∨ (configured : Lifecycle Nat) = configured) ∧
      ∃ before last since,
        (configured : Lifecycle Nat).events [.arm, .fire, .cancel, .fail 3, .arm] = before ++ last :: since ∧
        last = .of running .cancel ∧ last.ends = true ∧ since.length = 2 ∧
        ∀ e ∈ since, e.after = cancelled ∧ e.answer = e.call.late := by
  have fresh : (configured : Lifecycle Nat) = unconfigured ∨ (configured : Lifecycle Nat) = configured :=
    .inr rfl
  refine ⟨fresh, [.of configured .arm, .of ready .fire], .of running .cancel,
    [.of cancelled (.fail 3), .of cancelled .arm], by decide, rfl, rfl, rfl, ?_⟩
  obtain ⟨-, -, -, ended, -⟩ := events_end_once fresh [.arm, .fire, .cancel, .fail 3, .arm]
  obtain ⟨-, -, late⟩ := ended [] _ [] (List.append_nil _).symm (by decide)
  exact fun e mem => (late [.of configured .arm, .of ready .fire] (.of running .cancel) _ rfl rfl e mem).2.2

end Lifecycle

end TriggeredSampler
