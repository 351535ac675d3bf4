import Mathlib.Data.List.Induction
import TriggeredSampler.Proofs.Session.Lasting
import TriggeredSampler.Proofs.Session.Notices

/-! # Runs between two configurations

The steps of a session fall into stretches: each begins when the session is bound or accepts a configuration
(`Station.Anew`), and in its other steps no configuration is accepted.

* `Station.Configures`, `Station.configure_configures` — all that a configuration can do, a run before it
  being over or not.
* `Station.acceptances` — the configurations that a session accepts.
* `Session.Lasting.step` — a step that accepts none.
-/

namespace TriggeredSampler

variable {σ : Type}

namespace Station

variable (dev : Device σ) {st : Station (Journal σ)} {gone : Bool}

/-! ## Configuring -/

/-- What configuring does to a session: nothing if it is refused, and a failure if the device rejects it. The
device is asked when the delivery of the last run, if it is open, has ended: `waited` is the session then. -/
inductive Configures (c : Configuration) (s waited : Session) : Except Failure Unit → Session → Prop where
  | invalid (defect : Defect) : Configures c s waited (.error (.configuration defect)) s
  | active : Configures c s waited (.error (.misuse .alreadyActive)) s
  | rejected (idle : s.phase.isActive = false) (reason : DeviceFault) :
      Configures c s waited (.error (.device reason)) (waited.fail (.device reason))
  | accepted (valid : c.validate = .ok ()) (idle : s.phase.isActive = false) :
      Configures c s waited (.ok ()) { waited with
        configuration := some c, lifecycle := .configured, tracked := c.tracked.length
        numbering := .start c.tracked.length, notified := false, panic := none }

theorem configure_configures (sound : st.session.Sound) (c : Configuration) :
    Configures c st.session (st.join dev.journaled).session
      (st.configure dev.journaled c).1 (st.configure dev.journaled c).2.session := by
  rw [configure]
  cases valid : c.validate with
  | error defect => exact .invalid defect
  | ok _ =>
    simp only
    split
    next => exact .active
    next idle =>
      have idle : st.session.phase.isActive = false := by simpa using idle
      -- nothing is delivered any more when the device is asked
      have same := line_closed dev.journaled (delivery_join dev sound idle) (.configure c)
      have idle' := (join_keeps dev sound idle).onward.idle idle
      generalize line dev.journaled (.configure c) (st.join dev.journaled) = outcome at same ⊢
      obtain ⟨result, after⟩ := outcome
      replace same : after.session = (st.join dev.journaled).session := same
      cases result with
      | error reason =>
        simp only [fail, same]
        exact .rejected idle reason
      | ok _ =>
        simp only [same, Lifecycle.configure_of_idle idle', adopt]
        exact .accepted valid idle

/-- The configuration that a step makes the session accept. -/
def accepted? (step : Step σ) (st : Station (Journal σ)) : Option Configuration :=
  match step with
  | .perform (.configure c) =>
    if st.session.live && (st.configure dev.journaled c).1.isOk then some c else none
  | _ => none

/-- The configurations that a session accepts in some steps. -/
def acceptances : List (Step σ) → Station (Journal σ) → List Configuration
  | [], _ => []
  | step :: rest, st => (accepted? dev step st).toList ++ acceptances rest (st.step dev step)

theorem eq_of_accepted {step : Step σ} {c : Configuration} (accepted : accepted? dev step st = some c) :
    step = .perform (.configure c) ∧ st.session.live = true ∧ (st.configure dev.journaled c).1 = .ok () := by
  cases step with
  | perform command =>
    cases command with
    | configure c' =>
      simp only [accepted?, Bool.and_eq_true] at accepted
      split at accepted
      next accepts =>
        cases accepted
        refine ⟨rfl, accepts.1, ?_⟩
        cases result : (st.configure dev.journaled c).1 with
        | ok _ => rfl
        | error f => simp [result, Except.isOk, Except.toBool] at accepts
      next => cases accepted
    | _ => cases accepted
  | _ => cases accepted

theorem not_accepted_configure {c : Configuration}
    (none : accepted? dev (.perform (.configure c)) st = none) (live : st.session.live = true) :
    (st.configure dev.journaled c).1 ≠ .ok () := by
  intro accepts
  simp [accepted?, live, accepts, Except.isOk, Except.toBool] at none

/-- The configuration that a move makes the session accept. -/
def adopted? (move : Move σ) (st : Station (Journal σ)) : Option Configuration :=
  match move with
  | .act step => accepted? dev step st
  | .look => none

/-- The configurations that a session accepts in a course. -/
def adoptions : List (Move σ) → Station (Journal σ) → List Configuration
  | [], _ => []
  | move :: rest, st => (adopted? dev move st).toList ++ adoptions rest (st.move dev move)

theorem acceptances_cons {step : Step σ} {rest : List (Step σ)} :
    acceptances dev (step :: rest) st = [] ↔
      accepted? dev step st = none ∧ acceptances dev rest (st.step dev step) = [] := by
  rw [acceptances, List.append_eq_nil_iff, Option.toList_eq_nil_iff]

theorem acceptances_append (first rest : List (Step σ)) :
    acceptances dev (first ++ rest) st =
      acceptances dev first st ++ acceptances dev rest (st.run dev first) := by
  induction first generalizing st with
  | nil => rfl
  | cons step first ih => rw [List.cons_append, acceptances, ih, acceptances, List.append_assoc]; rfl

theorem run_append (first rest : List (Step σ)) :
    st.run dev (first ++ rest) = (st.run dev first).run dev rest := by
  rw [run, run, run, List.foldl_append]

/-! ## The beginning of a stretch -/

/-- A session that was just bound, or that has just accepted a configuration. -/
inductive Anew (dev : Device σ) : Station (Journal σ) → Prop where
  | bound (handle : Handle) (options : Options) (device : σ) :
      Anew dev ⟨.bind handle options, ⟨device, []⟩⟩
  | configured (handle : Handle) (options : Options) (device : σ) (before : List (Step σ))
      {st : Station (Journal σ)} {c : Configuration}
      (course : st = run dev before ⟨.bind handle options, ⟨device, []⟩⟩)
      (accepted : accepted? dev (.perform (.configure c)) st = some c) :
      Anew dev (st.step dev (.perform (.configure c)))

/-- Every run ends with such a stretch. -/
theorem exists_anew (handle : Handle) (options : Options) (device : σ) (steps : List (Step σ)) :
    ∃ earlier since, steps = earlier ++ since ∧
      Anew dev (run dev earlier ⟨.bind handle options, ⟨device, []⟩⟩) ∧
      acceptances dev since (run dev earlier ⟨.bind handle options, ⟨device, []⟩⟩) = [] := by
  -- by induction on the steps, the last one first
  induction steps using List.reverseRecOn with
  | nil => exact ⟨[], [], rfl, .bound handle options device, rfl⟩
  | append_singleton steps step ih =>
    cases accepted : accepted? dev step (run dev steps ⟨.bind handle options, ⟨device, []⟩⟩) with
    | none =>
      obtain ⟨earlier, since, rfl, anew, kept⟩ := ih
      rw [run_append] at accepted
      refine ⟨earlier, since ++ [step], List.append_assoc _ _ _, anew, ?_⟩
      rw [acceptances_append, kept, acceptances, accepted]
      rfl
    | some c =>
      obtain ⟨rfl, _⟩ := eq_of_accepted dev accepted
      refine ⟨steps ++ [.perform (.configure c)], [], (List.append_nil _).symm, ?_, rfl⟩
      rw [run_append]
      exact .configured handle options device steps rfl accepted

/-- A session in one of its first two phases that was not told anything. -/
structure Fresh (st : Station (Journal σ)) : Prop where
  idle : st.session.phase.begun = false
  closed : st.session.delivery = none
  panic : st.session.panic = none

/-- Only an active session has a delivery under way. -/
theorem closed_run (handle : Handle) (options : Options) (device : σ) (steps : List (Step σ))
    (idle : (run dev steps ⟨.bind handle options, ⟨device, []⟩⟩).session.phase.isActive = false) :
    (run dev steps ⟨.bind handle options, ⟨device, []⟩⟩).session.delivery = none :=
  delivery_run dev (@settled_bind _ false handle options _) steps (fun _ => rfl) idle

/-- The session that has just accepted a configuration. -/
theorem act_accepted (sound : st.session.Sound) {c : Configuration}
    (accepted : accepted? dev (.perform (.configure c)) st = some c) :
    c.validate = .ok () ∧ st.session.phase.isActive = false ∧
      (st.act dev (.perform (.configure c))).session = { (st.join dev.journaled).session with
        configuration := some c, lifecycle := .configured, tracked := c.tracked.length
        numbering := .start c.tracked.length, notified := false, panic := none } := by
  obtain ⟨_, live, ok⟩ := eq_of_accepted dev accepted
  have configures := configure_configures dev sound c
  rw [act, if_pos live]
  simp only [perform, Prod.map_snd, id]
  generalize st.configure dev.journaled c = outcome at ok configures ⊢
  obtain ⟨result, after⟩ := outcome
  simp only at ok configures ⊢
  subst ok
  generalize after.session = s at configures ⊢
  cases configures with
  | accepted valid idle => exact ⟨valid, idle, rfl⟩

/-- The session behind a step that accepts a configuration. -/
theorem step_accepted (sound : st.session.Sound) {c : Configuration}
    (accepted : accepted? dev (.perform (.configure c)) st = some c)
    (closed : st.session.phase.isActive = false → st.session.delivery = none) :
    c.validate = .ok () ∧ st.session.phase.isActive = false ∧
      (st.step dev (.perform (.configure c))).session = { st.session with
        configuration := some c, lifecycle := .configured, tracked := c.tracked.length
        numbering := .start c.tracked.length, notified := false, panic := none } := by
  obtain ⟨valid, idle, eq⟩ := act_accepted dev sound accepted
  rw [join_of_closed dev.journaled (closed idle)] at eq
  have nothing : (st.act dev (.perform (.configure c))).session.delivery = none := by
    rw [eq]
    exact closed idle
  rw [step, close_of_closed dev.journaled nothing, eq]
  exact ⟨valid, idle, rfl⟩

theorem Anew.exists_run (anew : Anew dev st) : ∃ handle options device before,
    st = run dev before ⟨.bind handle options, ⟨device, []⟩⟩ := by
  cases anew with
  | bound handle options device => exact ⟨handle, options, device, [], rfl⟩
  | @configured handle options device before st c course accepted =>
    subst course
    refine ⟨handle, options, device, before ++ [.perform (.configure c)], ?_⟩
    rw [run_append]
    rfl

theorem Anew.settled (anew : Anew dev st) : ∃ gone, Settled none gone st := by
  cases anew with
  | bound handle options device => exact ⟨false, settled_bind handle options _⟩
  | @configured handle options device before st c course accepted =>
    have settled := (@settled_bind _ false handle options ⟨device, []⟩).run dev before
    rw [← course] at settled
    exact ⟨_, settled.step dev _⟩

theorem Anew.fresh (anew : Anew dev st) : Fresh st := by
  cases anew with
  | bound handle options device => exact ⟨rfl, rfl, rfl⟩
  | @configured handle options device before st c course accepted =>
    subst course
    have closed := closed_run dev handle options device before
    have settled := (@settled_bind _ false handle options ⟨device, []⟩).run dev before
    obtain ⟨_, idle, eq⟩ := step_accepted dev settled.sound accepted closed
    constructor
    · rw [eq]
      rfl
    · rw [eq]
      exact closed idle
    · rw [eq]

end Station

/-! ## Steps that accept no configuration -/

/-- The start that a step asks for. -/
def Step.start? : Step σ → Option (Option (List Reaction) × Int)
  | .perform command => command.start?
  | _ => none

namespace Session.Lasting

variable {P : Session → Prop} {M : Notice → Reaction → Session → Prop} (dev : Device σ)
  {st : Station (Journal σ)} {gone : Bool}

theorem act (lasting : Lasting P M) (settled : Station.Settled none gone st) {step : Step σ}
    (kept : st.accepted? dev step = none)
    (armed : ∀ handler tag, step.start? = some (handler, tag) → st.session.live = true →
      st.session.phase = .configured → P (st.armed handler tag).session)
    (numbered : step = .perform .pollRows → ∀ {s} data, P s → P (s.number data).2)
    (holds : P st.session) : P (st.act dev step).session := by
  cases step with
  | perform command =>
    simp only [Station.act]
    split
    next live =>
      refine lasting.perform dev settled live holds ?_ (fun _ _ starts => armed _ _ starts live) ?_
      · rintro c rfl
        exact Station.not_accepted_configure dev kept live
      · rintro rfl
        exact numbered rfl
    next => exact holds
  | halt => exact lasting.halt dev settled.toCalm holds
  | receive report => exact lasting.receive dev settled.sound report holds
  | pass milliseconds =>
    exact ((lasting.waits dev).elapse ⟨settled.toCalm, holds⟩ milliseconds).2
  | disturb change => exact holds
  | hangUp => exact lasting.hush holds

theorem step (lasting : Lasting P M) (settled : Station.Settled none gone st) {step : Step σ}
    (kept : st.accepted? dev step = none)
    (armed : ∀ handler tag, step.start? = some (handler, tag) → st.session.live = true →
      st.session.phase = .configured → P (st.armed handler tag).session)
    (numbered : step = .perform .pollRows → ∀ {s} data, P s → P (s.number data).2)
    (holds : P st.session) : P (st.step dev step).session :=
  lasting.close dev (settled.act dev step).sound (lasting.act dev settled kept armed numbered holds)

/-- What every start and every numbering keep as well is kept for a whole stretch. -/
theorem run (lasting : Lasting P M) (settled : Station.Settled none gone st) {steps : List (Step σ)}
    (kept : st.acceptances dev steps = [])
    (armed : ∀ {st : Station (Journal σ)} handler tag, P st.session → st.session.phase = .configured →
      P (st.armed handler tag).session)
    (numbered : ∀ {s} data, P s → P (s.number data).2)
    (holds : P st.session) : P (st.run dev steps).session := by
  -- by induction on the steps
  induction steps generalizing st gone with
  | nil => exact holds
  | cons step rest ih =>
    obtain ⟨none, later⟩ := (Station.acceptances_cons dev).1 kept
    exact ih (settled.step dev step) later
      (lasting.step dev settled none (fun handler tag _ _ => armed handler tag holds)
        (fun _ => numbered) holds)

end Session.Lasting

end TriggeredSampler
