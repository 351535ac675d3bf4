import TriggeredSampler.Proofs.Session.Calls

/-! # Invariants of a session

Every command is made of a few operations. `Station.Upholds` says that these keep an invariant and fail
only in allowed ways; then so does every command, however long it waits.

* `Station.Waits.waitUntil` — an invariant of what happens while a session waits.
* `Station.Upholds` — an invariant of the operations.
* `Station.Upholds.perform` — it is an invariant of the commands.
-/

namespace TriggeredSampler

/-- What a command failed with. -/
def Reply.failure? : Reply → Option Failure
  | .finished (.error f) => some f
  | .batches (.error f) => some f
  | .rows (.error f) => some f
  | .phase (.error f) => some f
  | .configuration (.error f) => some f
  | _ => none

namespace Station

variable {σ α : Type} {dev : Device σ} {P : Station σ → Prop} {Q : Failure → Prop} {st : Station σ}

/-- The outcome of an operation keeps `P`; if it is a failure it is one that `Q` allows. -/
structure Yields (P : Station σ → Prop) (Q : Failure → Prop) (outcome : Except Failure α × Station σ) :
    Prop where
  holds : P outcome.2
  allowed : ∀ f, outcome.1 = .error f → Q f

theorem Yields.ok {a : α} {st : Station σ} (holds : P st) : Yields P Q (.ok a, st) :=
  ⟨holds, by simp⟩

theorem Yields.error {f : Failure} {st : Station σ} (holds : P st) (allowed : Q f) :
    Yields P Q ((.error f : Except Failure α), st) :=
  ⟨holds, by simpa using allowed⟩

/-- The reply that tells an outcome. -/
theorem Yields.reply {outcome : Except Failure α × Station σ} {wrap : Except Failure α → Reply}
    (yields : Yields P Q outcome) (silent : ∀ a, (wrap (.ok a)).failure? = none)
    (loud : ∀ f, (wrap (.error f)).failure? = some f) :
    P (outcome.map wrap id).2 ∧ ∀ f ∈ (outcome.map wrap id).1.failure?, Q f := by
  obtain ⟨result, st⟩ := outcome
  cases result with
  | error f =>
    refine ⟨yields.holds, ?_⟩
    intro g member
    obtain rfl : f = g := by simpa [loud] using member
    exact yields.allowed f rfl
  | ok a => exact ⟨yields.holds, by simp [silent]⟩

theorem Yields.finished {outcome : Except Failure Unit × Station σ} (yields : Yields P Q outcome) :
    ∀ f ∈ (Reply.finished outcome.1).failure?, Q f := by
  obtain ⟨result, st⟩ := outcome
  cases result with
  | error f =>
    intro g member
    obtain rfl : f = g := by simpa [Reply.failure?] using member
    exact yields.allowed f rfl
  | ok _ => simp [Reply.failure?]

/-- A millisecond passes. -/
def pass (dev : Device σ) (st : Station σ) : Station σ :=
  (dev.advance st.device).1.foldl (overhear dev) { st with device := (dev.advance st.device).2 }

/-- What the reports to a session keep holds behind a millisecond, if it holds once the device moved. -/
theorem pass_induction (moved : P { st with device := (dev.advance st.device).2 })
    (received : ∀ st report, P st → P (st.receive dev report)) : P (st.pass dev) := by
  -- by induction on the reports, of which the session receives its own
  apply List.foldlRecOn _ (overhear dev) moved
  intro heard kept report _
  unfold overhear
  split
  next => exact received heard report.2 kept
  next => exact kept

/-- `P` is kept by what happens while a session waits, and a wait fails only as `Q` allows. -/
structure Waits (dev : Device σ) (P : Station σ → Prop) (Q : Failure → Prop) : Prop where
  timeout : ∀ pause, Q (.timeout pause)
  refresh : ∀ st, P st → Yields P Q (st.refresh (line dev))
  close : ∀ st, P st → P (st.close dev)
  pass : ∀ st, P st → P (st.pass dev)

namespace Waits

theorem elapse (waits : Waits dev P Q) (holds : P st) (milliseconds : Nat) :
    P (st.elapse dev milliseconds) := by
  -- by induction on the milliseconds
  induction milliseconds generalizing st with
  | zero => exact holds
  | succ milliseconds ih => exact ih (waits.pass st holds)

theorem look (waits : Waits dev P Q) (holds : P st) : Yields P Q (st.look dev) := by
  unfold Station.look
  split
  next => exact .ok holds
  next => exact waits.refresh st holds

theorem lookUntil (waits : Waits dev P Q) (done : Phase → Bool → Bool) (holds : P st) (looks : Nat) :
    Yields P Q (st.lookUntil dev done looks) := by
  -- by induction on the looks
  induction looks generalizing st with
  | zero => exact .ok holds
  | succ looks ih =>
    unfold Station.lookUntil
    have looked := waits.look holds
    generalize st.look dev = outcome at looked ⊢
    obtain ⟨result, st'⟩ := outcome
    cases result with
    | error f => exact .error looked.holds (looked.allowed f rfl)
    | ok phase =>
      simp only
      split
      next => exact .ok looked.holds
      next => exact ih looked.holds

theorem waitUntil (waits : Waits dev P Q) (done : Phase → Bool → Bool) (holds : P st) (left : Nat) :
    Yields P Q (st.waitUntil dev done left) := by
  -- by induction on the time that is left, which each pause shortens
  induction left using Nat.strongRecOn generalizing st with
  | _ left ih =>
    unfold Station.waitUntil
    have looked := waits.lookUntil done holds (if left = 0 then 1 else st.session.options.looks)
    generalize st.lookUntil dev done (if left = 0 then 1 else st.session.options.looks) = outcome
      at looked ⊢
    rcases outcome with ⟨f | _ | phase, st'⟩
    · exact .error looked.holds (looked.allowed f rfl)
    · simp only
      split
      next => exact .error looked.holds (waits.timeout _)
      next more => exact ih _ (by omega) (waits.close _ (waits.elapse looked.holds _))
    · exact .ok looked.holds

end Waits

/-- `P` is kept by the operations that commands are made of, and their failures are among those that `Q`
allows. -/
structure Upholds (dev : Device σ) (P : Station σ → Prop) (Q : Failure → Prop) : Prop where
  misuse : ∀ m, Q (.misuse m)
  timeout : ∀ pause, Q (.timeout pause)
  configure : ∀ c st, P st → st.session.live = true → Yields P Q (st.configure dev c)
  start : ∀ handler tag refusal st, P st → st.session.live = true →
    Yields P Q (st.start dev handler tag refusal)
  halt : ∀ st, P st → Yields P Q (st.halt dev)
  refresh : ∀ st, P st → Yields P Q (st.refresh (line dev))
  poll : ∀ st, P st → Yields P Q (st.pollData dev)
  number : ∀ data st, P st → st.session.checkData data = .ok () →
    P { st with session := (st.session.number data).2 } ∧ ∃ rows, (st.session.number data).1 = .ok rows
  readBack : ∀ st, P st → Yields P Q (st.deviceConfiguration dev)
  drop : ∀ st, P st → st.session.live = true → P (st.drop dev)
  close : ∀ st, P st → P (st.close dev)
  pass : ∀ st, P st → P (st.pass dev)

namespace Upholds

theorem waits (upholds : Upholds dev P Q) : Waits dev P Q :=
  ⟨upholds.timeout, upholds.refresh, upholds.close, upholds.pass⟩

theorem elapse (upholds : Upholds dev P Q) (holds : P st) (milliseconds : Nat) :
    P (st.elapse dev milliseconds) :=
  upholds.waits.elapse holds milliseconds

theorem checkData_of_poll {line : Line σ} {data : List Batch}
    (ok : (st.poll line).1 = .ok data) : (st.poll line).2.session.checkData data = .ok () := by
  unfold Station.poll at ok ⊢
  split at ok
  · cases ok
  next polled =>
    rw [if_neg polled]
    split at ok
    · cases ok
    next configured =>
      rw [if_neg configured]
      generalize st.refresh line = refreshed at ok ⊢
      obtain ⟨result, st'⟩ := refreshed
      cases result with
      | error _ => cases ok
      | ok _ =>
        simp only [fetch] at ok ⊢
        generalize line .data st' = fetched at ok ⊢
        obtain ⟨result, st''⟩ := fetched
        cases result with
        | error _ => cases ok
        | ok data' =>
          simp only at ok ⊢
          cases checked : st''.session.checkData data' with
          | error _ => simp [checked] at ok
          | ok _ =>
            simp only [checked] at ok ⊢
            cases ok
            exact checked

/-- What a poll got is numbered. -/
theorem pollRowsAt (upholds : Upholds dev P Q) {line : Line σ} (polled : Yields P Q (st.poll line)) :
    Yields P Q (st.pollRowsAt line) := by
  unfold Station.pollRowsAt
  have whole : ∀ data, (st.poll line).1 = .ok data →
      (st.poll line).2.session.checkData data = .ok () := fun data => checkData_of_poll
  generalize st.poll line = outcome at polled whole ⊢
  obtain ⟨result, st'⟩ := outcome
  cases result with
  | error f => exact .error polled.holds (polled.allowed f rfl)
  | ok data =>
    obtain ⟨numbered, rows, ok⟩ := upholds.number data st' polled.holds (whole data rfl)
    refine ⟨numbered, fun f fails => ?_⟩
    replace fails : (st'.session.number data).1.mapError Failure.ofBreach = .error f := fails
    rw [ok] at fails
    cases fails

theorem pollRows (upholds : Upholds dev P Q) (holds : P st) : Yields P Q (st.pollRows dev) :=
  upholds.pollRowsAt (upholds.poll st holds)

/-- Every command keeps the invariant, and fails only as allowed. -/
theorem perform (upholds : Upholds dev P Q) (holds : P st) (live : st.session.live = true)
    (command : Command) :
    P (st.perform dev command).2 ∧ ∀ f ∈ (st.perform dev command).1.failure?, Q f := by
  cases command with
  | configure c => exact (upholds.configure c st holds live).reply (fun _ => rfl) fun _ => rfl
  | start tag => exact (upholds.start none tag none st holds live).reply (fun _ => rfl) fun _ => rfl
  | startNotified reactions tag refusal =>
    exact (upholds.start (some reactions) tag refusal st holds live).reply (fun _ => rfl) fun _ => rfl
  | stop => exact (upholds.halt st holds).reply (fun _ => rfl) fun _ => rfl
  | poll => exact (upholds.poll st holds).reply (fun _ => rfl) fun _ => rfl
  | pollRows => exact (upholds.pollRows holds).reply (fun _ => rfl) fun _ => rfl
  | refresh => exact (upholds.refresh st holds).reply (fun _ => rfl) fun _ => rfl
  | waitRunning => exact (upholds.waits.waitUntil _ holds _).reply (fun _ => rfl) fun _ => rfl
  | waitFinished => exact (upholds.waits.waitUntil _ holds _).reply (fun _ => rfl) fun _ => rfl
  | deviceConfiguration => exact (upholds.readBack st holds).reply (fun _ => rfl) fun _ => rfl
  | drop => exact ⟨upholds.drop st holds live, by simp [Station.perform, Reply.failure?]⟩

end Upholds

end Station

end TriggeredSampler
