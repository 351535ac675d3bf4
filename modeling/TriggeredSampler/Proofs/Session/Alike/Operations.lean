import TriggeredSampler.Session.Command
import TriggeredSampler.Proofs.Session.Alike.Basic
import TriggeredSampler.Proofs.Session.Calls

/-! # Operations of sessions that go the same way

* `Station.Alike.line` — the requests of two owners.
* `Station.Alike.perform` — the same command to two sessions that are alike.
-/

namespace TriggeredSampler

variable {σ τ : Type}

/-- The second command is the first one, or a start with a handler that is calmer. -/
inductive Command.Calms : Command → Command → Prop where
  | same (command : Command) : Calms command command
  | startNotified {reactions reactions' : List Reaction}
      (calms : List.Forall₂ Reaction.Calms reactions reactions') (tag : Int)
      (refusal : Option String := none) :
      Calms (.startNotified reactions tag refusal) (.startNotified reactions' tag refusal)

namespace Station.Alike

variable {D : σ → τ → Prop} {dev : Device σ} {dev' : Device τ} {st : Station σ} {st' : Station τ}

theorem foldl_receive (matching : dev.Matches dev' D) (reports : List Report) :
    ∀ {st : Station σ} {st' : Station τ}, Alike D st st' →
      Alike D (reports.foldl (Station.receive dev) st) (reports.foldl (Station.receive dev') st') := by
  induction reports with
  | nil => exact fun alike => alike
  | cons report rest ih => exact fun alike => ih (alike.receive matching report)

theorem line (matching : dev.Matches dev' D) : (Station.line dev).Concur D (Station.line dev') := by
  intro r st st' alike
  obtain ⟨reports, announced⟩ := alike.announce matching r
  have delivered := foldl_receive matching (dev.announce st.session.handle r st.device).1 announced
  obtain ⟨answer, answered⟩ := delivered.answer matching r
  simp only [Station.line]
  rw [reports, answer]
  exact .intro _ answered

theorem join (matching : dev.Matches dev' D) (alike : Alike D st st') :
    Alike D (st.join dev) (st'.join dev') := by
  have closed := (alike.drainAll matching).close matching
  have delivering := alike.session.delivery
  simp only [Station.join, alike.session.phase]
  generalize st.session.delivery = delivery, st'.session.delivery = delivery' at delivering ⊢
  cases delivering with
  | none => exact alike
  | some same =>
    simp only
    split
    next => exact closed
    next => exact ⟨alike.session.stall.deliver (.some same), alike.device⟩

theorem dismiss (matching : dev.Matches dev' D) (alike : Alike D st st') :
    Alike D (st.dismiss dev) (st'.dismiss dev') := by
  simp only [Station.dismiss, alike.session.handle, matching.holdsOn _ alike.device]
  split
  next => exact alike
  next => exact alike.endDelivery

theorem configure (matching : dev.Matches dev' D) (alike : Alike D st st') (c : Configuration) :
    Concur D (st.configure dev c) (st'.configure dev' c) := by
  simp only [Station.configure, alike.session.phase]
  cases c.validate with
  | error defect => exact .intro _ alike
  | ok _ =>
    simp only
    split
    next => exact .intro _ alike
    next =>
      have asked := line matching (.configure c) (alike.join matching)
      generalize Station.line dev (.configure c) (st.join dev) = outcome,
        Station.line dev' (.configure c) (st'.join dev') = outcome' at asked ⊢
      cases asked with
      | intro answer asked =>
        cases answer with
        | error fault => exact .intro _ (asked.fail _)
        | ok _ =>
          simp only [asked.session.lifecycle]
          split
          next => exact .intro _ asked
          next l _ => exact .intro _ ⟨asked.session.adopt c l, asked.device⟩

theorem writeTrigger (matching : dev.Matches dev' D) (alike : Alike D st st') (trigger : Trigger)
    (offset : Int) : Concur D (st.writeTrigger dev trigger offset) (st'.writeTrigger dev' trigger offset) := by
  rw [Station.writeTrigger, Station.writeTrigger, alike.session.options]
  split
  next => exact line matching _ alike
  next => exact .intro _ alike

theorem activate (matching : dev.Matches dev' D) (alike : Alike D st st') (trigger : Trigger) :
    Concur D (st.activate dev trigger) (st'.activate dev' trigger) := by
  have written := alike.writeTrigger matching trigger 1
  simp only [Station.activate]
  generalize st.writeTrigger dev trigger 1 = outcome, st'.writeTrigger dev' trigger 1 = outcome' at written ⊢
  cases written with
  | intro answer written =>
    cases answer with
    | ok _ => exact .intro _ written
    | error fault =>
      have stopped := line matching .stop (written.fail (.device fault))
      exact .intro _ (stopped.alike.join matching)

theorem launch (matching : dev.Matches dev' D) (alike : Alike D st st') (trigger : Trigger)
    {handler handler' : Option (List Reaction)} (heard : handler'.isSome = handler.isSome) (tag : Int) :
    Concur D (st.launch dev trigger handler tag) (st'.launch dev' trigger handler' tag) := by
  rw [Station.launch, Station.launch, alike.session.lifecycle, heard]
  cases st.session.lifecycle.arm with
  | error m => exact .intro _ alike.endDelivery
  | ok l =>
    have armed : Alike D { st with session := { st.session with lifecycle := l } }
        { st' with session := { st'.session with lifecycle := l } } :=
      ⟨alike.session.withLifecycle l, alike.device⟩
    have asked := line matching (.start handler.isSome tag) armed
    simp only
    generalize Station.line dev (.start handler.isSome tag) _ = outcome,
      Station.line dev' (.start handler.isSome tag) _ = outcome' at asked ⊢
    cases asked with
    | intro answer asked =>
      cases answer with
      | error fault => exact .intro _ (((asked.fail _).dismiss matching).join matching)
      | ok _ => exact asked.activate matching trigger

theorem start (matching : dev.Matches dev' D) (alike : Alike D st st')
    {handler handler' : Option (List Reaction)}
    (calms : Option.Rel (List.Forall₂ Reaction.Calms) handler handler') (tag : Int)
    (refusal : Option String) :
    Concur D (st.start dev handler tag refusal) (st'.start dev' handler' tag refusal) := by
  have heard : handler'.isSome = handler.isSome := by cases calms <;> rfl
  simp only [Station.start, startTrigger, alike.session.phase, alike.session.configuration, threadFault, heard]
  split
  next => exact .intro _ alike
  next trigger _ =>
    have written := alike.writeTrigger matching trigger 0
    generalize st.writeTrigger dev trigger 0 = outcome, st'.writeTrigger dev' trigger 0 = outcome' at written ⊢
    cases written with
    | intro answer written =>
      cases answer with
      | error fault => exact .intro _ (written.fail _)
      | ok _ =>
        have joined := written.join matching
        simp only
        split
        next => exact .intro _ joined
        have opened : Alike D (Station.openDelivery handler tag _) (Station.openDelivery handler' tag _) :=
          ⟨joined.session.openDelivery calms tag, joined.device⟩
        exact opened.launch matching trigger heard tag

theorem halt (matching : dev.Matches dev' D) (alike : Alike D st st') :
    Concur D (st.halt dev) (st'.halt dev') :=
  alike.stop (line matching)

theorem pollData (matching : dev.Matches dev' D) (alike : Alike D st st') :
    Concur D (st.pollData dev) (st'.pollData dev') :=
  alike.poll (line matching)

theorem pollRowsAt {line : Line σ} {line' : Line τ} (lines : line.Concur D line') (alike : Alike D st st') :
    Concur D (st.pollRowsAt line) (st'.pollRowsAt line') := by
  have polled := alike.poll lines
  simp only [Station.pollRowsAt]
  generalize st.poll line = outcome, st'.poll line' = outcome' at polled ⊢
  cases polled with
  | intro result polled =>
    cases result with
    | error _ => exact .intro _ polled
    | ok data =>
      obtain ⟨rows, numbered⟩ := polled.session.number data
      simp only [rows]
      exact .intro _ ⟨numbered, polled.device⟩

theorem pollRows (matching : dev.Matches dev' D) (alike : Alike D st st') :
    Concur D (st.pollRows dev) (st'.pollRows dev') :=
  alike.pollRowsAt (line matching)

theorem refreshPhase (matching : dev.Matches dev' D) (alike : Alike D st st') :
    Concur D (st.refreshPhase dev) (st'.refreshPhase dev') :=
  alike.refresh (line matching)

theorem deviceConfiguration (matching : dev.Matches dev' D) (alike : Alike D st st') :
    Concur D (st.deviceConfiguration dev) (st'.deviceConfiguration dev') :=
  (line matching .configuration alike).map _

theorem drop (matching : dev.Matches dev' D) (alike : Alike D st st') :
    Alike D (st.drop dev) (st'.drop dev') := by
  simp only [Station.drop, alike.session.live]
  split
  next => exact (alike.release (line matching)).join matching
  next => exact alike

/-! ## Waits -/

theorem foldl_overhear (matching : dev.Matches dev' D) (reports : List (Handle × Report)) :
    ∀ {st : Station σ} {st' : Station τ}, Alike D st st' →
      Alike D (reports.foldl (Station.overhear dev) st) (reports.foldl (Station.overhear dev') st') := by
  induction reports with
  | nil => exact fun alike => alike
  | cons report rest ih =>
    intro st st' alike
    have overheard : Alike D (st.overhear dev report) (st'.overhear dev' report) := by
      simp only [Station.overhear, alike.session.handle]
      split
      next => exact alike.receive matching report.2
      next => exact alike
    exact ih overheard

theorem elapse (matching : dev.Matches dev' D) (milliseconds : Nat) :
    ∀ {st : Station σ} {st' : Station τ}, Alike D st st' →
      Alike D (st.elapse dev milliseconds) (st'.elapse dev' milliseconds) := by
  induction milliseconds with
  | zero => exact fun alike => alike
  | succ milliseconds ih =>
    intro st st' alike
    obtain ⟨reports, advanced⟩ := matching.advance alike.device
    simp only [Station.elapse, reports]
    exact ih (foldl_overhear matching _ ⟨alike.session, advanced⟩)

theorem look (matching : dev.Matches dev' D) (alike : Alike D st st') :
    Concur D (st.look dev) (st'.look dev') := by
  simp only [Station.look, alike.session.notified, alike.session.phase]
  split
  next => exact .intro _ alike
  next => exact alike.refreshPhase matching

theorem lookUntil (matching : dev.Matches dev' D) (done : Phase → Bool → Bool) (looks : Nat) :
    ∀ {st : Station σ} {st' : Station τ}, Alike D st st' →
      Concur D (st.lookUntil dev done looks) (st'.lookUntil dev' done looks) := by
  induction looks with
  | zero => exact fun alike => .intro _ alike
  | succ looks ih =>
    intro st st' alike
    have looked := alike.look matching
    simp only [Station.lookUntil]
    generalize st.look dev = outcome, st'.look dev' = outcome' at looked ⊢
    cases looked with
    | intro result looked =>
      cases result with
      | error f => exact .intro _ looked
      | ok phase =>
        simp only [looked.session.isSome_delivery]
        split
        next => exact .intro _ looked
        next => exact ih looked

theorem waitUntil (matching : dev.Matches dev' D) (done : Phase → Bool → Bool) (left : Nat) :
    ∀ {st : Station σ} {st' : Station τ}, Alike D st st' →
      Concur D (st.waitUntil dev done left) (st'.waitUntil dev' done left) := by
  induction left using Nat.strongRecOn with
  | ind left ih =>
    intro st st' alike
    have looked := lookUntil matching done (if left = 0 then 1 else st.session.options.looks) alike
    rw [Station.waitUntil, Station.waitUntil, alike.session.options]
    generalize st.lookUntil dev done _ = outcome, st'.lookUntil dev' done _ = outcome' at looked ⊢
    cases looked with
    | intro result looked =>
      cases result with
      | error f => exact .intro _ looked
      | ok found =>
        cases found with
        | some phase => exact .intro _ looked
        | none =>
          simp only [looked.session.options]
          split
          next => exact .intro _ looked
          next more =>
            exact ih _ (by omega) ((elapse matching _ looked).close matching)

theorem perform (matching : dev.Matches dev' D) (alike : Alike D st st') {command command' : Command}
    (calms : command.Calms command') : Concur D (st.perform dev command) (st'.perform dev' command') := by
  cases calms with
  | startNotified calms tag refusal =>
    exact (alike.start matching (.some calms) tag refusal).map Reply.finished
  | same =>
    cases command with
    | configure c => exact (alike.configure matching c).map Reply.finished
    | start tag => exact (alike.start matching .none tag none).map Reply.finished
    | startNotified reactions tag refusal =>
      exact (alike.start matching (.some (Reaction.Calms.refl reactions)) tag refusal).map Reply.finished
    | stop => exact (alike.halt matching).map Reply.finished
    | poll => exact (alike.pollData matching).map Reply.batches
    | pollRows => exact (alike.pollRows matching).map Reply.rows
    | refresh => exact (alike.refreshPhase matching).map Reply.phase
    | waitRunning =>
      simp only [Station.perform, Station.waitRunning, alike.session.options]
      exact (waitUntil matching _ _ alike).map Reply.phase
    | waitFinished =>
      simp only [Station.perform, Station.waitFinished, alike.session.options]
      exact (waitUntil matching _ _ alike).map Reply.phase
    | deviceConfiguration => exact (alike.deviceConfiguration matching).map Reply.configuration
    | drop => exact .intro _ (alike.drop matching)

end Station.Alike

end TriggeredSampler
