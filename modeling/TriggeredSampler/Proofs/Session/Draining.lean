import TriggeredSampler.Proofs.Sample.Counting
import TriggeredSampler.Proofs.Session.Equipment

/-! # The samples of a run that is polled

A session hands out the samples of a run in two ways: in batches, as its device has them, or as rows with
numbers. Only the rows are counted, so a sample that went out in a batch leaves no trace in the numbers of
the rows behind it.

* `Station.handedOut`, `Station.takings` — the samples that polls handed out, and the data they took.
* `Session.Polling` — what is known of the numbering, as long as no handler gets the data.
* `Station.numbers_of_polls` — the number of a row, and what it misses of the samples before it.
-/

namespace TriggeredSampler

variable {σ : Type}

namespace Session

/-- The data goes to a handler of a run, or `Q` holds of the numbering. -/
inductive Polling (Q : Numbering → Prop) (s : Session) : Prop where
  | told (notified : s.notified = true) (begun : s.phase.begun = true)
  | polled (notified : s.notified = false) (numbering : Q s.numbering)

theorem Polling.imp {Q Q' : Numbering → Prop} {s : Session} (polling : s.Polling Q)
    (weaker : ∀ n, Q n → Q' n) : s.Polling Q' := by
  cases polling with
  | told notified begun => exact .told notified begun
  | polled notified numbering => exact .polled notified (weaker _ numbering)

/-- Only a session with a handler is shown anything, so the numbering of polls is left alone. -/
theorem lasting_polling (Q : Numbering → Prop) :
    Lasting (Polling Q) fun _ _ s => s.notified = true ∧ s.phase.begun = true where
  turn polling turn := by
    cases polling with
    | told notified begun => exact .told notified (turn.onward.begun begun)
    | polled notified numbering => exact .polled notified numbering
  leave polling := by
    cases polling with
    | told notified begun => exact .told notified begun
    | polled notified numbering => exact .polled notified numbering
  queue _ polling _ := by
    cases polling with
    | told notified begun => exact .told notified begun
    | polled notified numbering => exact .polled notified numbering
  reacting _ _ := ⟨fun told turn => ⟨told.1, turn.onward.begun told.2⟩, id, fun _ told _ => told⟩
  shown {s s' d notice} sound delivery gives _ := by
    have notified : s'.notified = true := by
      rw [gives.frame]
      exact sound.notified delivery
    exact ⟨notified, gives.turn.onward.begun (sound.begun delivery)⟩
  noted told _ := .told told.1 told.2
  hush polling := by
    cases polling with
    | told notified begun => exact .told notified begun
    | polled notified numbering => exact .polled notified numbering

end Session

namespace Station

variable (dev : Device σ) {st st₀ : Station (Journal σ)} {gone : Bool}

/-- The samples that a step hands out to the owner of the session. -/
def drawn (step : Step σ) (st : Station (Journal σ)) : List Drawn :=
  match st.reply? dev step with
  | some (.batches (.ok data)) => Drawn.ofData st.session.tracked data
  | some (.rows (.ok rows)) => rows.map .row
  | _ => []

/-- The samples that were handed out in some steps. -/
def handedOut : List (Step σ) → Station (Journal σ) → List Drawn
  | [], _ => []
  | step :: rest, st => st.drawn dev step ++ handedOut rest (st.step dev step)

/-- The data that a step polls from the device. -/
def taking (step : Step σ) (st : Station (Journal σ)) : List Batch :=
  match step with
  | .perform .poll | .perform .pollRows =>
    if st.session.live then (st.pollData dev.journaled).1.toOption.getD [] else []
  | _ => []

/-- The data that was polled from the device in some steps. -/
def takings : List (Step σ) → Station (Journal σ) → List Batch
  | [], _ => []
  | step :: rest, st => st.taking dev step ++ takings rest (st.step dev step)

/-! ## One step -/

/-- What a step other than a poll for rows hands out is not numbered. -/
theorem plain_of_drawn {step : Step σ} (other : step ≠ .perform .pollRows) :
    ∀ d ∈ st.drawn dev step, ∃ j, d = .plain j := by
  have nothing : ∀ d ∈ ([] : List Drawn), ∃ j, d = .plain j := by
    intro d member
    cases member
  rw [drawn]
  split
  next => exact Drawn.plain_of_mem_ofData
  next rows replies =>
    -- rows are returned by a poll for rows only
    cases step with
    | perform command =>
      simp only [reply?] at replies
      split at replies
      next =>
        cases command with
        | pollRows => exact absurd rfl other
        | _ => cases replies
      next => cases replies
    | _ => cases replies
  next => exact nothing

/-- What a poll for rows does: it numbers the data that it took, or fails and numbers nothing. -/
inductive Rowed (st : Station (Journal σ)) : Prop where
  | rows {data : List Batch} {rows : List Row} {n : Numbering} (polled : st.session.notified = false)
      (taking : st.taking dev (.perform .pollRows) = data)
      (drawn : st.drawn dev (.perform .pollRows) = rows.map .row)
      (numbers : st.session.numbering.number data = (.ok rows, n))
      (polling : (st.step dev (.perform .pollRows)).session.Polling (· = n))
  | failed (taking : st.taking dev (.perform .pollRows) = [])
      (drawn : st.drawn dev (.perform .pollRows) = [])
      (polling : ∀ {Q}, st.session.Polling Q → (st.step dev (.perform .pollRows)).session.Polling Q)

theorem pollRows_of_error {f : Failure} (failed : (st.pollData dev.journaled).1 = .error f) :
    st.pollRows dev.journaled = (.error f, (st.pollData dev.journaled).2) := by
  simp only [pollRows, pollData] at failed ⊢
  generalize st.poll (line dev.journaled) = outcome at failed ⊢
  obtain ⟨_, after⟩ := outcome
  obtain rfl : _ = Except.error f := failed
  rfl

theorem session_pollRows {data : List Batch} (polled : (st.pollData dev.journaled).1 = .ok data) :
    (st.pollRows dev.journaled).2.session = ((st.pollData dev.journaled).2.session.number data).2 := by
  simp only [pollRows, pollData] at polled ⊢
  generalize st.poll (line dev.journaled) = outcome at polled ⊢
  obtain ⟨_, after⟩ := outcome
  obtain rfl : _ = Except.ok data := polled
  rfl

theorem unnotified_of_polled {data : List Batch} (polled : (st.pollData dev.journaled).1 = .ok data) :
    st.session.notified = false := by
  cases notified : st.session.notified with
  | false => rfl
  | true =>
    rw [pollData, poll, if_pos notified] at polled
    cases polled

theorem rowed_of_live (settled : Settled none gone st) (live : st.session.live = true) : Rowed dev st := by
  have replies : st.reply? dev (.perform .pollRows) = some (.rows (st.pollRows dev.journaled).1) :=
    if_pos live
  have takes : st.taking dev (.perform .pollRows) = (st.pollData dev.journaled).1.toOption.getD [] :=
    if_pos live
  have acts : st.act dev (.perform .pollRows) = (st.pollRows dev.journaled).2 := if_pos live
  have sound := (settled.act dev (.perform .pollRows)).sound
  rw [acts] at sound
  have steps : st.step dev (.perform .pollRows) = (st.pollRows dev.journaled).2.close dev.journaled := by
    rw [step, acts]
  cases result : (st.pollData dev.journaled).1 with
  | error f =>
    have fails := pollRows_of_error dev result
    rw [fails] at replies steps sound
    refine .failed (by rw [takes, result]; rfl) (by simp only [drawn, replies]) ?_
    intro Q polling
    have lasting := Session.lasting_polling Q
    rw [steps]
    exact lasting.close dev sound (lasting.poll dev settled.toCalm polling)
  | ok data =>
    obtain ⟨_, rows, succeeds, numbers⟩ := (pollsRows dev settled.toCalm).rows data result
    have unnotified := unnotified_of_polled dev result
    refine .rows unnotified (by rw [takes, result]; rfl) (by simp only [drawn, replies, succeeds])
      numbers ?_
    rw [steps]
    apply (Session.lasting_polling _).close dev sound
    have polled := (Session.lasting_polling fun _ => True).poll dev settled.toCalm (.polled unnotified trivial)
    rw [session_pollRows dev result]
    cases polled with
    | told notified begun => exact .told notified begun
    | polled notified _ => exact .polled notified rfl

theorem rowed_pollRows (settled : Settled none gone st) : Rowed dev st := by
  cases live : st.session.live with
  | true => exact rowed_of_live dev settled live
  | false =>
    have nothing : st.act dev (.perform .pollRows) = st := if_neg (by simp [live])
    refine .failed ?_ ?_ ?_
    · simp only [taking, live, Bool.false_eq_true, if_false]
    · simp only [drawn, reply?, live, Bool.false_eq_true, if_false]
    · intro Q polling
      rw [step, nothing]
      exact (Session.lasting_polling Q).close dev settled.sound polling

theorem polling_step (settled : Settled none gone st) {step : Step σ}
    (kept : accepted? dev step st = none) (other : step ≠ .perform .pollRows) {Q : Numbering → Prop}
    (polling : st.session.Polling Q) : (st.step dev step).session.Polling Q := by
  refine (Session.lasting_polling Q).step dev settled kept ?_ (fun rows => absurd rows other) polling
  intro handler tag _ _ configured
  cases polling with
  | told _ begun =>
    rw [configured] at begun
    cases begun
  | polled _ numbering =>
    cases handler with
    | none => exact .polled rfl numbering
    | some reactions => exact .told rfl rfl

/-- The samples that a step hands out are those of the data that it takes. -/
theorem iteration_drawn (settled : Settled none gone st) (step : Step σ) :
    (st.drawn dev step).map Drawn.iteration = sampleIterations st.session.tracked (st.taking dev step) := by
  cases step with
  | perform command =>
    cases live : st.session.live with
    | false =>
      have nothing : st.taking dev (.perform command) = [] := by
        cases command <;> simp only [taking, live, Bool.false_eq_true, if_false]
      simp only [nothing, drawn, reply?, live, Bool.false_eq_true, if_false]
      rfl
    | true =>
      have replies : st.reply? dev (.perform command) = some (st.perform dev.journaled command).1 :=
        if_pos live
      cases command with
      | poll =>
        simp only [drawn, replies, perform, Prod.map_fst, taking, live, if_true]
        cases (st.pollData dev.journaled).1 with
        | error f => rfl
        | ok data => exact Drawn.map_iteration_ofData _ data
      | pollRows =>
        cases rowed_pollRows dev settled with
        | rows _ taking drawn numbers _ =>
          rw [taking, drawn, Drawn.map_iteration_row, Numbering.map_iteration_number numbers,
            settled.sound.numbering]
        | failed taking drawn _ =>
          rw [taking, drawn]
          rfl
      | _ =>
        simp only [drawn, replies]
        rfl
  | _ => rfl

/-! ## All steps -/

theorem counted_step (settled : Settled none gone st) {step : Step σ}
    (kept : accepted? dev step st = none) {past : List Drawn} (counted : Counted past) {later : List Batch}
    (polling : st.session.Polling fun n => Tallies past n ∧ Onward n (st.taking dev step ++ later)) :
    Counted (past ++ st.drawn dev step) ∧
      (st.step dev step).session.Polling fun n =>
        Tallies (past ++ st.drawn dev step) n ∧ Onward n later := by
  by_cases rows : step = .perform .pollRows
  · subst rows
    cases rowed_pollRows dev settled with
    | rows polled taking drawn numbers behind =>
      rw [taking] at polling
      rw [drawn]
      cases polling with
      | told notified _ => cases polled.symm.trans notified
      | polled _ numbering =>
        obtain ⟨tallies, recounted, onward⟩ := numbering.2.number numbers numbering.1 counted
        refine ⟨recounted, behind.imp ?_⟩
        rintro n rfl
        exact ⟨tallies, onward⟩
    | failed taking drawn behind =>
      rw [taking, List.nil_append] at polling
      rw [drawn, List.append_nil]
      exact ⟨counted, behind polling⟩
  · have plain : ∀ d ∈ st.drawn dev step, ∃ j, d = .plain j := plain_of_drawn dev rows
    refine ⟨counted.append_plain plain, (polling_step dev settled kept rows polling).imp ?_⟩
    rintro n ⟨tallies, onward⟩
    exact ⟨tallies.append_plain plain, onward.skip⟩

theorem counted_run (settled : Settled none gone st) {since : List (Step σ)}
    (kept : acceptances dev since st = []) {past : List Drawn} (counted : Counted past)
    (polling : st.session.Polling fun n => Tallies past n ∧ Onward n (takings dev since st)) :
    Counted (past ++ handedOut dev since st) := by
  -- by induction on the steps
  induction since generalizing st gone past with
  | nil =>
    rw [handedOut, List.append_nil]
    exact counted
  | cons step rest ih =>
    obtain ⟨none, later⟩ := (acceptances_cons dev).1 kept
    obtain ⟨recounted, behind⟩ := counted_step dev settled none counted polling
    rw [handedOut, ← List.append_assoc]
    exact ih (settled.step dev step) later recounted behind

theorem iteration_handedOut (settled : Settled none gone st) {c : Option Configuration}
    (equipped : st.session.Equipped c) {since : List (Step σ)} (kept : acceptances dev since st = []) :
    (handedOut dev since st).map Drawn.iteration =
      sampleIterations st.session.tracked (takings dev since st) := by
  -- by induction on the steps
  induction since generalizing st gone with
  | nil => rfl
  | cons step rest ih =>
    obtain ⟨none, later⟩ := (acceptances_cons dev).1 kept
    have behind := equipped_step dev settled equipped step
    rw [none, Option.none_or] at behind
    have others := ih (settled.step dev step) behind later
    -- a sample stays as wide as it was
    rw [behind.tracked, ← equipped.tracked] at others
    rw [handedOut, takings, List.map_append, sampleIterations_append, iteration_drawn dev settled, others]

/-- At the beginning of a stretch nothing is numbered. -/
theorem Anew.unnumbered (anew : Anew dev st) :
    st.session.notified = false ∧ ∃ tracked, st.session.numbering = .start tracked := by
  cases anew with
  | bound handle options device => exact ⟨rfl, 0, rfl⟩
  | @configured handle options device before st c course accepted =>
    subst course
    have settled := (@settled_bind _ false handle options ⟨device, []⟩).run dev before
    obtain ⟨_, _, eq⟩ := step_accepted dev settled.sound accepted (closed_run dev handle options device before)
    rw [eq]
    exact ⟨rfl, c.tracked.length, rfl⟩

theorem Anew.equipped (anew : Anew dev st) : ∃ c, st.session.Equipped c := by
  obtain ⟨handle, options, device, before, rfl⟩ := anew.exists_run
  rw [run_eq_course]
  exact ⟨_, equipped_bound dev handle options device _⟩

/-- **Rows count rows.** Take a session that was just bound or has just accepted a configuration, steps in
which it accepts no other one, and a device whose data does not go back to an earlier iteration. Whatever the
polls took is handed out, once and in order. A row carries the number of the rows of its iteration that were
handed out before it, however the polls divide the data. The samples of its iteration that went out in
batches are not among them, so the count of all the samples before it exceeds its number by those. -/
theorem numbers_of_polls (anew : Anew dev st₀) (since : List (Step σ)) (kept : acceptances dev since st₀ = [])
    (onward : ((takings dev since st₀).map Batch.iteration).Pairwise (· ≤ ·)) :
    let handed := handedOut dev since st₀
    handed.map Drawn.iteration = sampleIterations st₀.session.tracked (takings dev since st₀) ∧
      ∀ k row, handed[k]? = some (.row row) →
        row.number = (handed.take k).countP (Drawn.rowIn row.iteration) ∧
          ((handed.take k).countP fun d => d.iteration == row.iteration) =
            row.number + (handed.take k).countP (Drawn.plainIn row.iteration) := by
  intro handed
  obtain ⟨gone, settled⟩ := anew.settled
  obtain ⟨c, equipped⟩ := anew.equipped
  obtain ⟨polled, tracked, numbering⟩ := anew.unnumbered
  have polling : st₀.session.Polling fun n => Tallies [] n ∧ Onward n (takings dev since st₀) := by
    refine .polled polled ?_
    rw [numbering]
    exact ⟨.start tracked, List.pairwise_cons.2 ⟨fun _ _ => Nat.zero_le _, onward⟩⟩
  have counted : Counted handed := counted_run dev settled kept .nil polling
  refine ⟨iteration_handedOut dev settled equipped kept, fun k row listed => ?_⟩
  have number := counted.number listed
  refine ⟨number, ?_⟩
  rw [number]
  exact Drawn.countP_iteration _ _

/-- Of two samples of one iteration the first goes out in a batch, and the second one is number 0. -/
theorem numbers_of_mixedPolls :
    let prepared : Playback := { Playback.blank with
      phases := [.ok .running], data := [.ok [⟨0, [⟨7, 0⟩]⟩], .ok [⟨0, [⟨8, 10⟩]⟩]] }
    let since : List (Step Playback) := [.perform (.start 0), .perform .poll, .perform .pollRows]
    let st₀ := step Playback.device (.perform (.configure oneAddress))
      ⟨.bind ⟨0⟩ .standard, ⟨prepared, []⟩⟩
    let before := (handedOut Playback.device since st₀).take 1
    acceptances Playback.device since st₀ = [] ∧
      ((takings Playback.device since st₀).map Batch.iteration).Pairwise (· ≤ ·) ∧
      handedOut Playback.device since st₀ = [.plain 0, .row ⟨0, 0, [⟨8, 10⟩]⟩] ∧
      before.countP (fun d => d.iteration == 0) = 0 + before.countP (Drawn.plainIn 0) := by
  intro prepared since st₀ before
  have anew : Anew Playback.device st₀ := .configured ⟨0⟩ .standard prepared [] rfl (by decide +kernel)
  have kept : acceptances Playback.device since st₀ = [] := by decide +kernel
  have onward : ((takings Playback.device since st₀).map Batch.iteration).Pairwise (· ≤ ·) := by
    decide +kernel
  have handed : handedOut Playback.device since st₀ = [.plain 0, .row ⟨0, 0, [⟨8, 10⟩]⟩] := by decide +kernel
  obtain ⟨_, numbers⟩ := numbers_of_polls Playback.device anew since kept onward
  exact ⟨kept, onward, handed, (numbers 1 ⟨0, 0, [⟨8, 10⟩]⟩ (by rw [handed]; rfl)).2⟩

end Station

end TriggeredSampler
