import TriggeredSampler.Device.Playback
import TriggeredSampler.Proofs.Session.Settled

/-! # The notices of a run

A session goes through `Step`s: commands of its owner, stops from elsewhere, reports, passing time, and
whatever else happens to the device. At the end of each step an idle delivery notices that the session is
over. In a `course` it may notice that at any time.

* `Station.run`, `Station.course` — the session behind some steps, and behind some moves.
* `Station.begins` — a start that the device accepts begins a run.
* `Station.notices_of_run` — what the handler of a run is told.
-/

namespace TriggeredSampler

variable {σ : Type}

/-- Something that happens to a session and its device. -/
inductive Step (σ : Type) where
  /-- A command of the owner, unless the session was dropped. -/
  | perform (command : Command)
  /-- A stop through a handle, which works on a dropped session as well. -/
  | halt
  /-- The device sends a report. -/
  | receive (report : Report)
  | pass (milliseconds : Nat)
  /-- Something else happens to the device. -/
  | disturb (change : σ → σ)
  /-- The device will send no more reports. -/
  | hangUp

/-- The device hangs up. -/
def Step.hangsUp : Step σ → Bool
  | .hangUp => true
  | _ => false

/-- What happens to a session: a step, or a look of its idle delivery, which may come at any time. -/
inductive Move (σ : Type) where
  | act (step : Step σ)
  | look

/-- The device hangs up. -/
def Move.hangsUp : Move σ → Bool
  | .act step => step.hangsUp
  | .look => false

namespace Station

variable (dev : Device σ) {st st' : Station (Journal σ)} {watch : Option Run} {gone : Bool}

/-- What happens in a step, before an idle delivery looks at the session. -/
def act (step : Step σ) (st : Station (Journal σ)) : Station (Journal σ) :=
  match step with
  | .perform command => if st.session.live then (st.perform dev.journaled command).2 else st
  | .halt => (st.halt dev.journaled).2
  | .receive report => st.receive dev.journaled report
  | .pass milliseconds => st.elapse dev.journaled milliseconds
  | .disturb change => { st with device := ⟨change st.device.device, st.device.entries⟩ }
  | .hangUp => st.endDelivery

/-- What a step returns to its caller; a dropped session takes no commands. -/
def reply? (step : Step σ) (st : Station (Journal σ)) : Option Reply :=
  match step with
  | .perform command => if st.session.live then some (st.perform dev.journaled command).1 else none
  | .halt => some (.finished (st.halt dev.journaled).1)
  | _ => none

/-- A step. -/
def step (step : Step σ) (st : Station (Journal σ)) : Station (Journal σ) :=
  (st.act dev step).close dev.journaled

/-- Several steps. -/
def run (steps : List (Step σ)) (st : Station (Journal σ)) : Station (Journal σ) :=
  steps.foldl (fun st s => st.step dev s) st

def move (move : Move σ) (st : Station (Journal σ)) : Station (Journal σ) :=
  match move with
  | .act step => st.act dev step
  | .look => st.close dev.journaled

/-- Several moves: unlike behind a step, the session may be over and its delivery still open. -/
def course (moves : List (Move σ)) (st : Station (Journal σ)) : Station (Journal σ) :=
  moves.foldl (fun st move => st.move dev move) st

/-- Some steps are a course: behind each the idle delivery looks at the session. -/
theorem run_eq_course (steps : List (Step σ)) (st : Station (Journal σ)) :
    st.run dev steps = st.course dev (steps.flatMap fun step => [.act step, .look]) := by
  -- by induction on the steps
  induction steps generalizing st with
  | nil => rfl
  | cons step rest ih => exact ih (st.step dev step)

theorem Settled.hangUp (settled : Settled watch gone st) : Settled watch true st.endDelivery :=
  ⟨⟨⟨settled.sound.numbering, by simp [endDelivery], settled.sound.stalled⟩, rfl, settled.prior,
    fun run member same => (settled.tells run member same).hangUp⟩, settled.dropped⟩

theorem Settled.act (settled : Settled watch gone st) (step : Step σ) :
    Settled watch (gone || step.hangsUp) (st.act dev step) := by
  have upholds : Upholds dev.journaled (Settled watch gone) fun _ => True := upholds_settled dev
  cases step with
  | perform command =>
    simp only [Step.hangsUp, Bool.or_false, Station.act]
    split
    next live => exact (upholds.perform settled live command).1
    next => exact settled
  | halt =>
    simp only [Step.hangsUp, Bool.or_false]
    exact (upholds.halt st settled).holds
  | receive report =>
    simp only [Step.hangsUp, Bool.or_false]
    exact settled.of_keeps (receive_keeps dev settled.sound report) (settled.receive dev report)
  | pass milliseconds =>
    simp only [Step.hangsUp, Bool.or_false]
    exact upholds.elapse settled milliseconds
  | disturb change =>
    simp only [Step.hangsUp, Bool.or_false]
    have quiet : Adds st.device.entries st.device.entries [] := .refl _
    have keeps : Keeps st (st.act dev (.disturb change)) := keeps_device quiet
    exact settled.of_keeps keeps (settled.unchanged keeps rfl rfl quiet)
  | hangUp =>
    simp only [Step.hangsUp, Bool.or_true]
    exact settled.hangUp

theorem Settled.step (settled : Settled watch gone st) (step : Step σ) :
    Settled watch (gone || step.hangsUp) (st.step dev step) :=
  (upholds_settled dev).close _ (settled.act dev step)

theorem Settled.run (settled : Settled watch gone st) (steps : List (Step σ)) :
    Settled watch (gone || steps.any Step.hangsUp) (st.run dev steps) := by
  -- by induction on the steps
  induction steps generalizing st gone with
  | nil => simpa [Station.run] using settled
  | cons step rest ih =>
    have after := ih (settled.step dev step)
    rw [List.any_cons, ← Bool.or_assoc]
    exact after

theorem Settled.move (settled : Settled watch gone st) (move : Move σ) :
    Settled watch (gone || move.hangsUp) (st.move dev move) := by
  cases move with
  | act step => exact settled.act dev step
  | look =>
    rw [Move.hangsUp, Bool.or_false]
    exact (upholds_settled dev).close st settled

theorem Settled.course (settled : Settled watch gone st) (moves : List (Move σ)) :
    Settled watch (gone || moves.any Move.hangsUp) (st.course dev moves) := by
  -- by induction on the moves
  induction moves generalizing st gone with
  | nil => simpa [Station.course] using settled
  | cons move rest ih =>
    have after := ih (settled.move dev move)
    rw [List.any_cons, ← Bool.or_assoc]
    exact after

/-- Behind a step only an active session has a delivery under way. -/
theorem delivery_step (settled : Settled watch gone st) (step : Step σ)
    (idle : (st.step dev step).session.phase.isActive = false) :
    (st.step dev step).session.delivery = none := by
  have acted := settled.act dev step
  by_cases active : (st.act dev step).session.phase.isActive = true
  · -- an active session is not closed
    have going := Phase.isTerminal_of_isActive active
    have same : st.step dev step = st.act dev step := by
      rw [Station.step, Station.close]
      split
      next => rfl
      next => rw [if_neg (by simp [going])]
    rw [same, active] at idle
    cases idle
  · exact delivery_close dev.journaled acted.sound (by simpa using active)

theorem delivery_run (settled : Settled watch gone st) (steps : List (Step σ))
    (first : st.session.phase.isActive = false → st.session.delivery = none)
    (idle : (st.run dev steps).session.phase.isActive = false) :
    (st.run dev steps).session.delivery = none := by
  induction steps generalizing st gone with
  | nil => exact first idle
  | cons step rest ih => exact ih (settled.step dev step) (delivery_step dev settled step) idle

theorem settled_bind (handle : Handle) (options : Options) (journal : Journal σ) :
    Settled none gone (⟨.bind handle options, journal⟩ : Station (Journal σ)) :=
  ⟨⟨⟨rfl, by simp [Session.bind], rfl⟩, rfl, by simp, by simp⟩, by simp [Session.bind]⟩

/-! ## The beginning of a run -/

theorem not_accepted {entries later : List Entry} {sent : List Report} (adds : Adds entries later sent)
    (tag : Int) : ¬∃ entry ∈ later.drop entries.length, entry.acceptsStart tag = true := by
  rintro ⟨entry, member, accepts⟩
  obtain ⟨added, rfl, quiet, _⟩ := adds
  rw [List.drop_left] at member
  rw [Entry.acceptsStart_of_ofStart (quiet entry member)] at accepts
  cases accepts

theorem not_accepted_refusal {entries earlier later added : List Entry} {sent : List Report} {tag : Int}
    {fault : DeviceFault} (before : Adds entries earlier sent)
    (journal : later = earlier ++ .asked (.start true tag) :: added ++
      [.answered (.start true tag) (.error fault)])
    (quiet : ∀ entry ∈ added, entry.ofStart = false) :
    ¬∃ entry ∈ later.drop entries.length, entry.acceptsStart tag = true := by
  rintro ⟨entry, member, accepts⟩
  obtain ⟨first, rfl, quiet', _⟩ := before
  rw [journal, List.append_assoc, List.append_assoc, List.drop_left] at member
  simp only [List.cons_append, List.mem_append, List.mem_cons, List.not_mem_nil, or_false] at member
  rcases member with early | rfl | late | rfl
  · rw [Entry.acceptsStart_of_ofStart (quiet' entry early)] at accepts
    cases accepts
  · cases accepts
  · rw [Entry.acceptsStart_of_ofStart (quiet entry late)] at accepts
    cases accepts
  · cases accepts

/-- What a session does by itself is no answer to a start. -/
theorem accepted_before {entries middle later : List Entry} {sent : List Report} {tag : Int}
    (adds : Adds middle later sent) (accepted : ∃ entry ∈ later.drop entries.length, entry.acceptsStart tag = true) :
    ∃ entry ∈ middle.drop entries.length, entry.acceptsStart tag = true := by
  obtain ⟨added, journal, quiet, _⟩ := adds
  obtain ⟨entry, member, accepts⟩ := accepted
  rw [journal, List.drop_append] at member
  cases List.mem_append.1 member with
  | inl early => exact ⟨entry, early, accepts⟩
  | inr late =>
    rw [Entry.acceptsStart_of_ofStart (quiet entry (List.mem_of_mem_drop late))] at accepts
    cases accepts

/-- The run that begins when a session asks for a start, behind the journal `prior`. -/
def runBegun (st : Station (Journal σ)) (tag : Int) (prior : List Entry) : Run :=
  ⟨st.session.tracked, tag, st.session.notes.length, prior ++ [.asked (.start true tag)]⟩

theorem startsIn_runBegun (st : Station (Journal σ)) (tag : Int) (prior : List Entry) :
    startsIn (st.runBegun tag prior).prior = startsIn prior + 1 := by
  rw [runBegun, startsIn_append, startsIn_start]
  rfl

/-- The journal of a run, as long as no other start is asked for. -/
theorem latestRun_runBegun {tag : Int} {prior since : List Entry}
    (journal : st'.device.entries = (st.runBegun tag prior).prior ++ since)
    (quiet : startsIn since = 0) : latestRun st'.device.entries = since := by
  rw [journal, runBegun, List.append_assoc]
  exact latestRun_of_start rfl quiet

/-- A start that the device accepts begins a run: its handler has been told nothing before it, and
whatever the device sends from now on. -/
theorem begins (settled : Settled none gone st) (live : st.session.live = true)
    (reactions : List Reaction) (tag : Int)
    (accepted : ∃ entry ∈ (st.start dev.journaled (some reactions) tag none).2.device.entries.drop
      st.device.entries.length, entry.acceptsStart tag = true) :
    ∃ prior, Settled (some (st.runBegun tag prior)) false
        (st.start dev.journaled (some reactions) tag none).2 ∧
      startsIn (st.start dev.journaled (some reactions) tag none).2.device.entries = startsIn prior + 1 := by
  have starting := settled.starting dev (some reactions) tag none
  generalize st.start dev.journaled (some reactions) tag none = outcome at starting accepted ⊢
  cases starting with
  | unready m => exact absurd accepted (not_accepted (.refl _) tag)
  | unwritten primed fault =>
    obtain ⟨_, before⟩ := primed.keeps.adds
    exact absurd accepted (not_accepted before tag)
  | unheard _ thread => cases thread
  | @launched after primed trigger =>
    obtain ⟨_, before⟩ := primed.keeps.adds
    have asking : ∀ raised, Calm (some (st.runBegun tag after.device.entries)) false
        ((after.armed (some reactions) tag).entered raised (.asked (.start true tag))) := by
      intro raised
      refine ⟨⟨primed.calm.sound.numbering, fun _ => ⟨rfl, rfl⟩, primed.calm.sound.stalled⟩, rfl,
        ?_, ?_⟩
      · rintro _ ⟨⟩
        exact Nat.le_refl _
      · rintro _ ⟨⟩ _
        refine .inl ⟨⟨tag, reactions, []⟩, [], [], rfl, rfl, primed.keeps.tracked,
          (List.append_nil _).symm, rfl, rfl, ?_, ?_, ?_⟩
        all_goals simp [runBegun, noticesFrom, entered, armed, primed.same]
    have alive : after.session.live = true := by rw [primed.same, live]
    obtain ⟨a, running, eq, started, added, journal, quiet⟩ := Calm.startLine dev asking alive
    refine ⟨after.device.entries, ?_⟩
    have starts : startsIn running.device.entries = startsIn after.device.entries + 1 := by
      rw [journal, startsIn_answered quiet]
    simp only [launched, eq] at accepted ⊢
    cases a with
    | error fault =>
      -- the only answer to a start is a refusal
      obtain ⟨_, silent⟩ := (refused_keeps dev started.sound fault).1.adds
      exact absurd (accepted_before silent accepted) (not_accepted_refusal before journal quiet)
    | ok _ =>
      obtain ⟨active, kept⟩ := started.activate dev trigger
      obtain ⟨_, adds⟩ := kept.adds
      exact ⟨active, by rw [adds.startsIn, starts]⟩

/-- If the last notice is terminal and no other one is, there is one terminal notice. -/
theorem length_filter_terminal {notices : List Notice}
    (going : ∀ notice ∈ notices.dropLast, notice.phase.isTerminal = false)
    (ended : ∃ notice ∈ notices.getLast?, notice.phase.isTerminal = true) :
    (notices.filter fun notice => notice.phase.isTerminal).length = 1 := by
  obtain ⟨last, listed, terminal⟩ := ended
  obtain ⟨earlier, rfl⟩ := List.getLast?_eq_some_iff.1 listed
  rw [List.dropLast_concat] at going
  have none : earlier.filter (fun notice => notice.phase.isTerminal) = [] := by
    rw [List.filter_eq_nil_iff]
    intro notice member
    simp [going notice member]
  simp [none, terminal]

theorem step_begins (settled : Settled none gone st) (reactions : List Reaction) (tag : Int)
    (accepted : ∃ entry ∈ (st.step dev (.perform (.startNotified reactions tag))).device.entries.drop
      st.device.entries.length, entry.acceptsStart tag = true) :
    ∃ prior, Settled (some (st.runBegun tag prior)) false
        (st.step dev (.perform (.startNotified reactions tag))) ∧
      startsIn (st.step dev (.perform (.startNotified reactions tag))).device.entries =
        startsIn prior + 1 := by
  by_cases live : st.session.live = true
  · have acts : st.act dev (.perform (.startNotified reactions tag)) =
        (st.start dev.journaled (some reactions) tag none).2 := by
      rw [act, if_pos live]
      rfl
    have started := settled.start dev live (some reactions) tag none
    obtain ⟨_, keeps⟩ := started.close dev
    obtain ⟨sent, adds⟩ := keeps.adds
    rw [step, acts] at accepted ⊢
    obtain ⟨prior, begun, starts⟩ := begins dev settled live reactions tag (accepted_before adds accepted)
    exact ⟨prior, (upholds_settled dev).close _ begun, by rw [adds.startsIn, starts]⟩
  · -- a dropped session does nothing
    have acts : st.act dev (.perform (.startNotified reactions tag)) = st := by
      rw [act, if_neg live]
    obtain ⟨_, keeps⟩ := settled.close dev
    obtain ⟨_, adds⟩ := keeps.adds
    rw [step, acts] at accepted
    exact absurd accepted (not_accepted adds tag)

/-- **Ordered delivery with one terminal notice.** Let a device accept a start in some step, and let no
other start be asked for in the steps after it. The notices of the handler are those of the first reports
that the device sent to the run, one for each and in their order, perhaps followed by a closing notice.
All but the last are not terminal; and unless the device hung up exactly one is terminal as soon as the
session is over or dropped. -/
theorem notices_of_run (handle : Handle) (options : Options) (device : σ) (before after : List (Step σ))
    (reactions : List Reaction) (tag : Int) {st₀ st₁ st₂ : Station (Journal σ)}
    (prelude : st₀ = run dev before ⟨.bind handle options, ⟨device, []⟩⟩)
    (start : st₁ = step dev (.perform (.startNotified reactions tag)) st₀)
    (course : st₂ = run dev after st₁)
    (accepted : ∃ entry ∈ st₁.device.entries.drop st₀.device.entries.length,
      entry.acceptsStart tag = true)
    (only : startsIn st₂.device.entries = startsIn st₁.device.entries) :
    ∃ delivered rest front closing,
      sentReports (latestRun st₂.device.entries) = delivered ++ rest ∧
      st₂.noticesFrom st₀.session.notes.length = front ++ closing ∧
      List.Forall₂ (Shows st₀.session.tracked) delivered front ∧
      (closing = [] ∨ ∃ notice, closing = [notice] ∧ notice.tag = tag ∧ notice.data = []) ∧
      (∀ notice ∈ (front ++ closing).dropLast, notice.phase.isTerminal = false) ∧
      ((∀ step ∈ after, step.hangsUp = false) →
        st₂.session.phase.isTerminal = true ∨ st₂.session.live = false →
        ((front ++ closing).filter fun notice => notice.phase.isTerminal).length = 1) := by
  have bound : Settled none (false || before.any Step.hangsUp) st₀ := by
    rw [prelude]
    exact (settled_bind handle options _).run dev before
  obtain ⟨prior, begun, starts⟩ := step_begins dev bound reactions tag (start ▸ accepted)
  rw [← start] at begun starts
  have settled := begun.run dev after
  have tells := settled.tells _ rfl (by rw [← course, only, starts, startsIn_runBegun])
  have closed : st₂.session.phase.isActive = false → st₂.session.delivery = none := by
    intro idle
    rw [course] at idle ⊢
    exact delivery_run dev begun after (start ▸ delivery_step dev bound _) idle
  rw [← course] at tells settled
  rcases tells with ⟨d, delivered, since, telling⟩ | ⟨delivered, rest, front, closing, since, told⟩
  · -- the delivery is under way, so the session is still active
    refine ⟨delivered, d.queue, st₂.noticesFrom st₀.session.notes.length, [], ?_,
      (List.append_nil _).symm, telling.shown, .inl rfl, ?_, ?_⟩
    · rw [latestRun_runBegun telling.journal telling.quiet, telling.sent, List.append_nil]
    · intro notice member
      rw [List.append_nil] at member
      exact telling.going notice (List.dropLast_subset _ member)
    · intro _ ended
      have idle : st₂.session.phase.isActive = false := by
        cases ended with
        | inl ended => exact Phase.isActive_of_isTerminal ended
        | inr dropped => exact settled.dropped dropped
      have none := closed idle
      rw [telling.delivery] at none
      cases none
  · refine ⟨delivered, rest, front, closing, ?_, told.notices, told.shown, told.closes, told.going, ?_⟩
    · rw [latestRun_runBegun told.journal told.quiet, told.sent]
    · intro listening _
      have stayed : (false || after.any Step.hangsUp) = false := by
        rw [Bool.false_or, List.any_eq_false]
        intro step member
        simp [listening step member]
      exact length_filter_terminal told.going (told.ended stayed)

/-- A sampler of one address. -/
def oneAddress : Configuration := { Configuration.ofMode .normal with
  period := 10, duration := 20, start := .immediate, tracked := [⟨0x2000, 0⟩] }

/-- Two reports with data, the second one of them terminal. -/
theorem notices_of_twoReports :
    let first : Report := ⟨.running, none, [⟨0, [⟨7, 0⟩]⟩], 5⟩
    let second : Report := ⟨.completed, none, [⟨0, [⟨8, 10⟩]⟩], 5⟩
    let st₀ := run Playback.device [.perform (.configure oneAddress)]
      ⟨.bind ⟨0⟩ .standard, ⟨.blank, []⟩⟩
    let st₁ := step Playback.device (.perform (.startNotified [] 5)) st₀
    let st₂ := run Playback.device [.receive first, .receive second] st₁
    (∃ entry ∈ st₁.device.entries.drop st₀.device.entries.length, entry.acceptsStart 5 = true) ∧
      startsIn st₂.device.entries = startsIn st₁.device.entries ∧
      (st₂.noticesFrom 0).map Notice.data = [first.data, second.data] ∧
      ((st₂.noticesFrom 0).filter fun notice => notice.phase.isTerminal).length = 1 := by
  intro first second st₀ st₁ st₂
  have accepted : ∃ entry ∈ st₁.device.entries.drop st₀.device.entries.length,
      entry.acceptsStart 5 = true := by decide +kernel
  have only : startsIn st₂.device.entries = startsIn st₁.device.entries := by decide +kernel
  obtain ⟨_, _, front, closing, _, notices, _, _, _, once⟩ := notices_of_run Playback.device ⟨0⟩
    .standard .blank [.perform (.configure oneAddress)] [.receive first, .receive second] [] 5
    rfl rfl rfl accepted only
  have ended : st₂.session.phase.isTerminal = true := by decide +kernel
  refine ⟨accepted, only, by decide +kernel, ?_⟩
  rw [show st₂.noticesFrom 0 = front ++ closing from notices]
  exact once (by simp [Step.hangsUp]) (.inl ended)

end Station

end TriggeredSampler
