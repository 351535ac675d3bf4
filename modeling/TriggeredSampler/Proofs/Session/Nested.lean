import TriggeredSampler.Proofs.Session.Calls
import TriggeredSampler.Proofs.Session.Settled

/-! # The calls of the owner in the journal of the device

While a request of the owner is answered, and when a delivery is closed, the device sends reports and is asked
for nothing but stops: those of handlers that end the run, and those that follow malformed data. All the
other entries of the journal come from the owner's calls.

* `Nests` — a journal that grew by reports and stops.
* `Station.Answered`, `Station.answered_line` — a request of the owner.
* `Records` — the journal of some calls.
-/

namespace TriggeredSampler

variable {σ : Type}

/-- A report, or an entry of a stop. -/
def Entry.isNested : Entry → Bool
  | .sent _ _ => true
  | .asked .stop => true
  | .answered .stop _ => true
  | _ => false

/-- The journal grew by reports and stops. -/
def Nests (entries later : List Entry) : Prop :=
  ∃ added, later = entries ++ added ∧ ∀ entry ∈ added, entry.isNested = true

namespace Nests

variable {entries later latest : List Entry}

theorem refl (entries : List Entry) : Nests entries entries :=
  ⟨[], by simp, by simp⟩

theorem trans (first : Nests entries later) (second : Nests later latest) : Nests entries latest := by
  obtain ⟨added, rfl, nested⟩ := first
  obtain ⟨more, rfl, nested'⟩ := second
  refine ⟨added ++ more, by simp, fun entry member => ?_⟩
  cases List.mem_append.1 member with
  | inl early => exact nested entry early
  | inr late => exact nested' entry late

theorem sent (entries : List Entry) (report : Report) (heard : Bool) :
    Nests entries (entries ++ [.sent report heard]) :=
  ⟨_, rfl, by simp [Entry.isNested]⟩

end Nests

namespace Station

variable (dev : Device σ) {st : Station (Journal σ)} {d : Delivery}

/-! ## Handlers -/

theorem nests_lineInside (st : Station (Journal σ)) :
    Nests st.device.entries (lineInside dev.journaled .stop st).2.device.entries := by
  obtain ⟨a, reports, device, eq⟩ := lineInside_eq dev .stop st
  rw [eq]
  refine ⟨_, List.append_assoc _ _ _, fun entry member => ?_⟩
  simp only [List.cons_append, List.mem_cons, List.mem_append, List.mem_map, List.not_mem_nil,
    or_false] at member
  rcases member with rfl | ⟨_, _, rfl⟩ | rfl <;> rfl

theorem nests_stop (st : Station (Journal σ)) :
    Nests st.device.entries (st.stop (lineInside dev.journaled)).2.device.entries := by
  have asked := nests_lineInside dev st
  rw [stop]
  split
  next => exact .refl _
  next =>
    split
    next => exact .refl _
    next =>
      generalize lineInside dev.journaled .stop st = outcome at asked ⊢
      obtain ⟨result, after⟩ := outcome
      cases result with
      | error _ => exact asked
      | ok _ => exact asked

theorem nests_react (notified : st.session.notified = true) (reaction : Reaction) :
    Nests st.device.entries (st.react dev.journaled reaction).2.device.entries := by
  cases reaction with
  | stop => exact nests_stop dev st
  | drop =>
    simp only [react, release]
    split
    next =>
      split
      next => exact nests_stop dev { st with session := { st.session with live := false } }
      next => exact .refl _
    next => exact .refl _
  | poll =>
    simp only [react, poll, notified, if_true]
    split <;> exact .refl _
  | _ => exact .refl _

theorem nests_present (notified : st.session.notified = true) (delivery : st.session.delivery = some d)
    (notice : Notice) : Nests st.device.entries (st.present dev.journaled notice).device.entries := by
  have reacts := @nests_react _ dev (st.awaiting { d with reactions := d.reactions.tail }) notified
    (d.reactions.headD .nothing)
  have notifies := notify_eq_noting dev.journaled delivery notice rfl
  simp only [present, notifies]
  split <;> exact reacts

theorem nests_deliver (sound : st.session.Sound) (delivery : st.session.delivery = some d)
    (report : Report) : Nests st.device.entries (st.deliver dev.journaled report).device.entries := by
  have accepted := st.session.accept_accepted sound.numbering report
  simp only [deliver]
  generalize st.session.accept report = result at accepted ⊢
  obtain ⟨notice, malformed, session⟩ := result
  simp only at accepted ⊢
  have waiting : session.delivery = some d := by rw [accepted.frame]; exact delivery
  have notified : session.notified = true := by rw [accepted.frame]; exact sound.notified delivery
  cases malformed with
  | false => exact @nests_present _ dev ⟨session, st.device⟩ d notified waiting notice
  | true =>
    have halted := nests_lineInside dev ⟨session, st.device⟩
    obtain ⟨a, reports, device, eq⟩ := lineInside_eq dev .stop ⟨session, st.device⟩
    simp only [if_true, eq] at halted ⊢
    have waiting' : (session.arrive reports).delivery = some (d.arrive reports) := by
      simp [Session.arrive, waiting]
    exact halted.trans (nests_present dev (by exact notified) (by exact waiting') notice)

theorem nests_drain (sound : st.session.Sound) (rounds : Nat) :
    Nests st.device.entries (st.drain dev.journaled rounds).device.entries := by
  -- by induction on the rounds
  induction rounds generalizing st with
  | zero => exact .refl _
  | succ rounds ih =>
    rw [drain]
    split
    next => exact .refl _
    next report rest dequeue =>
      obtain ⟨d, notice, arrived, _, rfl, keeps, delivers⟩ := dequeue_delivers dev sound dequeue
      have delivered := nests_deliver dev (keeps.sound sound) rfl report
      exact .trans delivered (ih ((keeps.trans delivers.keeps).sound sound))

theorem nests_receive (sound : st.session.Sound) (report : Report) :
    Nests st.device.entries (st.receive dev.journaled report).device.entries := by
  have queued : Nests st.device.entries (st.enqueue dev.journaled report).device.entries := by
    obtain ⟨device, eq⟩ := enqueue_eq dev report st
    rw [eq]
    exact .sent _ _ _
  exact queued.trans (nests_drain dev ((enqueue_keeps dev report).sound sound) _)

theorem nests_foldl_receive (sound : st.session.Sound) (reports : List Report) :
    Nests st.device.entries (reports.foldl (receive dev.journaled) st).device.entries ∧
      Keeps st (reports.foldl (receive dev.journaled) st) := by
  -- by induction on the reports
  induction reports generalizing st with
  | nil => exact ⟨.refl _, .refl _⟩
  | cons report rest ih =>
    have keeps := receive_keeps dev sound report
    obtain ⟨others, keeps'⟩ := ih (keeps.sound sound)
    exact ⟨(nests_receive dev sound report).trans others, keeps.trans keeps'⟩

/-- A request of the owner is answered when everything that came before was delivered. -/
structure Answered (r : Request) (st : Station (Journal σ)) (a : r.Answer) (after : Station (Journal σ)) :
    Prop where
  journal : ∃ nested, after.device.entries = st.device.entries ++ .asked r :: nested ++ [.answered r a] ∧
    ∀ entry ∈ nested, entry.isNested = true
  options : after.session.options = st.session.options
  sound : after.session.Sound
  onward : st.session.lifecycle.Onward after.session.lifecycle

theorem answered_line (sound : st.session.Sound) (r : Request) :
    ∃ a after, line dev.journaled r st = (a, after) ∧ Answered r st a after := by
  obtain ⟨reports, raised, a, device, eq⟩ := line_eq dev r st
  obtain ⟨⟨nested, journal, quiet⟩, keeps⟩ :=
    @nests_foldl_receive _ dev (st.entered raised (.asked r)) sound reports
  have options := congrArg Session.options keeps.frame
  refine ⟨a, _, eq, ⟨nested, ?_, quiet⟩, options, keeps.sound sound, keeps.onward⟩
  simp only [entered] at journal ⊢
  rw [journal]
  simp

end Station

/-! ## The journal of some calls -/

/-- The journal of the moments of a call: each request with its answer, and what the device did before,
between and behind them. -/
inductive Records : List Moment → List Entry → Prop where
  | done {nested : List Entry} (quiet : ∀ entry ∈ nested, entry.isNested = true) : Records [] nested
  | call {m : Moment} {before nested later : List Entry} {moments : List Moment}
      (early : ∀ entry ∈ before, entry.isNested = true) (quiet : ∀ entry ∈ nested, entry.isNested = true)
      (records : Records moments later) :
      Records (m :: moments) (before ++ .asked m.request :: nested ++ .answered m.request m.answer :: later)

namespace Records

variable {moments others : List Moment} {entries more : List Entry}

theorem concat (records : Records moments entries) (m : Moment) {nested : List Entry}
    (quiet : ∀ entry ∈ nested, entry.isNested = true) :
    Records (moments ++ [m])
      (entries ++ (.asked m.request :: nested ++ [.answered m.request m.answer])) := by
  induction records with
  | @done early before =>
    have last : Records [] [] := .done (by simp)
    have alone := @Records.call m early nested [] [] before quiet last
    simpa using alone
  | @call m' before nested' later moments early quiet' _ ih =>
    have first := @Records.call m' before nested' _ _ early quiet' ih
    simpa using first

end Records

/-- The journal has grown from `entries` by the calls of some moments. -/
def Traces (entries : List Entry) (moments : List Moment) (st : Station (Journal σ)) : Prop :=
  ∃ added, st.device.entries = entries ++ added ∧ Records moments added

namespace Traces

variable {st after : Station (Journal σ)} {entries : List Entry} {moments : List Moment}

theorem refl (st : Station (Journal σ)) : Traces st.device.entries [] st :=
  ⟨[], by simp, .done (by simp)⟩

theorem answered {r : Request} {a : r.Answer} (traces : Traces entries moments st)
    (answered : Station.Answered r st a after) :
    Traces entries (moments ++ [⟨r, a, after.session⟩]) after := by
  obtain ⟨added, journal, records⟩ := traces
  obtain ⟨nested, answered, quiet⟩ := answered.journal
  refine ⟨_, ?_, records.concat ⟨r, a, after.session⟩ quiet⟩
  rw [answered, journal]
  simp

end Traces

end TriggeredSampler
