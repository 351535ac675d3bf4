import Mathlib.Algebra.Ring.Int.Defs
import TriggeredSampler.Proofs.Lifecycle
import TriggeredSampler.Proofs.Session.Acceptance
import TriggeredSampler.Proofs.Session.Journal

/-! # Runs that their device ends in an orderly way

A device keeps order if it sends whole samples, reports phases that follow a start, and has sent its
terminal report before it answers a stop, or says that it is not active.

* `throughEnd` — the reports up to the first terminal one.
* `openStops` — the stops that were asked for and not answered yet.
* `Orderly` — the order that a device keeps.
-/

namespace TriggeredSampler

/-- The report is a terminal one. -/
def Report.isLast (report : Report) : Bool := report.phase.isTerminal

/-- The reports up to the first terminal one. -/
def throughEnd : List Report → List Report
  | [] => []
  | report :: rest => if report.isLast then [report] else report :: throughEnd rest

theorem throughEnd_of_isLast {report : Report} (last : report.isLast = true) (rest : List Report) :
    throughEnd (report :: rest) = [report] := by
  rw [throughEnd, if_pos last]

theorem throughEnd_append_of_going {reports : List Report}
    (going : ∀ report ∈ reports, report.isLast = false) (rest : List Report) :
    throughEnd (reports ++ rest) = reports ++ throughEnd rest := by
  induction reports with
  | nil => rfl
  | cons report others ih =>
    have first : report.isLast = false := going report (List.mem_cons_self ..)
    rw [List.cons_append, throughEnd, if_neg (by simp [first]),
      ih fun report member => going report (List.mem_cons_of_mem _ member), List.cons_append]

/-- The reports of a run that goes on. -/
theorem throughEnd_of_going {reports : List Report} (going : ∀ report ∈ reports, report.isLast = false) :
    throughEnd reports = reports := by
  have same := throughEnd_append_of_going going []
  rwa [List.append_nil, throughEnd, List.append_nil] at same

theorem prefix_throughEnd_append (reports more : List Report) :
    throughEnd reports <+: throughEnd (reports ++ more) := by
  induction reports with
  | nil => exact List.nil_prefix
  | cons report rest ih =>
    rw [List.cons_append, throughEnd, throughEnd]
    split
    next => exact List.prefix_rfl
    next => exact (List.prefix_cons_inj report).2 ih

/-- What is sent behind a terminal report does not count. -/
theorem throughEnd_append_of_ended {reports : List Report}
    (ended : ∃ report ∈ reports, report.isLast = true) (more : List Report) :
    throughEnd (reports ++ more) = throughEnd reports := by
  induction reports with
  | nil =>
    obtain ⟨_, member, _⟩ := ended
    cases member
  | cons report rest ih =>
    rw [List.cons_append, throughEnd, throughEnd]
    split
    next => rfl
    next going =>
      obtain ⟨last, member, terminal⟩ := ended
      rcases List.mem_cons.1 member with rfl | later
      · exact absurd terminal going
      · rw [ih ⟨last, later, terminal⟩]

/-! ## Stops under way -/

/-- A stop is asked for, or answered. -/
def Entry.stops : Entry → Int
  | .asked .stop => 1
  | .answered .stop _ => -1
  | _ => 0

/-- The number of stops that were asked for and not answered yet. -/
def openStops (entries : List Entry) : Int := (entries.map Entry.stops).sum

@[simp] theorem openStops_nil : openStops [] = 0 := rfl

@[simp] theorem openStops_cons (entry : Entry) (entries : List Entry) :
    openStops (entry :: entries) = entry.stops + openStops entries := by
  simp [openStops]

@[simp] theorem openStops_append (entries others : List Entry) :
    openStops (entries ++ others) = openStops entries + openStops others := by
  simp [openStops]

@[simp] theorem openStops_sent (reports : List Report) (heard : Bool) :
    openStops (reports.map fun report => .sent report heard) = 0 := by
  induction reports with
  | nil => rfl
  | cons report rest ih =>
    have same : (Entry.sent report heard).stops = 0 := rfl
    rw [List.map_cons, openStops_cons, ih, same, Int.add_zero]

/-! ## Order -/

/-- The device answers a stop, or does not say that it is active. -/
def Entry.endsRun : Entry → Bool
  | .answered .stop _ => true
  | .answered .phase (.ok phase) => !phase.isActive
  | .answered .phase (.error _) => true
  | _ => false

/-- The order that a device keeps in a run whose samples have `tracked` readings. -/
structure Orderly (tracked : Nat) (entries : List Entry) : Prop where
  /-- The data it reports holds whole samples. -/
  whole : ∀ report ∈ throughEnd (sentReports entries), wholeSamples tracked report.data = true
  /-- The phases it reports follow a start. -/
  begun : ∀ report ∈ throughEnd (sentReports entries), report.phase.begun = true
  /-- Its terminal report was sent when it answers that the run is over, unless that answer is part of
  another stop. -/
  ended : ∀ earlier entry, earlier ++ [entry] <+: entries → entry.endsRun = true →
    openStops (earlier ++ [entry]) = 0 → ∃ report ∈ sentReports earlier, report.isLast = true

/-- Order is kept from the beginning. -/
theorem Orderly.earlier {tracked : Nat} {entries later : List Entry} (orderly : Orderly tracked later)
    (earlier : entries <+: later) : Orderly tracked entries := by
  obtain ⟨more, rfl⟩ := earlier
  have counted : throughEnd (sentReports entries) <+: throughEnd (sentReports (entries ++ more)) := by
    rw [sentReports_append]
    exact prefix_throughEnd_append _ _
  exact ⟨fun report member => orderly.whole report (counted.subset member),
    fun report member => orderly.begun report (counted.subset member),
    fun earlier entry first => orderly.ended earlier entry (first.trans (List.prefix_append _ _))⟩

/-- An entry and what comes before it, by their place. -/
theorem concat_prefix_iff {entries earlier : List Entry} {entry : Entry} :
    earlier ++ [entry] <+: entries ↔
      ∃ n, earlier = entries.take n ∧ entries[n]? = some entry := by
  constructor
  · rintro ⟨more, rfl⟩
    exact ⟨earlier.length, by simp, by simp⟩
  · rintro ⟨n, rfl, found⟩
    have next : entries.take (n + 1) = entries.take n ++ [entry] := by
      rw [List.take_add_one, found, Option.toList_some]
    rw [← next]
    exact List.take_prefix _ _

instance (tracked : Nat) (entries : List Entry) : Decidable (Orderly tracked entries) :=
  decidable_of_iff ((∀ report ∈ throughEnd (sentReports entries),
        wholeSamples tracked report.data = true ∧ report.phase.begun = true) ∧
      ∀ n < entries.length, ∀ entry ∈ entries[n]?, entry.endsRun = true →
        openStops (entries.take n ++ [entry]) = 0 →
        ∃ report ∈ sentReports (entries.take n), report.isLast = true) <| by
    constructor
    · rintro ⟨reported, ended⟩
      refine ⟨fun report member => (reported report member).1,
        fun report member => (reported report member).2, fun earlier entry first => ?_⟩
      obtain ⟨n, rfl, found⟩ := concat_prefix_iff.1 first
      exact ended n (List.getElem?_eq_some_iff.1 found).1 entry found
    · intro orderly
      exact ⟨fun report member => ⟨orderly.whole report member, orderly.begun report member⟩,
        fun n _ entry found => orderly.ended _ entry (concat_prefix_iff.2 ⟨n, rfl, found⟩)⟩

end TriggeredSampler
