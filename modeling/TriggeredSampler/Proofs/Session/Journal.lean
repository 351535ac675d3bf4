import TriggeredSampler.Session.Delivery

/-! # The journal of a device

`Device.journaled` is a device that keeps a journal of what it was asked, what it answered, and what it
sent. It behaves as the device itself, so whatever holds of every device holds of it.

* `latestRun` — the journal since a start was asked for the last time.
* `sentReports` — the reports that were sent.
-/

namespace TriggeredSampler

/-- An entry in the journal of a device. -/
inductive Entry where
  | asked (r : Request)
  | answered (r : Request) (a : r.Answer)
  /-- A report was sent, and somebody listened or not. -/
  | sent (report : Report) (heard : Bool)

/-- A device state with a journal, oldest entry first. -/
structure Journal (σ : Type) where
  device : σ
  entries : List Entry

/-- The device with a journal. -/
def Device.journaled {σ : Type} (dev : Device σ) : Device (Journal σ) where
  announce h r j := ((dev.announce h r j.device).1, ⟨(dev.announce h r j.device).2, j.entries ++ [.asked r]⟩)
  answer h r j :=
    ((dev.answer h r j.device).1,
      ⟨(dev.answer h r j.device).2, j.entries ++ [.answered r (dev.answer h r j.device).1]⟩)
  sent h report heard j := ⟨dev.sent h report heard j.device, j.entries ++ [.sent report heard]⟩
  advance j := ((dev.advance j.device).1, ⟨(dev.advance j.device).2, j.entries⟩)
  holdsOn h j := dev.holdsOn h j.device

namespace Entry

/-- A start is asked for. -/
def asksStart : Entry → Bool
  | .asked (.start ..) => true
  | _ => false

/-- The entry belongs to the request of a start. -/
def ofStart : Entry → Bool
  | .asked (.start ..) => true
  | .answered (.start ..) _ => true
  | _ => false

/-- The device accepted a start whose reports go to a handler. -/
def acceptsStart (tag : Int) : Entry → Bool
  | .answered (.start reported t) (.ok ()) => reported && t == tag
  | _ => false

/-- The report of an entry. -/
def report? : Entry → Option Report
  | .sent report _ => some report
  | _ => none

theorem asksStart_of_ofStart {entry : Entry} (other : entry.ofStart = false) :
    entry.asksStart = false := by
  cases entry with
  | asked r => cases r <;> simp_all [ofStart, asksStart]
  | answered r a => rfl
  | sent report heard => rfl

theorem acceptsStart_of_ofStart {entry : Entry} (other : entry.ofStart = false) (tag : Int) :
    entry.acceptsStart tag = false := by
  cases entry with
  | asked r => rfl
  | answered r a => cases r <;> simp_all [ofStart, acceptsStart]
  | sent report heard => rfl

end Entry

/-- The reports that were sent. -/
def sentReports (entries : List Entry) : List Report := entries.filterMap Entry.report?

/-- The number of times that a start was asked for. -/
def startsIn (entries : List Entry) : Nat := entries.countP Entry.asksStart

/-- The journal since a start was asked for the last time. -/
def latestRun (entries : List Entry) : List Entry :=
  (entries.reverse.takeWhile fun entry => !entry.asksStart).reverse

@[simp] theorem sentReports_append (entries others : List Entry) :
    sentReports (entries ++ others) = sentReports entries ++ sentReports others := by
  simp [sentReports]

@[simp] theorem sentReports_asked (r : Request) (entries : List Entry) :
    sentReports (.asked r :: entries) = sentReports entries := rfl

@[simp] theorem sentReports_answered (r : Request) (a : r.Answer) (entries : List Entry) :
    sentReports (.answered r a :: entries) = sentReports entries := rfl

@[simp] theorem sentReports_sent (reports : List Report) (heard : Bool) :
    sentReports (reports.map fun report => .sent report heard) = reports := by
  simp [sentReports, Function.comp_def, Entry.report?]

@[simp] theorem sentReports_nil : sentReports [] = [] := rfl

@[simp] theorem startsIn_append (entries others : List Entry) :
    startsIn (entries ++ others) = startsIn entries + startsIn others := by
  simp [startsIn]

@[simp] theorem startsIn_start (reported : Bool) (tag : Int) (entries : List Entry) :
    startsIn (.asked (.start reported tag) :: entries) = startsIn entries + 1 :=
  List.countP_cons_of_pos rfl

theorem startsIn_eq_zero {entries : List Entry} :
    startsIn entries = 0 ↔ ∀ entry ∈ entries, entry.asksStart = false := by
  simp [startsIn]

/-- A request of a start with its answer, and nothing about another one between them. -/
theorem startsIn_answered {entries added : List Entry} {reported : Bool} {tag : Int} {r : Request}
    {a : r.Answer} (quiet : ∀ entry ∈ added, entry.ofStart = false) :
    startsIn (entries ++ .asked (.start reported tag) :: added ++ [.answered r a]) =
      startsIn entries + 1 := by
  have none : startsIn added = 0 :=
    startsIn_eq_zero.2 fun entry member => Entry.asksStart_of_ofStart (quiet entry member)
  have answer : startsIn [Entry.answered r a] = 0 := rfl
  rw [startsIn_append, startsIn_append, startsIn_start, none, answer]

/-- The journal behind the request of a start, as long as no other one is asked for. -/
theorem latestRun_of_start {prior since : List Entry} {start : Entry} (asks : start.asksStart = true)
    (none : startsIn since = 0) : latestRun (prior ++ start :: since) = since := by
  rw [startsIn_eq_zero] at none
  have quiet : ∀ entry ∈ since.reverse, (!entry.asksStart) = true := by
    intro entry member
    simp [none entry (List.mem_reverse.1 member)]
  rw [latestRun, List.reverse_append, List.reverse_cons, List.append_assoc,
    List.takeWhile_append_of_pos quiet]
  simp [asks]

/-- Entries that a device adds to its journal, none of them about a start, with the reports it sent. -/
def Adds (entries later : List Entry) (sent : List Report) : Prop :=
  ∃ added, later = entries ++ added ∧ (∀ entry ∈ added, entry.ofStart = false) ∧
    sentReports added = sent

namespace Adds

variable {entries later latest : List Entry} {sent more : List Report}

theorem refl (entries : List Entry) : Adds entries entries [] :=
  ⟨[], by simp, by simp, rfl⟩

theorem trans (first : Adds entries later sent) (second : Adds later latest more) :
    Adds entries latest (sent ++ more) := by
  obtain ⟨added, rfl, quiet, rfl⟩ := first
  obtain ⟨added', rfl, quiet', rfl⟩ := second
  refine ⟨added ++ added', by simp, ?_, by simp⟩
  intro entry member
  cases List.mem_append.1 member with
  | inl early => exact quiet entry early
  | inr late => exact quiet' entry late

theorem startsIn (adds : Adds entries later sent) :
    TriggeredSampler.startsIn later = TriggeredSampler.startsIn entries := by
  obtain ⟨added, rfl, quiet, _⟩ := adds
  have none : TriggeredSampler.startsIn added = 0 :=
    startsIn_eq_zero.2 fun entry member => Entry.asksStart_of_ofStart (quiet entry member)
  rw [startsIn_append, none, Nat.add_zero]

end Adds

/-- The device neither was asked for a start nor sent a report. -/
def Silent (entries later : List Entry) : Prop :=
  ∃ added, later = entries ++ added ∧ startsIn added = 0 ∧ sentReports added = []

theorem Silent.refl (entries : List Entry) : Silent entries entries :=
  ⟨[], by simp, rfl, rfl⟩

theorem Silent.startsIn {entries later : List Entry} (silent : Silent entries later) :
    TriggeredSampler.startsIn later = TriggeredSampler.startsIn entries := by
  obtain ⟨added, rfl, quiet, _⟩ := silent
  rw [startsIn_append, quiet, Nat.add_zero]

theorem Adds.silent {entries later : List Entry} (adds : Adds entries later []) :
    Silent entries later := by
  obtain ⟨added, journal, quiet, none⟩ := adds
  exact ⟨added, journal,
    startsIn_eq_zero.2 fun entry member => Entry.asksStart_of_ofStart (quiet entry member), none⟩

end TriggeredSampler
