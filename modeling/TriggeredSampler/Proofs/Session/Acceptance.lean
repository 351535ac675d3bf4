import TriggeredSampler.Proofs.Lifecycle
import TriggeredSampler.Proofs.Sample.Whole
import TriggeredSampler.Session.Basic

/-! # What a session makes of a report

* `Shows` — the notice of a report.
* `Session.accept_accepted` — the acceptance of a report.
-/

namespace TriggeredSampler

/-- The notice of a report carries its tag and its data; malformed data is emptied. -/
structure Shows (tracked : Nat) (report : Report) (notice : Notice) : Prop where
  tag : notice.tag = report.tag
  data : notice.data = if wholeSamples tracked report.data then report.data else []

namespace Session

variable {s : Session}

/-- The data is accepted exactly if it holds whole samples. -/
theorem checkData_eq_ok_iff {data : List Batch} :
    s.checkData data = .ok () ↔ wholeSamples s.tracked data = true := by
  induction data with
  | nil => simp [checkData, wholeSamples]
  | cons batch rest ih =>
    rw [wholeSamples, List.all_cons, Bool.and_eq_true, ← wholeSamples, ← ih, checkData]
    by_cases whole : (s.tracked != 0 && batch.readings.length % s.tracked == 0) = true
    · rw [Batch.samples_eq_ok whole]
      simp [whole]
    · have broken : s.tracked = 0 ∨ batch.readings.length % s.tracked ≠ 0 := by
        simp only [Bool.and_eq_true, bne_iff_ne, ne_eq, beq_iff_eq] at whole
        omega
      rw [Batch.samples, if_pos broken]
      simp [whole]

/-! ## Phases -/

theorem follow_eq (s : Session) (reported : Phase) (fault : Option DeviceFault) :
    s.follow reported fault = { s with lifecycle := (s.follow reported fault).lifecycle } := by
  unfold follow
  split
  · rfl
  · split <;> rfl

theorem follow_onward (s : Session) (reported : Phase) (fault : Option DeviceFault) :
    s.lifecycle.Onward (s.follow reported fault).lifecycle := by
  unfold follow
  split
  · exact .fail _ _
  · split
    next followed => exact .follow followed
    next => exact .fail _ _

/-! ## Acceptance -/

/-- What the acceptance of a report does. Malformed data ends the run; otherwise the session takes over
the reported phase. -/
structure Accepted (s : Session) (report : Report) (notice : Notice) (malformed : Bool) (s' : Session) :
    Prop where
  frame : s' = { s with lifecycle := s'.lifecycle, numbering := s'.numbering }
  tracked : s'.numbering.tracked = s.numbering.tracked
  onward : s.lifecycle.Onward s'.lifecycle
  shows : Shows s.tracked report notice
  phase : notice.phase = s'.phase
  detected : malformed = !wholeSamples s.tracked report.data
  failed : malformed = true → s'.phase.isTerminal = true
  followed : malformed = false → s'.lifecycle = (s.follow report.phase report.fault).lifecycle

/-- Whole samples are numbered and shown, in the phase that the session follows to. -/
theorem accept_of_whole (same : s.numbering.tracked = s.tracked) {report : Report}
    (whole : wholeSamples s.tracked report.data = true) :
    ∃ rows numbering, numbering.tracked = s.numbering.tracked ∧
      s.accept report =
        ((({ s with numbering := numbering }).follow report.phase report.fault).notice report.data rows
            report.tag,
          false, ({ s with numbering := numbering }).follow report.phase report.fault) := by
  obtain ⟨rows, numbered⟩ := s.numbering.number_of_whole (by rw [same]; exact whole)
  have result : s.number report.data =
      (.ok rows, { s with numbering := (s.numbering.number report.data).2 }) := by
    rw [← numbered]
    rfl
  refine ⟨rows, _, s.numbering.tracked_number report.data, ?_⟩
  rw [accept, checkData_eq_ok_iff.2 whole]
  simp only [result]

theorem follow_numbering (s : Session) (numbering : Numbering) (reported : Phase)
    (fault : Option DeviceFault) :
    ({ s with numbering := numbering }).follow reported fault =
      { s.follow reported fault with numbering := numbering } := by
  unfold follow
  split
  · rfl
  · simp only [phase]
    split <;> rfl

theorem accept_accepted (same : s.numbering.tracked = s.tracked) (report : Report) :
    s.Accepted report (s.accept report).1 (s.accept report).2.1 (s.accept report).2.2 := by
  by_cases whole : wholeSamples s.tracked report.data = true
  · obtain ⟨rows, numbering, tracked, eq⟩ := accept_of_whole same whole
    rw [eq, follow_numbering, follow_eq]
    exact ⟨rfl, tracked, follow_onward s _ _, ⟨rfl, by simp [whole, notice]⟩, rfl, by simp [whole],
      by simp, fun _ => rfl⟩
  · unfold accept
    cases checked : s.checkData report.data with
    | error breach =>
      simp only
      exact ⟨rfl, rfl, .fail _ _, ⟨rfl, by simp [whole, notice]⟩, rfl, by simp [whole],
        fun _ => Lifecycle.isTerminal_fail _ _, by simp⟩
    | ok _ => exact absurd (checkData_eq_ok_iff.1 checked) whole

end Session

end TriggeredSampler
