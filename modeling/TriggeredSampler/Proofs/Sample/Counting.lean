import TriggeredSampler.Proofs.Sample.Whole

/-! # Numbers as counts

The number of a sample is a count: so many samples of its iteration were numbered before it. That stays true
however the samples are divided among batches and calls, as long as the iterations do not go back. Samples
that are handed out in a batch, without a number, are not counted.

* `Drawn` — a sample that was handed out, plain or as a row.
* `Counted` — the rows carry the count of the rows before them.
* `Tallies.number` — numbering goes on counting.
-/

namespace TriggeredSampler

/-- A sample that was handed out, as part of a batch or as a row. -/
inductive Drawn where
  | plain (iteration : Nat)
  | row (row : Row)
deriving DecidableEq

namespace Drawn

/-- The iteration of the sample. -/
def iteration : Drawn → Nat
  | plain i => i
  | row r => r.iteration

/-- The sample was handed out without a number, and belongs to the iteration. -/
def plainIn (i : Nat) : Drawn → Bool
  | plain j => j == i
  | row _ => false

/-- The sample was handed out as a row, and belongs to the iteration. -/
def rowIn (i : Nat) : Drawn → Bool
  | plain _ => false
  | row r => r.iteration == i

/-- The samples of an iteration are its rows and its plain samples. -/
theorem countP_iteration (drawn : List Drawn) (i : Nat) :
    (drawn.countP fun d => d.iteration == i) = drawn.countP (rowIn i) + drawn.countP (plainIn i) := by
  induction drawn with
  | nil => rfl
  | cons d rest ih =>
    rw [List.countP_cons, List.countP_cons, List.countP_cons, ih]
    cases d with
    | plain j => exact Nat.add_assoc _ _ _
    | row r => exact Nat.add_right_comm _ _ _

theorem countP_of_plain {i : Nat} {drawn : List Drawn} (plain : ∀ d ∈ drawn, ∃ j, d = .plain j) :
    drawn.countP (rowIn i) = 0 := by
  rw [List.countP_eq_zero]
  intro d member
  obtain ⟨j, rfl⟩ := plain d member
  exact Bool.false_ne_true

/-- The samples of some data, handed out in its batches. -/
def ofData (tracked : Nat) (data : List Batch) : List Drawn :=
  data.flatMap fun batch => List.replicate (batch.readings.length / tracked) (plain batch.iteration)

theorem plain_of_mem_ofData {tracked : Nat} {data : List Batch} :
    ∀ d ∈ ofData tracked data, ∃ j, d = .plain j := by
  intro d member
  obtain ⟨batch, _, among⟩ := List.mem_flatMap.1 member
  exact ⟨batch.iteration, List.eq_of_mem_replicate among⟩

end Drawn

/-- The iterations of the samples of some data, sample by sample. -/
def sampleIterations (tracked : Nat) (data : List Batch) : List Nat :=
  data.flatMap fun batch => List.replicate (batch.readings.length / tracked) batch.iteration

theorem sampleIterations_append (tracked : Nat) (data more : List Batch) :
    sampleIterations tracked (data ++ more) = sampleIterations tracked data ++ sampleIterations tracked more :=
  List.flatMap_append

theorem Drawn.map_iteration_ofData (tracked : Nat) (data : List Batch) :
    (ofData tracked data).map iteration = sampleIterations tracked data := by
  simp only [ofData, sampleIterations, List.map_flatMap, List.map_replicate, iteration]

theorem Drawn.map_iteration_row (rows : List Row) :
    (rows.map row).map iteration = rows.map Row.iteration := by
  rw [List.map_map]
  rfl

/-- Every row among the samples carries the number of the rows of its iteration that come before it. -/
inductive Counted : List Drawn → Prop where
  | nil : Counted []
  | concat {drawn : List Drawn} (counted : Counted drawn) (d : Drawn)
      (number : ∀ row, d = .row row → row.number = drawn.countP (Drawn.rowIn row.iteration)) :
      Counted (drawn ++ [d])

namespace Counted

theorem append_plain {drawn more : List Drawn} (counted : Counted drawn)
    (plain : ∀ d ∈ more, ∃ j, d = .plain j) : Counted (drawn ++ more) := by
  -- by induction on the samples that are added
  induction more generalizing drawn with
  | nil => rwa [List.append_nil]
  | cons d rest ih =>
    rw [List.forall_mem_cons] at plain
    obtain ⟨⟨j, rfl⟩, others⟩ := plain
    have first : Counted (drawn ++ [.plain j]) := counted.concat _ fun row same => by cases same
    have all := ih first others
    rwa [List.append_assoc] at all

theorem number {drawn : List Drawn} (counted : Counted drawn) {k : Nat} {row : Row}
    (listed : drawn[k]? = some (.row row)) :
    row.number = (drawn.take k).countP (Drawn.rowIn row.iteration) := by
  induction counted with
  | nil => cases listed
  | @concat drawn counted d number ih =>
    by_cases earlier : k < drawn.length
    · rw [List.getElem?_append_left earlier] at listed
      rw [List.take_append_of_le_length (Nat.le_of_lt earlier)]
      exact ih listed
    · have last : k = drawn.length := by
        have inside := (List.getElem?_eq_some_iff.1 listed).1
        rw [List.length_append, List.length_singleton] at inside
        omega
      subst last
      rw [List.getElem?_concat_length] at listed
      rw [List.take_left]
      exact number row (Option.some.inj listed)

end Counted

/-! ## The tally of a numbering -/

/-- The numbering has counted the rows of its iteration, and there are none of later ones. -/
structure Tallies (drawn : List Drawn) (n : Numbering) : Prop where
  next : n.next = drawn.countP (Drawn.rowIn n.iteration)
  ahead : ∀ i, n.iteration < i → drawn.countP (Drawn.rowIn i) = 0

namespace Tallies

variable {drawn : List Drawn} {n n' : Numbering}

theorem start (tracked : Nat) : Tallies [] (.start tracked) := ⟨rfl, fun _ _ => rfl⟩

theorem enter (tallies : Tallies drawn n) {iteration : Nat} (onward : n.iteration ≤ iteration) :
    Tallies drawn (n.enter iteration) := by
  rw [Numbering.enter]
  split
  next => exact tallies
  next other =>
    have later : n.iteration < iteration := Nat.lt_of_le_of_ne onward other
    exact ⟨(tallies.ahead iteration later).symm, fun i behind => tallies.ahead i (Nat.lt_trans later behind)⟩

theorem append_plain (tallies : Tallies drawn n) {more : List Drawn}
    (plain : ∀ d ∈ more, ∃ j, d = .plain j) : Tallies (drawn ++ more) n := by
  have same (i : Nat) : (drawn ++ more).countP (Drawn.rowIn i) = drawn.countP (Drawn.rowIn i) := by
    rw [List.countP_append, Drawn.countP_of_plain plain, Nat.add_zero]
  constructor
  · rw [same]
    exact tallies.next
  · intro i later
    rw [same]
    exact tallies.ahead i later

/-- One more row, with the number that is next. -/
theorem concat (tallies : Tallies drawn n) (readings : List Reading) :
    Tallies (drawn ++ [.row ⟨n.iteration, n.next, readings⟩]) { n with next := n.next + 1 } := by
  constructor
  · simp only [List.countP_append, List.countP_singleton, Drawn.rowIn, beq_self_eq_true, if_true]
    rw [← tallies.next]
  · intro i later
    have other : (n.iteration == i) = false := beq_false_of_ne (Nat.ne_of_lt later)
    simp only [List.countP_append, List.countP_singleton, Drawn.rowIn, other, Bool.false_eq_true, if_false]
    exact tallies.ahead i later

theorem numberSamples (tallies : Tallies drawn n) (counted : Counted drawn) (samples : List (List Reading)) :
    Tallies (drawn ++ (n.numberSamples samples).1.map .row) (n.numberSamples samples).2 ∧
      Counted (drawn ++ (n.numberSamples samples).1.map .row) := by
  -- by induction on the samples, each of which is one more row
  induction samples generalizing drawn n with
  | nil =>
    simp only [Numbering.numberSamples, List.map_nil, List.append_nil]
    exact ⟨tallies, counted⟩
  | cons sample rest ih =>
    have first : Counted (drawn ++ [.row ⟨n.iteration, n.next, sample⟩]) := by
      apply counted.concat
      rintro row ⟨⟩
      exact tallies.next
    have all := ih (tallies.concat sample) first
    simp only [List.append_assoc, List.singleton_append] at all
    exact all

end Tallies

namespace Numbering

variable {n n' : Numbering} {data later : List Batch} {rows : List Row}

theorem number_cons_eq_ok {batch : Batch} (numbers : n.number (batch :: data) = (.ok rows, n')) :
    ∃ samples more, batch.samples n.tracked = .ok samples ∧
      ((n.enter batch.iteration).numberSamples samples).2.number data = (.ok more, n') ∧
      rows = ((n.enter batch.iteration).numberSamples samples).1 ++ more := by
  rw [number] at numbers
  cases split : batch.samples n.tracked with
  | error breach =>
    rw [split] at numbers
    cases numbers
  | ok samples =>
    simp only [split] at numbers
    generalize others : ((n.enter batch.iteration).numberSamples samples).2.number data = outcome at numbers
    obtain ⟨result, last⟩ := outcome
    cases result with
    | error breach => cases numbers
    | ok more =>
      cases numbers
      exact ⟨samples, more, rfl, others, rfl⟩

theorem map_iteration_numberSamples (n : Numbering) (samples : List (List Reading)) :
    (n.numberSamples samples).1.map Row.iteration = List.replicate samples.length n.iteration := by
  induction samples generalizing n with
  | nil => rfl
  | cons sample rest ih =>
    have others := ih { n with next := n.next + 1 }
    rw [numberSamples, List.map_cons, others, List.length_cons, List.replicate_succ]

theorem length_samples {batch : Batch} {tracked : Nat} {samples : List (List Reading)}
    (split : batch.samples tracked = .ok samples) : samples.length = batch.readings.length / tracked := by
  have length {width count : Nat} {values : List Reading} : (Batch.cut width count values).length = count := by
    induction count generalizing values with
    | zero => rfl
    | succ count ih => rw [Batch.cut, List.length_cons, ih]
  rw [Batch.samples] at split
  split at split
  next => cases split
  next =>
    cases split
    exact length

/-- The rows are those of the samples, one each and in order. -/
theorem map_iteration_number (numbers : n.number data = (.ok rows, n')) :
    rows.map Row.iteration = sampleIterations n.tracked data := by
  -- by induction on the batches
  induction data generalizing n rows with
  | nil =>
    cases numbers
    rfl
  | cons batch rest ih =>
    obtain ⟨samples, more, split, others, rfl⟩ := number_cons_eq_ok numbers
    have behind := ih others
    rw [tracked_numberSamples, tracked_enter] at behind
    rw [List.map_append, map_iteration_numberSamples, iteration_enter, length_samples split, behind]
    rfl

end Numbering

/-- The iterations of the data do not go back, and not behind the one that is numbered. -/
def Onward (n : Numbering) (data : List Batch) : Prop :=
  (n.iteration :: data.map Batch.iteration).Pairwise (· ≤ ·)

namespace Onward

variable {n n' : Numbering} {data later : List Batch}

/-- Data that is passed over. -/
theorem skip (onward : Onward n (data ++ later)) : Onward n later := by
  rw [Onward, List.map_append] at onward
  exact onward.sublist ((List.sublist_append_right _ _).cons_cons _)

theorem number (onward : Onward n (data ++ later)) {rows : List Row}
    (numbers : n.number data = (.ok rows, n')) {drawn : List Drawn} (tallies : Tallies drawn n)
    (counted : Counted drawn) :
    Tallies (drawn ++ rows.map .row) n' ∧ Counted (drawn ++ rows.map .row) ∧ Onward n' later := by
  -- by induction on the batches
  induction data generalizing n rows drawn with
  | nil =>
    cases numbers
    rw [List.map_nil, List.append_nil]
    exact ⟨tallies, counted, onward⟩
  | cons batch rest ih =>
    obtain ⟨samples, more, _, others, rfl⟩ := Numbering.number_cons_eq_ok numbers
    rw [Onward, List.cons_append, List.map_cons, List.pairwise_cons] at onward
    obtain ⟨reached, behind⟩ := onward
    have entered := tallies.enter (reached batch.iteration List.mem_cons_self)
    obtain ⟨tallied, recounted⟩ := entered.numberSamples counted samples
    have ahead : Onward ((n.enter batch.iteration).numberSamples samples).2 (rest ++ later) := by
      rw [Onward, Numbering.iteration_numberSamples, Numbering.iteration_enter]
      exact behind
    have all := ih ahead others tallied recounted
    rwa [List.append_assoc, ← List.map_append] at all

end Onward

end TriggeredSampler
