import Mathlib.Data.List.Forall2
import TriggeredSampler.Engine.Basic
import TriggeredSampler.Proofs.Storage.Ring

/-! # Rows and columns

An engine spreads each row over its rings, one value to a ring, and puts rows together again when it
empties them. `columnsOf` is the list of columns that some rows make up; `Engine.rowsOf` takes it back.

* `rowsOf_columnsOf` — the rows of the columns of rows are these rows.
* `columnsOf_concat` — one more row puts one more value behind each column.
* `columnsOf_rtake` — the last values of each column are the columns of the last rows.
-/

namespace TriggeredSampler.Engine

variable {α : Type} {width : Nat} {rows : List (List α)}

/-- The columns of some rows of the given width. -/
def columnsOf (width : Nat) : List (List α) → List (List α)
  | [] => List.replicate width []
  | row :: rest => List.zipWith List.cons row (columnsOf width rest)

theorem length_columnsOf (shape : ∀ row ∈ rows, row.length = width) :
    (columnsOf width rows).length = width := by
  induction rows with
  | nil => simp [columnsOf]
  | cons row rest ih =>
    obtain ⟨first, others⟩ := List.forall_mem_cons.1 shape
    simp [columnsOf, first, ih others]

private theorem map_length_zipWith_cons :
    ∀ (row : List α) (columns : List (List α)), row.length = columns.length →
      (List.zipWith List.cons row columns).map List.length =
        columns.map fun column => column.length + 1
  | [], [], _ => rfl
  | _ :: row, _ :: columns, same => by
    simpa using map_length_zipWith_cons row columns (by simpa using same)

theorem map_length_columnsOf (shape : ∀ row ∈ rows, row.length = width) :
    (columnsOf width rows).map List.length = List.replicate width rows.length := by
  induction rows with
  | nil => simp [columnsOf]
  | cons row rest ih =>
    obtain ⟨first, others⟩ := List.forall_mem_cons.1 shape
    rw [columnsOf, map_length_zipWith_cons _ _ (by rw [first, length_columnsOf others])]
    have one : (columnsOf width rest).map (fun column => column.length + 1) =
        ((columnsOf width rest).map List.length).map (· + 1) := by simp
    rw [one, ih others, List.map_replicate, List.length_cons]

theorem length_of_mem_columnsOf (shape : ∀ row ∈ rows, row.length = width) {column : List α}
    (member : column ∈ columnsOf width rows) : column.length = rows.length := by
  have listed : column.length ∈ (columnsOf width rows).map List.length :=
    List.mem_map_of_mem member
  rw [map_length_columnsOf shape] at listed
  exact List.eq_of_mem_replicate listed

/-- The columns of rows are as high as there are rows. -/
theorem height_columnsOf (some : 0 < width) (shape : ∀ row ∈ rows, row.length = width) :
    height (columnsOf width rows) = rows.length := by
  rw [height, map_length_columnsOf shape, List.min?_replicate_of_pos some, Option.getD_some]

/-! ## Taking rows off the front -/

private theorem head_zipWith_cons :
    ∀ (row : List α) (columns : List (List α)), row.length = columns.length →
      (List.zipWith List.cons row columns).filterMap List.head? = row
  | [], [], _ => rfl
  | _ :: row, _ :: columns, same => by
    simpa using head_zipWith_cons row columns (by simpa using same)

private theorem tail_zipWith_cons :
    ∀ (row : List α) (columns : List (List α)), row.length = columns.length →
      (List.zipWith List.cons row columns).map List.tail = columns
  | [], [], _ => rfl
  | _ :: row, _ :: columns, same => by
    simpa using tail_zipWith_cons row columns (by simpa using same)

/-- Putting rows together undoes spreading them over columns. -/
theorem rowsOf_columnsOf (shape : ∀ row ∈ rows, row.length = width) :
    rowsOf rows.length (columnsOf width rows) = rows := by
  induction rows with
  | nil => rfl
  | cons row rest ih =>
    obtain ⟨first, others⟩ := List.forall_mem_cons.1 shape
    have same : row.length = (columnsOf width rest).length := by rw [first, length_columnsOf others]
    rw [List.length_cons, columnsOf, rowsOf, head_zipWith_cons _ _ same, tail_zipWith_cons _ _ same,
      ih others]

theorem columnsOf_drop (shape : ∀ row ∈ rows, row.length = width) (count : Nat) :
    columnsOf width (rows.drop count) = (columnsOf width rows).map (List.drop count) := by
  induction count generalizing rows with
  | zero =>
    rw [List.drop_zero]
    exact (List.map_id _).symm
  | succ count ih =>
    cases rows with
    | nil => simp [columnsOf]
    | cons row rest =>
      obtain ⟨first, others⟩ := List.forall_mem_cons.1 shape
      rw [List.drop_succ_cons, ih others]
      -- the columns without the first row are the tails of the columns with it
      conv_lhs => rw [← tail_zipWith_cons row (columnsOf width rest)
        (by rw [first, length_columnsOf others])]
      rw [columnsOf, List.map_map]
      congr 1
      funext column
      rw [Function.comp_apply, List.drop_tail]

/-- The last values of each column are the columns of the last rows. -/
theorem columnsOf_rtake (shape : ∀ row ∈ rows, row.length = width) (count : Nat) :
    (columnsOf width rows).map (List.rtake · count) = columnsOf width (rows.rtake count) := by
  rw [List.rtake, columnsOf_drop shape]
  apply List.map_congr_left
  intro column member
  rw [List.rtake, length_of_mem_columnsOf shape member]

/-! ## Putting a row behind -/

private theorem zipWith_replicate_concat :
    ∀ (row : List α), List.zipWith (fun column value => column ++ [value])
      (List.replicate row.length []) row = List.zipWith List.cons row (List.replicate row.length [])
  | [] => rfl
  | value :: row => by
    simpa [List.replicate_succ] using zipWith_replicate_concat row

private theorem zipWith_concat_cons :
    ∀ (first last : List α) (columns : List (List α)),
      List.zipWith (fun column value => column ++ [value]) (List.zipWith List.cons first columns) last =
        List.zipWith List.cons first
          (List.zipWith (fun column value => column ++ [value]) columns last)
  | [], _, _ => by simp
  | _ :: _, _, [] => by simp
  | _ :: _, [], _ :: _ => by simp
  | _ :: first, _ :: last, _ :: columns => by
    simpa using zipWith_concat_cons first last columns

/-- One more row puts its values behind the columns. -/
theorem columnsOf_concat (shape : ∀ row ∈ rows, row.length = width) {row : List α}
    (fits : row.length = width) :
    columnsOf width (rows ++ [row]) =
      List.zipWith (fun column value => column ++ [value]) (columnsOf width rows) row := by
  induction rows with
  | nil =>
    subst fits
    simpa [columnsOf] using (zipWith_replicate_concat row).symm
  | cons first rest ih =>
    obtain ⟨_, others⟩ := List.forall_mem_cons.1 shape
    rw [List.cons_append, columnsOf, ih others, columnsOf, zipWith_concat_cons]

/-! ## Rings that hold columns -/

/-- The rings hold the columns of some rows, up to what they can hold. -/
def Hold (width capacity : Nat) (rows : List (List α)) (rings : List (Ring α)) : Prop :=
  (∀ row ∈ rows, row.length = width) ∧
    List.Forall₂ (fun ring column => ring.capacity = capacity ∧ ring.Keeps column) rings
      (columnsOf width rows)

variable {capacity : Nat} {rings : List (Ring α)}

/-- There is a ring for each column. -/
theorem Hold.length_eq (hold : Hold width capacity rows rings) : rings.length = width := by
  rw [hold.2.length_eq, length_columnsOf hold.1]

/-- Each of the rings holds one of the columns. -/
theorem Hold.keeps (hold : Hold width capacity rows rings) {ring : Ring α} (member : ring ∈ rings) :
    ring.capacity = capacity ∧ ∃ column ∈ columnsOf width rows, ring.Keeps column := by
  obtain ⟨i, bound, rfl⟩ := List.getElem_of_mem member
  obtain ⟨same, keeps⟩ := hold.2.get bound (hold.2.length_eq ▸ bound)
  exact ⟨same, _, List.get_mem .., keeps⟩

theorem Hold.empty (width capacity : Nat) :
    Hold width capacity [] (List.replicate width (Ring.empty (α := α) capacity)) := by
  refine ⟨by simp, ?_⟩
  rw [columnsOf]
  induction width with
  | zero => exact .nil
  | succ width ih =>
    rw [List.replicate_succ, List.replicate_succ]
    exact .cons ⟨rfl, Ring.keeps_empty capacity⟩ ih

private theorem forall₂_zipWith {β γ δ ε : Type} {R : β → γ → Prop} {S : δ → ε → Prop}
    {f : β → α → δ} {g : γ → α → ε} (step : ∀ b c a, R b c → S (f b a) (g c a))
    {bs : List β} {cs : List γ} (related : List.Forall₂ R bs cs) (values : List α) :
    List.Forall₂ S (List.zipWith f bs values) (List.zipWith g cs values) := by
  induction related generalizing values with
  | nil => simp
  | cons head _ ih =>
    cases values with
    | nil => simp
    | cons value values => exact .cons (step _ _ _ head) (ih values)

/-- Storing a row stores one value in each ring. -/
theorem Hold.push (hold : Hold width capacity rows rings) {row : List α} (fits : row.length = width) :
    Hold width capacity (rows ++ [row])
      (List.zipWith (fun ring value => (ring.push value).2) rings row) := by
  refine ⟨?_, ?_⟩
  · intro other member
    cases List.mem_append.1 member with
    | inl old => exact hold.1 other old
    | inr new => rw [List.mem_singleton.1 new, fits]
  · rw [columnsOf_concat hold.1 fits]
    refine forall₂_zipWith ?_ hold.2 row
    rintro ring column value ⟨same, keeps⟩
    exact ⟨by rw [Ring.capacity_push, same], keeps.push value⟩

/-- What the rings hold are the columns of the last rows. -/
theorem Hold.toList (hold : Hold width capacity rows rings) :
    rings.map Ring.toList = columnsOf width (rows.rtake capacity) := by
  rw [← columnsOf_rtake hold.1]
  -- ring by ring, whatever the rows are
  have related := hold.2
  clear hold
  generalize columnsOf width rows = columns at related
  induction related with
  | nil => rfl
  | cons head _ ih =>
    obtain ⟨same, keeps⟩ := head
    rw [List.map_cons, List.map_cons, ih, keeps, same]

/-- The rings are full together, when there are as many rows as they can hold. -/
theorem Hold.isFull_iff (some : 0 < width) (hold : Hold width capacity rows rings) :
    rings.all Ring.isFull = true ↔ capacity ≤ rows.length := by
  have each : ∀ ring ∈ rings, ring.isFull = true ↔ capacity ≤ rows.length := by
    intro ring member
    obtain ⟨same, column, listed, keeps⟩ := hold.keeps member
    rw [← length_of_mem_columnsOf hold.1 listed, ← same]
    exact keeps.isFull_iff
  rw [List.all_eq_true]
  constructor
  · intro full
    have first : 0 < rings.length := hold.length_eq ▸ some
    exact (each _ (List.getElem_mem first)).1 (full _ (List.getElem_mem first))
  · intro fits ring member
    exact (each ring member).2 fits

theorem Hold.drain (hold : Hold width capacity rows rings) :
    Hold width capacity [] (rings.map fun ring => ring.drain.2) := by
  refine ⟨by simp, ?_⟩
  have length := hold.length_eq
  -- only the number of rings is left to know of the rows
  have related := hold.2
  rw [columnsOf, ← length]
  clear length hold
  generalize columnsOf width rows = columns at related
  induction related with
  | nil => exact .nil
  | cons head _ ih => exact .cons ⟨head.1, Ring.Keeps.drain _⟩ ih

end TriggeredSampler.Engine
