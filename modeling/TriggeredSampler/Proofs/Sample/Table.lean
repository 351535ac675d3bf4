import TriggeredSampler.Sample.Table

/-! # Tables in pieces

A table may be rendered row by row or at once; the text is the same, and its columns are aligned as long as
no field is too narrow for what it holds.

* `Table.render_append`, `Table.join_renderAll` — rendering in pieces.
* `Table.standsAt_header_iff` — the header stands at the beginning and nowhere else.
* `Table.standsAt_join` — where the columns of a line stand.
* `Table.text_of_pieces` — the text of several calls.
-/

namespace TriggeredSampler

/-- The fields of a row are wide enough for its numbers. -/
structure Row.Narrow (row : Row) : Prop where
  iteration : (toString row.iteration).length ≤ 10
  number : (toString row.number).length ≤ 10
  value : ∀ reading ∈ row.readings, (toString reading.value).length ≤ 14
  time : ∀ reading ∈ row.readings, (toString reading.time).length ≤ 8

namespace Table

/-- The texts of several calls. -/
def renderAll (table : Table) : List (List Row) → List String
  | [] => []
  | rows :: rest => (table.render rows).1 :: (table.render rows).2.renderAll rest

/-- `part` stands at character `i` of `text`. -/
def StandsAt (text : String) (i : Nat) (part : String) : Prop := part.toList <+: text.toList.drop i

/-- The line of the names, without its end. -/
def titles (names : List String) : String :=
  lead "Iteration" "Sample" ++ String.join (names.map fun name => column ("[" ++ name ++ "]") "Time")

/-- The line of a row, without its end. -/
def body (row : Row) : String :=
  lead (toString row.iteration) (toString row.number) ++
    String.join (row.readings.map fun r => column (toString r.value) (toString r.time))

theorem header_eq (names : List String) : header names = rule ++ titles names ++ "\n" ++ rule := by
  simp only [header, titles, String.append_assoc]

theorem line_eq (row : Row) : line row = body row ++ "\n" := rfl

/-! ## Pieces -/

theorem render_append (table : Table) (rows more : List Row) :
    table.render (rows ++ more) = ((table.render rows).1 ++ ((table.render rows).2.render more).1,
      ((table.render rows).2.render more).2) := by
  cases rows with
  | nil => simp [render]
  | cons row rows =>
    cases more with
    | nil => simp [render]
    | cons next more => cases headed : table.headed <;> simp [render, headed, String.append_assoc]

theorem join_renderAll (table : Table) (pieces : List (List Row)) :
    String.join (table.renderAll pieces) = (table.render pieces.flatten).1 := by
  -- by induction on the calls, each of which goes on where the one before it stopped
  induction pieces generalizing table with
  | nil => rfl
  | cons rows rest ih => rw [renderAll, String.join_cons, ih, List.flatten_cons, render_append]

theorem render_start (names : List String) (rows : List Row) :
    ((start names).render rows).1 =
      if rows = [] then "" else header names ++ String.join (rows.map line) := by
  cases rows with
  | nil => rfl
  | cons row rows => rfl

/-! ## Signs and ends of lines -/

/-- Every minus sign stands before a digit. -/
def Signed (text : List Char) : Prop :=
  ∀ k, text[k]? = some '-' → ∃ d, text[k + 1]? = some d ∧ d.isDigit = true

theorem signed_of_not_mem {text : List Char} (none : '-' ∉ text) : Signed text :=
  fun _ minus => absurd (List.mem_of_getElem? minus) none

theorem Signed.append {text more : List Char} (signed : Signed text) (signed' : Signed more) :
    Signed (text ++ more) := by
  intro k minus
  by_cases within : k < text.length
  · rw [List.getElem?_append_left within] at minus
    obtain ⟨d, next, digit⟩ := signed k minus
    have within : k + 1 < text.length := (List.getElem?_eq_some_iff.1 next).1
    exact ⟨d, by rw [List.getElem?_append_left within, next], digit⟩
  · rw [List.getElem?_append_right (Nat.not_lt.1 within)] at minus
    obtain ⟨d, next, digit⟩ := signed' _ minus
    refine ⟨d, ?_, digit⟩
    rw [List.getElem?_append_right (by omega), ← next]
    congr 1
    omega

theorem signed_join {parts : List String} (signed : ∀ part ∈ parts, Signed part.toList) :
    Signed (String.join parts).toList := by
  induction parts with
  | nil => exact signed_of_not_mem (by simp)
  | cons part rest ih =>
    rw [String.join_cons, String.toList_append]
    obtain ⟨first, others⟩ := List.forall_mem_cons.1 signed
    exact first.append (ih others)

theorem isDigit_of_mem_nat {n : Nat} {c : Char} (member : c ∈ (toString n).toList) : c.isDigit = true := by
  rw [show toString n = n.repr from rfl, Nat.toList_repr] at member
  exact Nat.isDigit_of_mem_toDigits (by decide) (by decide) member

theorem toString_negSucc (n : Nat) : toString (Int.negSucc n) = "-" ++ toString (n + 1) := rfl

theorem minus_not_mem_nat (n : Nat) : '-' ∉ (toString n).toList := by
  intro member
  have digit := isDigit_of_mem_nat member
  cases digit

theorem signed_int (n : Int) : Signed (toString n).toList := by
  cases n with
  | ofNat n => exact signed_of_not_mem (minus_not_mem_nat n)
  | negSucc n =>
    rw [toString_negSucc, String.toList_append]
    intro k minus
    cases k with
    | zero =>
      -- the sign is followed by the first digit
      have some : (toString (n + 1)).toList ≠ [] := by
        rw [show toString (n + 1) = (n + 1).repr from rfl, Nat.toList_repr]
        exact Nat.toDigits_ne_nil
      obtain ⟨d, rest, digits⟩ := List.exists_cons_of_ne_nil some
      exact ⟨d, by rw [digits]; rfl, isDigit_of_mem_nat (digits ▸ List.mem_cons_self)⟩
    | succ k =>
      have minus : (toString (n + 1)).toList[k]? = some '-' := minus
      exact absurd (List.mem_of_getElem? minus) (minus_not_mem_nat (n + 1))

theorem signed_field {text : String} (signed : Signed text.toList) (width : Nat) :
    Signed (field width text).toList := by
  rw [field, String.toList_append, String.toList_ofList]
  exact signed.append (signed_of_not_mem (by simp))

theorem signed_column {value time : String} (signed : Signed value.toList) (signed' : Signed time.toList) :
    Signed (column value time).toList := by
  rw [column, String.toList_append]
  exact (signed_field signed 14).append (signed_field signed' 8)

theorem signed_nat (n : Nat) : Signed (toString n).toList := signed_of_not_mem (minus_not_mem_nat n)

theorem signed_line (row : Row) : Signed (line row).toList := by
  rw [line_eq, body, lead, String.toList_append, String.toList_append, String.toList_append]
  refine (Signed.append ?_ (signed_join ?_)).append (signed_of_not_mem (by decide))
  · exact (signed_field (signed_nat _) 10).append (signed_field (signed_nat _) 10)
  · intro part member
    obtain ⟨reading, _, rfl⟩ := List.mem_map.1 member
    exact signed_column (signed_int _) (signed_nat _)

theorem newline_not_mem_nat (n : Nat) : '\n' ∉ (toString n).toList := by
  intro member
  have digit := isDigit_of_mem_nat member
  cases digit

theorem newline_not_mem_int (n : Int) : '\n' ∉ (toString n).toList := by
  cases n with
  | ofNat n => exact newline_not_mem_nat n
  | negSucc n =>
    rw [toString_negSucc, String.toList_append, List.mem_append, not_or]
    exact ⟨by decide, newline_not_mem_nat (n + 1)⟩

theorem newline_not_mem_field {text : String} (inside : '\n' ∉ text.toList) (width : Nat) :
    '\n' ∉ (field width text).toList := by
  rw [field, String.toList_append, String.toList_ofList, List.mem_append, not_or]
  exact ⟨inside, by simp⟩

/-- A line of fields that do not end is a line that does not. -/
theorem newline_not_mem_line {α : Type} {first second : String} (none : '\n' ∉ first.toList)
    (none' : '\n' ∉ second.toList) {items : List α} {value time : α → String}
    (values : ∀ x ∈ items, '\n' ∉ (value x).toList) (times : ∀ x ∈ items, '\n' ∉ (time x).toList) :
    '\n' ∉ (lead first second ++ String.join (items.map fun x => column (value x) (time x))).toList := by
  rw [String.toList_append, List.mem_append, not_or, String.toList_join]
  constructor
  · rw [lead, String.toList_append, List.mem_append, not_or]
    exact ⟨newline_not_mem_field none 10, newline_not_mem_field none' 10⟩
  · intro member
    obtain ⟨text, listed, member⟩ := List.mem_flatMap.1 member
    obtain ⟨x, within, rfl⟩ := List.mem_map.1 listed
    rw [column, String.toList_append] at member
    rcases List.mem_append.1 member with left | right
    · exact newline_not_mem_field (values x within) 14 left
    · exact newline_not_mem_field (times x within) 8 right

theorem newline_not_mem_titles {names : List String} (inside : ∀ name ∈ names, '\n' ∉ name.toList) :
    '\n' ∉ (titles names).toList := by
  apply newline_not_mem_line (by decide) (by decide)
  · intro name listed
    simpa using inside name listed
  · exact fun _ _ => by decide

theorem newline_not_mem_body (row : Row) : '\n' ∉ (body row).toList :=
  newline_not_mem_line (newline_not_mem_nat _) (newline_not_mem_nat _)
    (fun _ _ => newline_not_mem_int _) fun _ _ => newline_not_mem_nat _

/-! ## The header -/

theorem getElem?_of_standsAt {text part : String} {i j : Nat} {c : Char} (stands : StandsAt text i part)
    (inside : part.toList[j]? = some c) : text.toList[i + j]? = some c := by
  obtain ⟨rest, split⟩ := stands
  have within : j < part.toList.length := (List.getElem?_eq_some_iff.1 inside).1
  rw [← List.getElem?_drop, ← split, List.getElem?_append_left within, inside]

theorem toList_rule : rule.toList = List.replicate 60 '-' ++ ['\n'] := by
  unfold rule
  -- the characters need not be counted one by one
  generalize 60 = n
  simp

theorem getElem?_rule_of_lt {j : Nat} (dash : j < 60) : rule.toList[j]? = some '-' := by
  rw [toList_rule, List.getElem?_append_left (by simpa using dash), List.getElem?_replicate, if_pos dash]

theorem head_header (names : List String) : (header names).toList[0]? = some '-' := by
  rw [header_eq, String.append_assoc, String.append_assoc, String.toList_append,
    List.getElem?_append_left (by rw [toList_rule]; decide), getElem?_rule_of_lt (by decide)]

/-- A text that ends with a rule does not stand again in what follows it, if every minus sign there stands
before a digit. -/
theorem eq_zero_of_standsAt {front rest : String} (signed : Signed rest.toList) {i : Nat}
    (stands : StandsAt (front ++ rule ++ rest) i (front ++ rule)) : i = 0 := by
  -- the rule of the second copy
  have dash : ∀ j, j < 60 → (front ++ rule ++ rest).toList[i + (front.toList.length + j)]? = some '-' := by
    intro j within
    apply getElem?_of_standsAt stands
    rw [String.toList_append, List.getElem?_append_right (Nat.le_add_right ..), Nat.add_sub_cancel_left,
      getElem?_rule_of_lt within]
  have length : rule.toList.length = 61 := by
    rw [toList_rule]
    rfl
  by_cases first : i = 0
  · exact first
  exfalso
  by_cases overlap : i ≤ 60
  · -- it would run over the end of the line
    have closes : (front ++ rule ++ rest).toList[front.toList.length + 60]? = some '\n' := by
      rw [String.toList_append, String.toList_append, List.append_assoc,
        List.getElem?_append_right (Nat.le_add_right ..), Nat.add_sub_cancel_left,
        List.getElem?_append_left (by omega), toList_rule]
      rfl
    have clash := dash (60 - i) (by omega)
    rw [show i + (front.toList.length + (60 - i)) = front.toList.length + 60 by omega, closes] at clash
    cases clash
  · -- it would stand in what follows, where no two minus signs are neighbours
    have behind : ∀ j, j < 60 → rest.toList[i - 61 + j]? = some '-' := by
      intro j within
      rw [← dash j within, String.toList_append, List.getElem?_append_right]
      · rw [String.toList_append, List.length_append, length]
        congr 1
        omega
      · rw [String.toList_append, List.length_append, length]
        omega
    obtain ⟨d, next, digit⟩ := signed _ (behind 0 (by decide))
    have minus := behind 1 (by decide)
    rw [Nat.add_zero] at next
    rw [next] at minus
    cases minus
    cases digit

theorem standsAt_header_iff (names : List String) (rows : List Row) (i : Nat) :
    StandsAt ((start names).render rows).1 i (header names) ↔ rows ≠ [] ∧ i = 0 := by
  rw [render_start]
  by_cases none : rows = []
  · rw [if_pos none]
    refine iff_of_false ?_ fun some => some.1 none
    intro stands
    have first := getElem?_of_standsAt stands (head_header names)
    cases first
  · rw [if_neg none, header_eq, and_iff_right none]
    constructor
    · apply eq_zero_of_standsAt
      apply signed_join
      intro text member
      obtain ⟨row, _, rfl⟩ := List.mem_map.1 member
      exact signed_line row
    · rintro rfl
      exact ⟨_, by rw [← String.toList_append, List.drop_zero]⟩

/-! ## Columns -/

theorem length_field {width : Nat} {text : String} (narrow : text.length ≤ width) :
    (field width text).length = width := by
  rw [field, String.length_append, String.length_ofList, List.length_replicate]
  omega

theorem length_lead {iteration sample : String} (narrow : iteration.length ≤ 10)
    (narrow' : sample.length ≤ 10) : (lead iteration sample).length = 20 := by
  rw [lead, String.length_append, length_field narrow, length_field narrow']

theorem length_column {value time : String} (narrow : value.length ≤ 14) (narrow' : time.length ≤ 8) :
    (column value time).length = 22 := by
  rw [column, String.length_append, length_field narrow, length_field narrow']

/-- Parts of one width stand at its multiples. -/
theorem standsAt_join {parts : List String} {width : Nat} (even : ∀ part ∈ parts, part.length = width)
    (before behind : String) {k : Nat} {part : String} (nth : parts[k]? = some part) :
    StandsAt (before ++ String.join parts ++ behind) (before.length + width * k) part := by
  induction parts generalizing before k with
  | nil => cases nth
  | cons first rest ih =>
    obtain ⟨wide, even⟩ := List.forall_mem_cons.1 even
    rw [String.join_cons, ← String.append_assoc]
    cases k with
    | zero =>
      obtain rfl : first = part := Option.some.inj nth
      refine ⟨(String.join rest ++ behind).toList, ?_⟩
      simp [List.append_assoc, ← String.length_toList]
    | succ k =>
      have stands := ih even (before ++ first) nth
      rwa [String.length_append, wide, Nat.add_assoc, Nat.add_comm width, ← Nat.mul_succ] at stands

/-- The columns of a line begin every 22 characters. -/
theorem standsAt_columns {α : Type} {first second : String} (narrow : first.length ≤ 10)
    (narrow' : second.length ≤ 10) {items : List α} {value time : α → String}
    (values : ∀ x ∈ items, (value x).length ≤ 14) (times : ∀ x ∈ items, (time x).length ≤ 8)
    (behind : String) {k : Nat} {x : α} (nth : items[k]? = some x) :
    StandsAt (lead first second ++ String.join (items.map fun x => column (value x) (time x)) ++ behind)
      (20 + 22 * k) (column (value x) (time x)) := by
  have even : ∀ part ∈ items.map (fun x => column (value x) (time x)), part.length = 22 := by
    intro part member
    obtain ⟨x, listed, rfl⟩ := List.mem_map.1 member
    exact length_column (values x listed) (times x listed)
  have stands := standsAt_join even (lead first second) behind
    (by rw [List.getElem?_map, nth, Option.map_some])
  rwa [length_lead narrow narrow'] at stands

theorem standsAt_titles {names : List String} (narrow : ∀ name ∈ names, name.length ≤ 12) {k : Nat}
    {name : String} (nth : names[k]? = some name) :
    StandsAt (titles names) (20 + 22 * k) (column ("[" ++ name ++ "]") "Time") := by
  have bracketed : ∀ name ∈ names, ("[" ++ name ++ "]").length ≤ 14 := by
    intro name listed
    have short := narrow name listed
    have bracket : "[".length = 1 ∧ "]".length = 1 := by decide
    rw [String.length_append, String.length_append]
    omega
  have timed : ∀ name ∈ names, "Time".length ≤ 8 := fun _ _ => by decide
  have led : "Iteration".length ≤ 10 ∧ "Sample".length ≤ 10 := by decide
  have stands := standsAt_columns led.1 led.2 bracketed timed "" nth
  rwa [String.append_empty] at stands

theorem standsAt_line {row : Row} (narrow : row.Narrow) {k : Nat} {reading : Reading}
    (nth : row.readings[k]? = some reading) :
    StandsAt (line row) (20 + 22 * k) (column (toString reading.value) (toString reading.time)) :=
  standsAt_columns narrow.iteration narrow.number narrow.value narrow.time "\n" nth

/-- **The text of a table does not depend on how its rows are cut.** The texts of several calls make up the
text of all the rows at once: nothing without rows, else the header and a line for each row in order. The
header stands before the first line and nowhere else. As long as the fields are wide enough, the columns of
the names and of every row begin at the same characters. -/
theorem text_of_pieces (names : List String) (pieces : List (List Row)) :
    let text := String.join ((start names).renderAll pieces)
    let rows := pieces.flatten
    text = ((start names).render rows).1 ∧
      text = (if rows = [] then "" else header names ++ String.join (rows.map line)) ∧
      (∀ i, StandsAt text i (header names) ↔ rows ≠ [] ∧ i = 0) ∧
      (∀ row, line row = body row ++ "\n" ∧ '\n' ∉ (body row).toList) ∧
      header names = rule ++ titles names ++ "\n" ++ rule ∧
      ((∀ name ∈ names, '\n' ∉ name.toList) → '\n' ∉ (titles names).toList) ∧
      ((∀ name ∈ names, name.length ≤ 12) → ∀ k name, names[k]? = some name →
        StandsAt (titles names) (20 + 22 * k) (column ("[" ++ name ++ "]") "Time")) ∧
      ∀ row : Row, row.Narrow → ∀ k reading, row.readings[k]? = some reading →
        StandsAt (line row) (20 + 22 * k) (column (toString reading.value) (toString reading.time)) := by
  intro text rows
  have once : text = ((start names).render rows).1 := join_renderAll (start names) pieces
  refine ⟨once, once.trans (render_start names rows), fun i => ?_,
    fun row => ⟨line_eq row, newline_not_mem_body row⟩, header_eq names, newline_not_mem_titles,
    fun narrow _ _ => standsAt_titles narrow, fun _ narrow _ _ => standsAt_line narrow⟩
  rw [once]
  exact standsAt_header_iff names rows i

/-- Two columns, and three rows in pieces. -/
theorem text_of_threeRows :
    let rows : List Row := [⟨0, 0, [⟨7, 0⟩, ⟨-35, 0⟩]⟩, ⟨0, 1, [⟨8, 10⟩, ⟨36, 10⟩]⟩, ⟨1, 0, [⟨9, 20⟩, ⟨37, 20⟩]⟩]
    let names := ["Up time", "Temperature"]
    String.join ((start names).renderAll [[], rows.take 1, [], rows.drop 1]) =
        header names ++ String.join (rows.map line) ∧
      StandsAt (titles names) 42 "[Temperature] Time    " ∧
      StandsAt (line ⟨0, 0, [⟨7, 0⟩, ⟨-35, 0⟩]⟩) 42 "-35           0       " := by
  intro rows names
  obtain ⟨_, text, _, _, _, _, named, rowed⟩ := text_of_pieces names [[], rows.take 1, [], rows.drop 1]
  have narrow : ∀ name ∈ names, name.length ≤ 12 := by decide
  have narrow' : Row.Narrow ⟨0, 0, [⟨7, 0⟩, ⟨-35, 0⟩]⟩ :=
    ⟨by decide, by decide, by decide, by decide⟩
  refine ⟨text, ?_, ?_⟩
  · exact named narrow 1 "Temperature" rfl
  · exact rowed _ narrow' 1 ⟨-35, 0⟩ rfl

end Table

end TriggeredSampler
