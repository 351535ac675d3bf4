import TriggeredSampler.Sample.Basic

/-! # Rows as a text table

A table has one line per row and a header before the first row it ever prints. Fields are padded
with blanks to a fixed width, counted in characters, and never cut.

* `Table.render` — the text of further rows, and the table to go on with.
-/

namespace TriggeredSampler

/-- The names of the columns, and whether the header was printed. -/
structure Table where
  names : List String
  headed : Bool
deriving DecidableEq

namespace Table

/-- A table that printed nothing yet. -/
def start (names : List String) : Table := ⟨names, false⟩

/-- `text` in a field of at least `width` characters, filled up with blanks behind it. -/
def field (width : Nat) (text : String) : String :=
  text ++ String.ofList (List.replicate (width - text.length) ' ')

/-- The two fields each line begins with. -/
def lead (iteration sample : String) : String :=
  field 10 iteration ++ field 10 sample

/-- The two fields of one column: a value and a time. -/
def column (value time : String) : String :=
  field 14 value ++ field 8 time

/-- The line above and below the names. -/
def rule : String :=
  String.ofList (List.replicate 60 '-') ++ "\n"

/-- The names of the columns between two rules. -/
def header (names : List String) : String :=
  rule ++ lead "Iteration" "Sample" ++
    String.join (names.map fun name => column ("[" ++ name ++ "]") "Time") ++ "\n" ++ rule

/-- The line of a row. -/
def line (row : Row) : String :=
  lead (toString row.iteration) (toString row.number) ++
    String.join (row.readings.map fun r => column (toString r.value) (toString r.time)) ++ "\n"

/-- The text of further rows, with the header if these are the first. -/
def render (table : Table) (rows : List Row) : String × Table :=
  if rows.isEmpty then ("", table)
  else
    let lines := String.join (rows.map line)
    if table.headed then (lines, table)
    else (header table.names ++ lines, { table with headed := true })

end Table

end TriggeredSampler
