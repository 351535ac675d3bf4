import TriggeredSampler.Engine.Source

/-! # Prepared readings

A `Tape` holds the readings prepared for one address: a list of them, the last of which repeats, or a
counter. `Tapes` answer the reads of an engine from the tapes of several addresses and remember which
addresses were read.

* `Tapes.source` — the answers.
* `Tapes.takeReads` — the addresses read since they were last taken.
-/

namespace TriggeredSampler

/-- The readings prepared for an address. -/
inductive Tape where
  /-- One after the other; the last one repeats. -/
  | values (readings : List (Except DeviceFault Int))
  /-- `next`, and `step` more with each reading. -/
  | counter (next step : Int)

/-- The reading at the head of a tape, and the tape behind it. -/
def Tape.next? : Tape → Option (Except DeviceFault Int × Tape)
  | values [] => none
  | values [last] => some (last, values [last])
  | values (reading :: rest) => some (reading, values rest)
  | counter next step => some (.ok next, counter (next + step) step)

/-- The tapes of several addresses. -/
structure Tapes where
  tapes : List (Address × Tape)
  /-- The addresses read, latest first. -/
  reads : List Address

namespace Tapes

/-- No address has readings. -/
def empty : Tapes := ⟨[], []⟩

/-- Replaces the tape of an address. -/
def load (t : Tapes) (a : Address) (tape : Tape) : Tapes :=
  { t with tapes := (a, tape) :: t.tapes.filter fun entry => entry.1 != a }

/-- The next reading of an address; one without readings does not exist. -/
def source : Source Tapes := fun a t =>
  let noted := { t with reads := a :: t.reads }
  match (t.tapes.lookup a).bind Tape.next? with
  | none => (.error ⟨.addressNotFound, 0, a.text⟩, noted)
  | some (reading, tape) => (reading, noted.load a tape)

/-- The addresses read since they were last taken, in order. -/
def takeReads (t : Tapes) : List Address × Tapes :=
  (t.reads.reverse, { t with reads := [] })

end Tapes

end TriggeredSampler
