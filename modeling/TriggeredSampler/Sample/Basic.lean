import TriggeredSampler.Sample.Breach

/-! # Sampled data

A sampler hands out `Batch`es: the readings of consecutive samples of one iteration, one reading
per tracked address and sample. A `Row` is one sample with its place in the run.

* `Batch.samples` — the batch split into samples, refused if a sample would be incomplete.
-/

namespace TriggeredSampler

/-- The value of an address and the time it was read at, in milliseconds since the start. -/
structure Reading where
  value : Int
  time : Nat
deriving DecidableEq, Inhabited

/-- The readings of consecutive samples of one iteration. -/
structure Batch where
  iteration : Nat
  readings : List Reading
deriving DecidableEq, Inhabited

/-- One sample, numbered within its iteration. -/
structure Row where
  iteration : Nat
  number : Nat
  readings : List Reading
deriving DecidableEq, Inhabited

namespace Batch

/-- Cuts `count` pieces of `width` values off the front. -/
def cut {α : Type} (width : Nat) : Nat → List α → List (List α)
  | 0, _ => []
  | count + 1, values => values.take width :: cut width count (values.drop width)

/-- The samples of the batch, each with one reading per tracked address. -/
def samples (batch : Batch) (tracked : Nat) : Except Breach (List (List Reading)) :=
  if tracked = 0 ∨ batch.readings.length % tracked ≠ 0 then
    .error (.partialSample batch.readings.length tracked)
  else
    .ok (cut tracked (batch.readings.length / tracked) batch.readings)

end Batch

end TriggeredSampler
