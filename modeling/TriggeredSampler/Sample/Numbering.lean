import TriggeredSampler.Sample.Basic

/-! # The numbering of samples

Samples are numbered within their iteration, across batches. The count starts again at zero
whenever the iteration changes.

* `Numbering.number` — the rows of a list of batches, and the state to go on from.
-/

namespace TriggeredSampler

/-- The iteration of the last batch and the number its next sample gets. -/
structure Numbering where
  tracked : Nat
  iteration : Nat
  next : Nat
deriving DecidableEq

namespace Numbering

/-- The start: iteration 0, sample 0. -/
def start (tracked : Nat) : Numbering := ⟨tracked, 0, 0⟩

/-- Back to the start. -/
def reset (n : Numbering) : Numbering := start n.tracked

/-- The state in which the samples of `iteration` are numbered. -/
def enter (n : Numbering) (iteration : Nat) : Numbering :=
  if n.iteration = iteration then n else { n with iteration := iteration, next := 0 }

/-- Numbers samples of the current iteration. -/
def numberSamples (n : Numbering) : List (List Reading) → List Row × Numbering
  | [] => ([], n)
  | sample :: rest =>
    let (rows, last) := { n with next := n.next + 1 }.numberSamples rest
    (⟨n.iteration, n.next, sample⟩ :: rows, last)

/-- Numbers the samples of `batches` in order; a batch that does not split ends the call, and what
the batches before it did stays. -/
def number (n : Numbering) : List Batch → Except Breach (List Row) × Numbering
  | [] => (.ok [], n)
  | batch :: rest =>
    match batch.samples n.tracked with
    | .error breach => (.error breach, n)
    | .ok samples =>
      let (rows, reached) := (n.enter batch.iteration).numberSamples samples
      match reached.number rest with
      | (.error breach, last) => (.error breach, last)
      | (.ok more, last) => (.ok (rows ++ more), last)

end Numbering

end TriggeredSampler
