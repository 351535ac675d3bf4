import TriggeredSampler.Phase

/-! # Breaches of the sampler protocol

A device breaches the protocol when it hands out data that does not split into samples, fails
without an error, or reports a phase that its sampler cannot have reached.

* `Breach.message` — the wording of a breach.
-/

namespace TriggeredSampler

/-- What a device did against the sampler protocol. -/
inductive Breach where
  /-- A batch does not hold whole samples. -/
  | partialSample (readings tracked : Nat)
  /-- The sampler failed and there is no error. -/
  | unexplainedFailure
  /-- The reported phase cannot follow the current one. -/
  | unexpectedPhase (reported current : Phase)
deriving DecidableEq

namespace Breach

/-- The wording of a breach. -/
def message : Breach → String
  | partialSample readings tracked =>
    toString readings ++ " sampled values can't be split into samples of " ++ toString tracked ++
      " tracked addresses"
  | unexplainedFailure => "sampler failed without reporting an error"
  | unexpectedPhase reported current =>
    "device reported " ++ reported.name ++ " while the sampler is " ++ current.name

end Breach

end TriggeredSampler
