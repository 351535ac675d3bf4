import TriggeredSampler.Configuration.Defect

/-! # The plan of the firmware buffers

A firmware sampler stores its values in `Plan.bankCount` banks of `Plan.bankCapacity` values. An
address may take several consecutive banks, but no bank holds values of two addresses.

* `Plan.make?` — the banks for a number of addresses and samples, if they fit.
* `Plan.maxSamples` — the largest number of samples per address that fits.
* `Plan.banks` — the banks of one tracked address.
-/

namespace TriggeredSampler

/-- An assignment of banks to tracked addresses. -/
structure Plan where
  tracked : Nat
  banksPerAddress : Nat
  samplesPerAddress : Nat
deriving DecidableEq

namespace Plan

/-- The number of firmware banks. -/
def bankCount : Nat := 12

/-- The number of values a bank holds. -/
def bankCapacity : Nat := 254

/-- The number of values all banks hold together. -/
def totalCapacity : Nat := bankCount * bankCapacity

/-- The largest number of samples per address that `tracked` addresses can store. -/
def maxSamples (tracked : Nat) : Nat :=
  if tracked = 0 then 0
  else min (totalCapacity / tracked) (bankCount / tracked * bankCapacity)

/-- Gives each address as many whole banks as its samples need. -/
def make? (tracked samples : Nat) : Except Defect Plan :=
  if tracked = 0 ∨ samples = 0 ∨ maxSamples tracked < samples then
    .error (.overCapacity samples (maxSamples tracked) tracked)
  else
    .ok ⟨tracked, (samples + bankCapacity - 1) / bankCapacity, samples⟩

/-- The banks of the address in `column`: the first one, and the first one behind them. -/
def banks (plan : Plan) (column : Nat) : Nat × Nat :=
  (column * plan.banksPerAddress, column * plan.banksPerAddress + plan.banksPerAddress)

/-- The number of banks in use. -/
def banksUsed (plan : Plan) : Nat :=
  plan.tracked * plan.banksPerAddress

/-- The number of values the banks of one address hold. -/
def capacityPerAddress (plan : Plan) : Nat :=
  plan.banksPerAddress * bankCapacity

end Plan

end TriggeredSampler
