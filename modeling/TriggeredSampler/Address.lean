import TriggeredSampler.Text.Hexadecimal

/-! # Addresses of the object dictionary

Every value a controller exposes has an `Address`: a 16-bit index and an 8-bit subindex, written
`0x2400:01`.

* `Address.text` — the written form.
* `Address.le` — the order of the dictionary, by index and then by subindex.
-/

namespace TriggeredSampler

/-- The place of a value in the object dictionary. -/
structure Address where
  index : UInt16
  subindex : UInt8
deriving DecidableEq, Inhabited

namespace Address

/-- Four digits of index and two of subindex, in upper case. -/
def text (a : Address) : String :=
  "0x" ++ Hexadecimal.upper 4 a.index.toNat ++ ":" ++ Hexadecimal.upper 2 a.subindex.toNat

/-- The order of the dictionary: by index, within an index by subindex. -/
def le (a b : Address) : Bool :=
  a.index < b.index || (a.index == b.index && a.subindex ≤ b.subindex)

/-- The addresses in the order of the dictionary. -/
def sort (addresses : List Address) : List Address :=
  addresses.mergeSort le

end Address

end TriggeredSampler
