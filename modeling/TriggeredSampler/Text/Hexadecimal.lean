/-! # Hexadecimal text

Numbers and byte strings written in base sixteen.

* `Hexadecimal.upper` — a number in upper case digits, padded with zeros to a width.
* `Hexadecimal.ofBytes` — a byte string, two lower case digits a byte.
* `Hexadecimal.toBytes?` — the byte string a text of digit pairs stands for.
-/

namespace TriggeredSampler.Hexadecimal

/-- `n` in upper case digits, padded with zeros to `width`. -/
def upper (width n : Nat) : String :=
  String.ofList (((Nat.toDigits 16 n).map Char.toUpper).leftpad width '0')

/-- The two lower case digits of a byte, the high half first. -/
def pair (byte : UInt8) : List Char :=
  [Nat.digitChar (byte.toNat / 16), Nat.digitChar (byte.toNat % 16)]

/-- Two lower case digits a byte, without separators. -/
def ofBytes (bytes : List UInt8) : String :=
  String.ofList (bytes.flatMap pair)

/-- The value of a digit of either case. -/
def digit? (c : Char) : Option Nat :=
  if '0' ≤ c ∧ c ≤ '9' then some (c.toNat - 48)
  else if 'a' ≤ c ∧ c ≤ 'f' then some (c.toNat - 87)
  else if 'A' ≤ c ∧ c ≤ 'F' then some (c.toNat - 55)
  else none

/-- The bytes that the digit pairs in `digits` stand for, `none` if a digit is missing or is none. -/
def bytes? : List Char → Option (List UInt8)
  | [] => some []
  | [_] => none
  | high :: low :: rest => do
    let h ← digit? high
    let l ← digit? low
    let bytes ← bytes? rest
    return UInt8.ofNat (16 * h + l) :: bytes

/-- The byte string a text of digit pairs stands for. -/
def toBytes? (text : String) : Option (List UInt8) :=
  bytes? text.toList

end TriggeredSampler.Hexadecimal
