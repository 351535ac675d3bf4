/-! # Spans of time and their text

A `Span` counts nanoseconds. Its text uses the largest unit of which it holds at least one whole,
with the exact fraction and no trailing zeros: `2.05ms`, `30s`, `0ns`.

* `Span.text` — the text of a span.
* `Span.ofMilliseconds`, `Span.ofSeconds` — spans from coarser counts.
-/

namespace TriggeredSampler

/-- A length of time in nanoseconds. -/
structure Span where
  nanoseconds : Nat
deriving DecidableEq, Inhabited

namespace Span

/-- `n` milliseconds. -/
def ofMilliseconds (n : Nat) : Span := ⟨n * 1000000⟩

/-- `seconds` whole seconds and `nanoseconds` more. -/
def ofSeconds (seconds nanoseconds : Nat) : Span := ⟨seconds * 1000000000 + nanoseconds⟩

/-- The digits of `n` behind a decimal point in a field of `width` digits, trailing zeros dropped. -/
def fraction (width n : Nat) : List Char :=
  (((Nat.toDigits 10 n).leftpad width '0').reverse.dropWhile (· == '0')).reverse

/-- `n` in units of `10 ^ places`: the whole part, and the fraction if there is one. -/
def decimal (places n : Nat) : String :=
  let unit := Nat.pow 10 places
  let digits := if n % unit = 0 then [] else '.' :: fraction places (n % unit)
  toString (n / unit) ++ String.ofList digits

/-- The span in the largest unit of which it holds at least one whole. -/
def text (span : Span) : String :=
  if 1000000000 ≤ span.nanoseconds then decimal 9 span.nanoseconds ++ "s"
  else if 1000000 ≤ span.nanoseconds then decimal 6 span.nanoseconds ++ "ms"
  else if 1000 ≤ span.nanoseconds then decimal 3 span.nanoseconds ++ "µs"
  else decimal 0 span.nanoseconds ++ "ns"

end Span

end TriggeredSampler
