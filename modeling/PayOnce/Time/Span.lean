import PayOnce.Text.Decimal
/-!
Lengths of time, in nanoseconds.
-/

namespace PayOnce

/-- A length of time in nanoseconds. -/
abbrev Span := Nat

namespace Span

open Text

/-- So many milliseconds. -/
def ofMillis (n : Nat) : Span :=
  n * 1000000

/-- So many seconds. -/
def ofSeconds (n : Nat) : Span :=
  n * 1000000000

/-- So many days of twenty-four hours. -/
def ofDays (n : Nat) : Span :=
  ofSeconds (n * 86400)

/-- The whole milliseconds in a span. -/
def millis (d : Span) : Nat :=
  d / 1000000

/-- The whole seconds in a span. -/
def seconds (d : Span) : Nat :=
  d / 1000000000

/-- A number of units with its fraction of `places` digits, trailing zeros dropped. -/
def inUnit (places : Nat) (unit : String) (d : Span) : String :=
  let size := Nat.pow 10 places
  let fraction := (Decimal.padded places (d % size)).reverse.dropWhile (· == '0')
  let whole := Decimal.text (d / size)
  if d % size = 0 then whole ++ unit
  else whole ++ "." ++ String.ofList fraction.reverse ++ unit

/-- A span in the largest of s, ms, µs and ns that counts at least one of it. -/
def text (d : Span) : String :=
  if d ≥ 1000000000 then inUnit 9 "s" d
  else if d ≥ 1000000 then inUnit 6 "ms" d
  else if d ≥ 1000 then inUnit 3 "µs" d
  else Decimal.text d ++ "ns"

end Span

end PayOnce
