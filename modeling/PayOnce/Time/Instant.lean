import PayOnce.Text.Decimal
import PayOnce.Time.Calendar
import PayOnce.Time.Span
/-!
Instants of UTC with nanoseconds and leap seconds, their order, their arithmetic and their text.
-/

namespace PayOnce

/-- An instant: whole seconds since 1970-01-01T00:00:00Z, and the nanoseconds after them. From one
    to two thousand million nanoseconds lie in the leap second that follows the second. -/
structure Instant where
  secs : Int
  nanos : Nat
deriving DecidableEq, Repr

namespace Instant

open Text

/-- Earlier than, a leap second coming after the second that it prolongs. -/
def before (a b : Instant) : Bool :=
  a.secs < b.secs || (a.secs == b.secs && a.nanos < b.nanos)

/-- Moves an instant by nanoseconds that stay within its own second or reach the next one. -/
def normalized (secs nanos : Int) : Instant :=
  if nanos < 0 then ⟨secs - 1, (nanos + 1000000000).toNat⟩
  else if nanos ≥ 1000000000 then ⟨secs + 1, (nanos - 1000000000).toNat⟩
  else ⟨secs, nanos.toNat⟩

/-- The instant so many nanoseconds later, or earlier for a negative number. A leap second counts
    only for the part of the way that lies inside it: whoever leaves it, leaves it at its end. -/
def shift (t : Instant) (nanos : Int) : Instant :=
  let secs := nanos.tdiv 1000000000
  let part := nanos.tmod 1000000000
  let here : Int := t.nanos
  if here < 1000000000 then normalized (t.secs + secs) (here + part)
  else if secs > 0 ∨ (part > 0 ∧ here ≥ 2000000000 - part) then
    normalized (t.secs + secs) (here - 1000000000 + part)
  else if secs < 0 then normalized (t.secs + 1 + secs) (here - 1000000000 + part)
  else ⟨t.secs, (here + part).toNat⟩

/-- The instant after a span. -/
def plus (t : Instant) (d : Span) : Instant :=
  t.shift (d : Int)

/-- A year: four digits, or a sign and at least four digits outside 0 to 9999. -/
def yearChars (year : Int) : List Char :=
  if 0 ≤ year ∧ year ≤ 9999 then Decimal.padded 4 year.natAbs
  else (if year < 0 then '-' else '+') :: Decimal.padded 4 year.natAbs

/-- A fraction of a second: none, or the shortest exact one of 3, 6 and 9 digits. -/
def fractionChars (nanos : Nat) : List Char :=
  if nanos = 0 then []
  else if nanos % 1000000 = 0 then '.' :: Decimal.padded 3 (nanos / 1000000)
  else if nanos % 1000 = 0 then '.' :: Decimal.padded 6 (nanos / 1000)
  else '.' :: Decimal.padded 9 nanos

/-- The characters of an instant: date, `T`, time of day with its fraction, `Z`. -/
def chars (t : Instant) : List Char :=
  let date := Date.ofDays (t.secs / 86400)
  let ofDay := (t.secs % 86400).toNat
  let leap := if t.nanos ≥ 1000000000 then 1 else 0
  yearChars date.year ++ '-' :: Decimal.padded 2 date.month ++ '-' :: Decimal.padded 2 date.day
    ++ 'T' :: Decimal.padded 2 (ofDay / 3600) ++ ':' :: Decimal.padded 2 (ofDay / 60 % 60)
    ++ ':' :: Decimal.padded 2 (ofDay % 60 + leap) ++ fractionChars (t.nanos % 1000000000)
    ++ ['Z']

/-- The text of an instant. -/
def text (t : Instant) : String :=
  String.ofList t.chars

end Instant

end PayOnce
