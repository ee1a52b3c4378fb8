import PayOnce.Text.Blank
import PayOnce.Time.Instant
/-!
Reading an instant from text: a date, a separator, a time of day and an offset from UTC. Spaces
are allowed before each number, before the separators inside date and time, before the offset and
after it; a field may have fewer digits than it is written with.
-/

namespace PayOnce.Instant

open Text

/-- What is left of some characters after their leading blanks. -/
def skipBlanks (cs : List Char) : List Char :=
  cs.dropWhile isBlankChar

/-- Reads at least one and at most `most` digits. -/
def readDigits (most : Nat) (cs : List Char) : Option (List Char × List Char) :=
  let ds := (cs.take most).takeWhile Decimal.isDigit
  if ds.isEmpty then none else some (ds, cs.drop ds.length)

/-- Reads a number of at most `most` digits after any blanks. -/
def readNumber (most : Nat) (cs : List Char) : Option (Nat × List Char) := do
  let (ds, rest) ← readDigits most (skipBlanks cs)
  return (← Decimal.value? 0 ds, rest)

/-- Reads a year: at most four digits, or a sign and any number of digits. -/
def readYear (cs : List Char) : Option (Int × List Char) :=
  match skipBlanks cs with
  | '-' :: rest => do
    let (ds, rest) ← readDigits rest.length rest
    return (-(← Decimal.value? 0 ds : Nat), rest)
  | '+' :: rest => do
    let (ds, rest) ← readDigits rest.length rest
    return ((← Decimal.value? 0 ds : Nat), rest)
  | rest => do
    let (n, rest) ← readNumber 4 rest
    return (n, rest)

/-- Reads one given character after any blanks. -/
def readMark (c : Char) (cs : List Char) : Option (List Char) :=
  match skipBlanks cs with
  | d :: rest => if d = c then some rest else none
  | [] => none

/-- Reads an optional fraction of a second as nanoseconds; digits after the ninth are dropped. -/
def readFraction : List Char → Option (Nat × List Char)
  | '.' :: cs => do
    let (ds, rest) ← readDigits 9 cs
    let n ← Decimal.value? 0 ds
    return (n * Nat.pow 10 (9 - ds.length), rest.dropWhile Decimal.isDigit)
  | cs => some (0, cs)

/-- Reads exactly two digits. -/
def readTwo : List Char → Option (Nat × List Char)
  | a :: b :: rest => do
    return (10 * (← Decimal.digit? a) + (← Decimal.digit? b), rest)
  | _ => none

/-- Reads the hours and minutes of an offset, with colons and blanks between them, in seconds. -/
def readHoursMinutes (cs : List Char) : Option (Nat × List Char) := do
  let (hours, rest) ← readTwo cs
  let (minutes, rest) ← readTwo (rest.dropWhile fun c => c == ':' || isBlankChar c)
  if minutes < 60 then return (hours * 3600 + minutes * 60, rest) else none

/-- Reads an offset from UTC in seconds: `UTC`, `Z`, or a sign with hours and minutes. -/
def readOffset (cs : List Char) : Option (Int × List Char) :=
  match cs with
  | 'Z' :: rest | 'z' :: rest => some (0, rest)
  | '+' :: rest => (readHoursMinutes rest).map fun (n, rest) => (n, rest)
  | '-' :: rest | '\u2212' :: rest => (readHoursMinutes rest).map fun (n, rest) => (-n, rest)
  | u :: t :: c :: rest =>
    if u.toLower = 'u' ∧ t.toLower = 't' ∧ c.toLower = 'c' then some (0, rest) else none
  | _ => none

/-- Reads the mark between date and time. -/
def readSeparator : List Char → Option (List Char)
  | 't' :: rest | 'T' :: rest | ' ' :: rest => some rest
  | _ => none

/-- The years whose dates can be represented. -/
def yearInRange (year : Int) : Bool :=
  -262143 ≤ year && year ≤ 262142

/-- The instant of a date and a time of day at an offset; second 60 is a leap second. -/
def ofParts (date : Date) (hour minute second nanos : Nat) (offset : Int) : Option Instant :=
  if date.Valid ∧ yearInRange date.year ∧ hour < 24 ∧ minute < 60 ∧ second ≤ 60
      ∧ offset.natAbs < 86400 then
    -- A leap second is the end of the second before it.
    let leap := if second = 60 then 1 else 0
    let ofDay := hour * 3600 + minute * 60 + (second - leap)
    let secs := date.toDays * 86400 + ofDay - offset
    if yearInRange (Date.ofDays (secs / 86400)).year then
      some ⟨secs, nanos + leap * 1000000000⟩
    else none
  else none

/-- Reads a whole text as an instant. -/
def ofChars? (cs : List Char) : Option Instant := do
  let (year, cs) ← readYear cs
  let (month, cs) ← readNumber 2 (← readMark '-' cs)
  let (day, cs) ← readNumber 2 (← readMark '-' cs)
  let (hour, cs) ← readNumber 2 (← readSeparator cs)
  let (minute, cs) ← readNumber 2 (← readMark ':' cs)
  let (second, cs) ← readNumber 2 (← readMark ':' cs)
  let (nanos, cs) ← readFraction cs
  let (offset, rest) ← readOffset (skipBlanks cs)
  if (skipBlanks rest).isEmpty then ofParts ⟨year, month, day⟩ hour minute second nanos offset
  else none

/-- Reads a text as an instant. -/
def ofText? (s : String) : Option Instant :=
  ofChars? s.toList

end PayOnce.Instant
