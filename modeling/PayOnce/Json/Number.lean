import PayOnce.Json.Glyph
import PayOnce.Json.Double
/-!
JSON numbers. A number is whole if it is spelled without fraction and exponent and fits into 64
bits, unsigned, or signed when it is negative; otherwise it is a binary number. Digits that do not
fit into 64 bits unsigned are counted, but do not add to the significand.
-/

namespace PayOnce.Json

/-- A number as its spelling determines it. -/
inductive Number
  /-- A whole number from `-2 ^ 63` to `2 ^ 64 - 1`. -/
  | int (n : Int)
  /-- Any other number, with its sign. -/
  | double (negative : Bool) (x : Double)
deriving DecidableEq, Repr

namespace Number

/-- The significands of a number are below this bound. -/
def significandBound : Nat := Nat.pow 2 64

/-- A spelled binary number; `none` when it is too large. -/
def ofParts (negative : Bool) (significand : Nat) (exponent : Int) : Option Number :=
  (Double.ofDecimal? significand exponent).map (double negative)

/-- A whole number below the bound with its sign; the negative zero and negative numbers beyond 64
    bits are binary. -/
def ofSignificand (negative : Bool) (significand : Nat) : Option Number :=
  if negative then
    if 0 < significand ∧ significand ≤ Nat.pow 2 63 then some (int (-(significand : Int)))
    else ofParts true significand 0
  else some (int significand)

/-- Skips digits. -/
def skipDigits (cs : Glyphs) : Glyphs :=
  cs.dropWhile fun c => (digitOf c).isSome

/-- Reads the rest of an exponent whose digits so far denote `acc`. -/
def readExponentDigits (negative : Bool) (significand : Nat) (start : Int) (down : Bool) :
    Nat → Glyphs → Option (Number × Glyphs)
  | acc, [] => finish acc []
  | acc, c :: cs => match digitOf c with
    | none => finish acc (c :: cs)
    | some d =>
      if 10 * acc + d < Nat.pow 2 31 then
        readExponentDigits negative significand start down (10 * acc + d) cs
      -- No exponent of this size brings a number back into the range; zero stays zero.
      else if significand ≠ 0 ∧ !down then none
      else (ofParts negative 0 0).map fun n => (n, skipDigits cs)
where
  finish (acc : Nat) (rest : Glyphs) : Option (Number × Glyphs) :=
    (ofParts negative significand (if down then start - acc else start + acc)).map fun n =>
      (n, rest)

/-- Reads an exponent after its letter: a sign if there is one, and at least one digit. -/
def readExponent (negative : Bool) (significand : Nat) (start : Int) :
    Glyphs → Option (Number × Glyphs)
  | some '+' :: cs => firstDigit false cs
  | some '-' :: cs => firstDigit true cs
  | cs => firstDigit false cs
where
  firstDigit (down : Bool) : Glyphs → Option (Number × Glyphs)
    | [] => none
    | c :: cs => match digitOf c with
      | some d => readExponentDigits negative significand start down d cs
      | none => none

/-- Reads an exponent if one follows, and ends the number. -/
def readTail (negative : Bool) (significand : Nat) (exponent : Int) :
    Glyphs → Option (Number × Glyphs)
  | some 'e' :: cs | some 'E' :: cs => readExponent negative significand exponent cs
  | cs => (ofParts negative significand exponent).map fun n => (n, cs)

/-- Reads the digits of a fraction after the first of them. -/
def readFractionDigits (negative : Bool) : Nat → Int → Glyphs → Option (Number × Glyphs)
  | significand, exponent, [] => readTail negative significand exponent []
  | significand, exponent, c :: cs => match digitOf c with
    | none => readTail negative significand exponent (c :: cs)
    | some d =>
      if 10 * significand + d < significandBound then
        readFractionDigits negative (10 * significand + d) (exponent - 1) cs
      -- The significand is full, and digits behind the point need not be counted.
      else readTail negative significand exponent (skipDigits cs)

/-- Reads a fraction after its point: at least one digit. -/
def readFraction (negative : Bool) (significand : Nat) (exponent : Int) :
    Glyphs → Option (Number × Glyphs)
  | [] => none
  | c :: cs =>
    if (digitOf c).isSome then readFractionDigits negative significand exponent (c :: cs)
    else none

/-- Reads on after whole digits: a fraction, an exponent, or the end of the number. -/
def readRest (negative : Bool) (significand : Nat) : Glyphs → Option (Number × Glyphs)
  | some '.' :: cs => readFraction negative significand 0 cs
  | some 'e' :: cs | some 'E' :: cs => readExponent negative significand 0 cs
  | cs => (ofSignificand negative significand).map fun n => (n, cs)

/-- Reads whole digits beyond the significand, counting them. -/
def readLong (negative : Bool) (significand : Nat) : Int → Glyphs → Option (Number × Glyphs)
  | exponent, some '.' :: cs => readFraction negative significand exponent cs
  | exponent, [] => readTail negative significand exponent []
  | exponent, c :: cs =>
    if (digitOf c).isSome then readLong negative significand (exponent + 1) cs
    else readTail negative significand exponent (c :: cs)

/-- Reads whole digits into the significand. -/
def readWhole (negative : Bool) : Nat → Glyphs → Option (Number × Glyphs)
  | significand, [] => readRest negative significand []
  | significand, c :: cs => match digitOf c with
    | none => readRest negative significand (c :: cs)
    | some d =>
      if 10 * significand + d < significandBound then readWhole negative (10 * significand + d) cs
      else readLong negative significand 0 (c :: cs)

/-- Reads a number after its sign; a leading zero stands alone before a fraction or exponent. -/
def readUnsigned (negative : Bool) : Glyphs → Option (Number × Glyphs)
  | [] => none
  | c :: cs => match digitOf c with
    | none => none
    | some 0 =>
      if (cs.head?.bind digitOf).isSome then none else readRest negative 0 cs
    | some d => readWhole negative d cs

/-- Reads a number. -/
def read : Glyphs → Option (Number × Glyphs)
  | some '-' :: cs => readUnsigned true cs
  | cs => readUnsigned false cs

/-- Skips at least one digit. -/
def skipSomeDigits : Glyphs → Option Glyphs
  | [] => none
  | c :: cs => if (digitOf c).isSome then some (skipDigits cs) else none

/-- Skips an exponent if one follows. -/
def skipExponent : Glyphs → Option Glyphs
  | some 'e' :: some '+' :: cs | some 'e' :: some '-' :: cs
  | some 'E' :: some '+' :: cs | some 'E' :: some '-' :: cs => skipSomeDigits cs
  | some 'e' :: cs | some 'E' :: cs => skipSomeDigits cs
  | cs => some cs

/-- Skips a number of any size. -/
def skip (cs : Glyphs) : Option Glyphs := do
  let cs := match cs with
    | some '-' :: rest => rest
    | _ => cs
  let rest ← match cs with
    | some '0' :: rest => if (rest.head?.bind digitOf).isSome then none else some rest
    | _ => skipSomeDigits cs
  match rest with
  | some '.' :: rest => skipExponent (← skipSomeDigits rest)
  | _ => skipExponent rest

end Number

end PayOnce.Json
