/-!
Decimal digits: writing natural numbers and integers, and reading bounded unsigned numbers.
-/

namespace PayOnce.Text.Decimal

/-- The digit of a number below ten. -/
def digitChar (n : Nat) : Char :=
  Char.ofNat (48 + n)

/-- The value of an ASCII digit. -/
def digit? (c : Char) : Option Nat :=
  if 48 ≤ c.toNat ∧ c.toNat ≤ 57 then some (c.toNat - 48) else none

/-- An ASCII digit. -/
def isDigit (c : Char) : Bool :=
  (digit? c).isSome

/-- The decimal digits of a number, without leading zeros. -/
def digits (n : Nat) : List Char :=
  if n < 10 then [digitChar n] else digits (n / 10) ++ [digitChar (n % 10)]

/-- The decimal digits of a number, filled up with zeros to a least width. -/
def padded (width n : Nat) : List Char :=
  let ds := digits n
  List.replicate (width - ds.length) '0' ++ ds

/-- A natural number in decimal. -/
def text (n : Nat) : String :=
  String.ofList (digits n)

/-- The characters of an integer in decimal, negative ones with a minus sign. -/
def intChars (i : Int) : List Char :=
  if i < 0 then '-' :: digits i.natAbs else digits i.natAbs

/-- An integer in decimal. -/
def intText (i : Int) : String :=
  String.ofList (intChars i)

/-- What a row of digits denotes when it follows digits that denote `acc`. -/
def value? (acc : Nat) : List Char → Option Nat
  | [] => some acc
  | c :: cs => match digit? c with
    | some d => value? (10 * acc + d) cs
    | none => none

/-- Why a text is no unsigned number below a bound. -/
inductive Fault
  /-- There is no digit at all. -/
  | empty
  /-- A character is not a digit. -/
  | invalidDigit
  /-- The number reaches the bound. -/
  | tooLarge
deriving DecidableEq, Repr

/-- The wording of a fault. -/
def Fault.message : Fault → String
  | .empty => "cannot parse integer from empty string"
  | .invalidDigit => "invalid digit found in string"
  | .tooLarge => "number too large to fit in target type"

/-- Reads digits from left to right as a number below `bound`. At each character a missing digit
    counts before an overflow. -/
def readBelow (bound acc : Nat) : List Char → Except Fault Nat
  | [] => .ok acc
  | c :: cs => match digit? c with
    | none => .error .invalidDigit
    | some d =>
      let next := 10 * acc + d
      if next < bound then readBelow bound next cs else .error .tooLarge

/-- Reads an unsigned number below `bound`: digits, after at most one plus sign. -/
def unsigned (bound : Nat) : List Char → Except Fault Nat
  | [] => .error .empty
  | ['+'] => .error .invalidDigit
  | '+' :: cs => readBelow bound 0 cs
  | cs => readBelow bound 0 cs

end PayOnce.Text.Decimal
