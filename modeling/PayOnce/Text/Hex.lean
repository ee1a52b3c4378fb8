/-!
Hexadecimal digits. Digits are written in lower case and read in either case.
-/

namespace PayOnce.Text.Hex

/-- The digit of a number below sixteen, in lower case. -/
def digitChar (n : Nat) : Char :=
  Char.ofNat (if n < 10 then 48 + n else 87 + n)

/-- The value of a hexadecimal digit, in either case. -/
def digit? (c : Char) : Option Nat :=
  let n := c.toNat
  if 48 ≤ n ∧ n ≤ 57 then some (n - 48)
  else if 97 ≤ n ∧ n ≤ 102 then some (n - 87)
  else if 65 ≤ n ∧ n ≤ 70 then some (n - 55)
  else none

/-- The lowest `width` hexadecimal digits of a number, the highest of them first. -/
def fixed : (width n : Nat) → List Char
  | 0, _ => []
  | width + 1, n => fixed width (n / 16) ++ [digitChar (n % 16)]

/-- The hexadecimal digits of a number, without leading zeros. -/
def digits (n : Nat) : List Char :=
  if n < 16 then [digitChar n] else digits (n / 16) ++ [digitChar (n % 16)]

/-- What a row of hexadecimal digits denotes when it follows digits that denote `acc`. -/
def value? (acc : Nat) : List Char → Option Nat
  | [] => some acc
  | c :: cs => match digit? c with
    | some d => value? (16 * acc + d) cs
    | none => none

end PayOnce.Text.Hex
