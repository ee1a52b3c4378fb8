import PayOnce.Text.Decimal
/-!
Binary numbers of 53 bits, as exact pairs: the nearest one to a fraction, and the shortest decimal
text that reads back as the same number.
-/

namespace PayOnce.Json

open Text

/-- The number `mantissa * 2 ^ exponent`; the mantissa is below `2 ^ 53` and the exponent is from
    -1074 to 971. -/
structure Double where
  mantissa : Nat
  exponent : Int
deriving DecidableEq, Repr

namespace Double

/-- `a * 2 ^ e` over `b` as a fraction of natural numbers. -/
def scaled (a b : Nat) (e : Int) : Nat × Nat :=
  if e ≥ 0 then (a * Nat.pow 2 e.toNat, b) else (a, b * Nat.pow 2 (-e).toNat)

/-- The whole number nearest to `a / b`, the even one of two. -/
def nearest (a b : Nat) : Nat :=
  let q := a / b
  let r := a % b
  if 2 * r > b ∨ (2 * r = b ∧ q % 2 = 1) then q + 1 else q

/-- The number nearest to `a / b`, a tie going to the even mantissa; `none` beyond the largest. -/
def ofRatio? (a b : Nat) : Option Double :=
  if a = 0 then some ⟨0, -1074⟩
  else
    let guess : Int := (Nat.log2 a : Int) - Nat.log2 b - 52
    -- The lengths of `a` and `b` tell the exponent up to one.
    let (n, d) := scaled a b (-guess)
    let exponent := max (if n / d < Nat.pow 2 52 then guess - 1 else guess) (-1074)
    let (n, d) := scaled a b (-exponent)
    let m := nearest n d
    -- Rounding up may have made the mantissa one bit longer.
    let (m, exponent) := if m = Nat.pow 2 53 then (Nat.pow 2 52, exponent + 1) else (m, exponent)
    if exponent > 971 then none else some ⟨m, exponent⟩

/-- The number as a fraction. -/
def ratio (x : Double) : Nat × Nat :=
  scaled x.mantissa 1 x.exponent

/-- The number times another, rounded. -/
def times? (x y : Double) : Option Double :=
  let (a, b) := x.ratio
  let (c, d) := y.ratio
  ofRatio? (a * c) (b * d)

/-- The number over another that is not zero, rounded. -/
def over? (x y : Double) : Option Double :=
  let (a, b) := x.ratio
  let (c, d) := y.ratio
  ofRatio? (a * d) (b * c)

/-- A power of ten, rounded. -/
def tenTo? (n : Nat) : Option Double :=
  ofRatio? (Nat.pow 10 n) 1

/-- `significand * 10 ^ exponent`, computed in steps that each round: the significand first, then a
    division by `10 ^ 308` for as long as the exponent is below -308, then one multiplication or
    division. Two such divisions bring any significand to zero, so the fuel never runs out. `none`
    when the number is too large. -/
def ofDecimalFrom : Nat → Double → Int → Option Double
  | 0, x, _ => some x
  | fuel + 1, x, exponent =>
    if exponent.natAbs ≤ 308 then do
      let power ← tenTo? exponent.natAbs
      if exponent ≥ 0 then x.times? power else x.over? power
    else if x.mantissa = 0 then some x
    else if exponent ≥ 0 then none
    else do ofDecimalFrom fuel (← x.over? (← tenTo? 308)) (exponent + 308)

@[inherit_doc ofDecimalFrom]
def ofDecimal? (significand : Nat) (exponent : Int) : Option Double := do
  ofDecimalFrom 4 (← ofRatio? significand 1) exponent

/-- `a / b` in units of `10 ^ k`, as a fraction. -/
def inUnits (a b : Nat) (k : Int) : Nat × Nat :=
  if k ≥ 0 then (a, b * Nat.pow 10 k.toNat) else (a * Nat.pow 10 (-k).toNat, b)

/-- The exponent of the leading decimal digit of `a / b`, where `a` is not zero. -/
def leading (a b : Nat) : Int :=
  let guess : Int := (Decimal.digits a).length - (Decimal.digits b).length
  let (n, d) := inUnits a b guess
  if n < d then guess - 1 else guess

/-- Does `n * 10 ^ k` read back as the number? -/
def readsBack (x : Double) (n : Nat) (k : Int) : Bool :=
  let (c, d) := inUnits n 1 (-k)
  (ofRatio? c d) == some x

/-- The multiple of `10 ^ k` that reads back as the number, the nearer one if there are two. -/
def onGrid (x : Double) (k : Int) : Option Nat :=
  let (a, b) := x.ratio
  let (n, d) := inUnits a b k
  let below := n / d
  let above := below + 1
  match readsBack x below k, readsBack x above k with
  | true, true => if 2 * (n % d) > d ∨ (2 * (n % d) = d ∧ below % 2 = 1) then above else below
  | true, false => some below
  | false, true => some above
  | false, false => none

/-- The shortest digits, trying counts of digits in ascending order, and the exponent of their unit.
    Seventeen digits always read back. -/
def shortestFrom (x : Double) (lead : Int) : (more : Nat) → Nat → Nat × Int
  | 0, _ => (0, 0)
  | more + 1, count =>
    let k := lead - count + 1
    match onGrid x k with
    | some n => (n, k)
    | none => shortestFrom x lead more (count + 1)

/-- The shortest decimal digits that read back as a number other than zero. -/
def shortest (x : Double) : Nat × Int :=
  let (a, b) := x.ratio
  shortestFrom x (leading a b) 17 1

/-- An exponent, always with its sign. -/
def exponentText (e : Int) : String :=
  (if e < 0 then "e-" else "e+") ++ Decimal.text e.natAbs

/-- The text of a number: positional from `10 ^ -5` to below `10 ^ 16`, always with a point, and
    with an exponent outside. -/
def text (x : Double) : String :=
  if x.mantissa = 0 then "0.0"
  else
    let (n, k) := x.shortest
    let ds := (Decimal.digits n).reverse.dropWhile (· == '0') |>.reverse
    let lead : Int := (Decimal.digits n).length + k - 1
    if 0 ≤ lead ∧ lead ≤ 15 then
      let whole := lead.toNat + 1
      let front := ds.take whole ++ List.replicate (whole - ds.length) '0'
      let back := ds.drop whole
      String.ofList (front ++ '.' :: if back.isEmpty then ['0'] else back)
    else if -5 ≤ lead ∧ lead < 0 then
      "0." ++ String.ofList (List.replicate ((-lead).toNat - 1) '0' ++ ds)
    else match ds with
      | [] => "0.0"
      | [d] => String.ofList [d] ++ exponentText lead
      | d :: rest => String.ofList (d :: '.' :: rest) ++ exponentText lead

end Double

end PayOnce.Json
