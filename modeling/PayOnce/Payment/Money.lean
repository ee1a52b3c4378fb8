import PayOnce.Failure
import PayOnce.Json.Value
import PayOnce.Text.Blank
/-!
Amounts of money in the minor unit of a currency.
-/

namespace PayOnce

open Text

/-- An amount in minor units and the code of its currency. -/
structure Money where
  amount : Int
  currency : String
deriving DecidableEq, Repr

namespace Money

/-- A currency code in its normal form, without blanks around it and in upper case. -/
def normalCurrency (code : String) : String :=
  upperAscii (trim code)

/-- Three ASCII letters. -/
def isCurrencyCode (code : String) : Bool :=
  code.toList.length == 3 && code.toList.all Char.isAlpha

/-- A positive amount in a currency of three letters. -/
def make (amount : Int) (currency : String) : Except DomainError Money :=
  if amount ≤ 0 then .error (.validation (.amount amount))
  else if isCurrencyCode (normalCurrency currency) then .ok ⟨amount, normalCurrency currency⟩
  else .error (.validation (.currency (normalCurrency currency)))

/-- The amount and the currency with a space between them. -/
def text (m : Money) : String :=
  Decimal.intText m.amount ++ " " ++ m.currency

/-- The JSON form of an amount. -/
def toJson (m : Money) : Json.Value :=
  .object [("amount", .int m.amount), ("currency", .text m.currency)]

end Money

end PayOnce
