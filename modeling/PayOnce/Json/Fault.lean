import PayOnce.Json.Number
import PayOnce.Text.Quoted
/-!
Why a JSON text is no value of the wanted shape: it is no JSON, or a value in it does not fit.
-/

namespace PayOnce.Json

open Text

/-- What stands where something else is wanted. -/
inductive Seen
  | null
  | bool (b : Bool)
  | number (n : Number)
  | text (s : String)
  | list
  | object
deriving DecidableEq, Repr

/-- The wording of what stands there. -/
def Seen.message : Seen → String
  | .null => "null"
  | .bool b => "boolean `" ++ (if b then "true" else "false") ++ "`"
  | .number (.int n) => "integer `" ++ Decimal.intText n ++ "`"
  | .number (.double negative x) =>
    "floating point `" ++ (if negative then "-" else "") ++ x.text ++ "`"
  | .text s => "string " ++ Quoted.text s
  | .list => "sequence"
  | .object => "map"

/-- How a value does not fit. -/
inductive Misfit
  /-- A value of another type. -/
  | type (seen : Seen) (wanted : String)
  /-- A whole number outside the range of its type. -/
  | range (n : Int) (wanted : String)
  /-- A member that an object has twice. -/
  | repeated (name : String)
  /-- A text of the right type that does not spell a value. -/
  | spelling (complaint : String)
  /-- A member that has to be there is missing. -/
  | incomplete
deriving DecidableEq, Repr

/-- The wording of a misfit. -/
def Misfit.message : Misfit → String
  | .type seen wanted => "invalid type: " ++ seen.message ++ ", expected " ++ wanted
  | .range n wanted => "invalid value: integer `" ++ Decimal.intText n ++ "`, expected " ++ wanted
  | .repeated name => "duplicate field `" ++ name ++ "`"
  | .spelling complaint => complaint
  | .incomplete => "missing field"

/-- The place of a value inside a record. -/
inductive Place
  | member (name : String)
  | item (index : Nat)
deriving DecidableEq, Repr

/-- The wording of a place. -/
def Place.message : Place → String
  | .member name => name
  | .item index => "[" ++ Decimal.text index ++ "]"

/-- Why a text is not what it is read as. -/
inductive Fault
  /-- The text is no JSON, or has more items than wanted. -/
  | malformed
  /-- A value does not fit. -/
  | misfit (place : Option Place) (cause : Misfit)
deriving DecidableEq, Repr

/-- The wording of a fault. -/
def Fault.message : Fault → String
  | .malformed => "malformed text"
  | .misfit (some place) cause => place.message ++ ": " ++ cause.message
  | .misfit none cause => cause.message

/-- A reader takes a value off the front of a text, blanks before it included. -/
abbrev Reader (α : Type) := Glyphs → Except Fault (α × Glyphs)

end PayOnce.Json
