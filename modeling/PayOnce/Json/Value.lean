import PayOnce.Text.Decimal
import PayOnce.Text.Hex
/-!
JSON values with whole numbers, and their compact text: no blanks, members in order, and only
those characters escaped that a string cannot hold as they are.
-/

namespace PayOnce.Json

open Text

/-- A JSON value whose numbers are integers. -/
inductive Value
  | null
  | bool (b : Bool)
  | int (n : Int)
  | text (s : String)
  | list (items : List Value)
  | object (members : List (String × Value))
deriving Repr, Inhabited

/-- How a character is written inside a string. -/
def escape (c : Char) : List Char :=
  if c = '"' then ['\\', '"']
  else if c = '\\' then ['\\', '\\']
  else if c = '\x08' then ['\\', 'b']
  else if c = '\x0c' then ['\\', 'f']
  else if c = '\n' then ['\\', 'n']
  else if c = '\r' then ['\\', 'r']
  else if c = '\t' then ['\\', 't']
  else if c.toNat < 32 then ['\\', 'u'] ++ Hex.fixed 4 c.toNat
  else [c]

/-- A text as a JSON string. -/
def quote (s : String) : List Char :=
  '"' :: s.toList.flatMap escape ++ ['"']

namespace Value

mutual

/-- The compact text of a value. -/
def chars : Value → List Char
  | null => "null".toList
  | bool true => "true".toList
  | bool false => "false".toList
  | int n => Decimal.intChars n
  | text s => quote s
  | list items => '[' :: itemChars items ++ [']']
  | object members => '{' :: memberChars members ++ ['}']

/-- The items of a list with commas between them. -/
def itemChars : List Value → List Char
  | [] => []
  | [v] => chars v
  | v :: w :: vs => chars v ++ ',' :: itemChars (w :: vs)

/-- The members of an object with commas between them. -/
def memberChars : List (String × Value) → List Char
  | [] => []
  | [(k, v)] => quote k ++ ':' :: chars v
  | (k, v) :: m :: ms => quote k ++ ':' :: chars v ++ ',' :: memberChars (m :: ms)

end

/-- The compact text of a value. -/
def render (v : Value) : String :=
  String.ofList v.chars

/-- A text, or null for none. -/
def ofOption : Option String → Value
  | none => null
  | some s => text s

end Value

end PayOnce.Json
