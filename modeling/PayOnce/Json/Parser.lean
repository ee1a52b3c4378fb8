import PayOnce.Json.Record
import PayOnce.Json.Value
/-!
Reading any JSON text as a value. A name that an object has twice keeps the last value; a text with
too many brackets inside each other is refused, and so is a number that is not whole.
-/

namespace PayOnce.Json.Value

/-- Takes a word off the front of a text, for a value. -/
def readConstant (rest : String) (v : Value) : Reader Value := fun cs =>
  match readWord rest.toList cs with
  | some cs => .ok (v, cs)
  | none => .error .malformed

/-- Reads a value without brackets. -/
def readScalar : Reader Value := fun cs =>
  match skipGaps cs with
  | some 'n' :: rest => readConstant "ull" null rest
  | some 't' :: rest => readConstant "rue" (bool true) rest
  | some 'f' :: rest => readConstant "alse" (bool false) rest
  | some '"' :: rest => match readString .plain [] rest with
    | some (s, rest) => .ok (text s, rest)
    | none => .error .malformed
  | front => match Number.read front with
    | some (.int n, rest) => .ok (int n, rest)
    | _ => .error .malformed

/-- Reads parts with commas between them up to the closing bracket; each part adds to what the
    parts before it have made. Each of them takes a character, so the length of the text is fuel
    enough. -/
def readParts {σ : Type} (close : Char) (part : σ → Reader σ) : Nat → Bool → σ → Reader σ
  | 0, _, _, _ => .error .malformed
  | fuel + 1, first, made, cs =>
    let next (rest : Glyphs) : Except Fault (σ × Glyphs) :=
      match part made rest with
      | .ok (made, rest) => readParts close part fuel false made rest
      | .error fault => .error fault
    match skipGaps cs with
    | some c :: rest =>
      if c = close then .ok (made, rest)
      else if first then next (some c :: rest)
      else if c = ',' then match skipGaps rest with
        -- A comma promises another part.
        | some d :: rest => if d = close then .error .malformed else next (some d :: rest)
        | _ => .error .malformed
      else .error .malformed
    | _ => .error .malformed

/-- Reads one more item of a list. -/
def readItem (read : Reader Value) (items : List Value) : Reader (List Value) := fun cs =>
  match read cs with
  | .ok (v, rest) => .ok (items ++ [v], rest)
  | .error fault => .error fault

/-- The members of an object with one more, which takes the place of a member of its name. -/
def put (name : String) (v : Value) : List (String × Value) → List (String × Value)
  | [] => [(name, v)]
  | (k, w) :: ms => if k = name then (name, v) :: ms else (k, w) :: put name v ms

/-- Reads one more member of an object. -/
def readEntry (read : Reader Value) (members : List (String × Value)) :
    Reader (List (String × Value)) := fun cs =>
  match skipGaps cs with
  | some '"' :: rest => match readString .plain [] rest with
    | some (name, rest) => match readColon rest with
      | some rest => match read rest with
        | .ok (v, rest) => .ok (put name v members, rest)
        | .error fault => .error fault
      | none => .error .malformed
    | none => .error .malformed
  | _ => .error .malformed

/-- Reads a value with at most so many brackets inside each other. -/
def readWithin : Nat → Reader Value
  | 0 => readScalar
  | depth + 1 => fun cs => match skipGaps cs with
    | some '[' :: rest =>
      match readParts ']' (readItem (readWithin depth)) (rest.length + 1) true [] rest with
      | .ok (items, rest) => .ok (list items, rest)
      | .error fault => .error fault
    | some '{' :: rest =>
      match readParts '}' (readEntry (readWithin depth)) (rest.length + 1) true [] rest with
      | .ok (members, rest) => .ok (object members, rest)
      | .error fault => .error fault
    | _ => readScalar cs

/-- How many brackets may stand inside each other. -/
def depthLimit : Nat := 127

/-- The value that a whole text spells. -/
def parse : Glyphs → Except Fault Value :=
  readAll (readWithin depthLimit)

end PayOnce.Json.Value
