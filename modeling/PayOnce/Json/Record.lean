import PayOnce.Json.Reader
/-!
Reading a record: an object whose members come in any order, with unknown members passed over, or
a list of the values in the order of the fields. Only what was found is returned; whether a field
may be missing is for the caller to say.
-/

namespace PayOnce.Json

variable {V : Type}

/-- A field of a record: its name and how its value is read. -/
structure Member (V : Type) where
  name : String
  read : Reader V

/-- The values found so far, by name. -/
abbrev Found (V : Type) := List (String × V)

/-- The value found for a name. -/
def Found.get? (found : Found V) (name : String) : Option V :=
  List.lookup name found

/-- Tells where a misfit is, unless that is known. -/
def Fault.at (place : Place) : Fault → Fault
  | .misfit none cause => .misfit (some place) cause
  | fault => fault

/-- Reads a value and tells where it was misfit. -/
def readAt (place : Place) (read : Reader V) : Reader V := fun cs =>
  match read cs with
  | .ok r => .ok r
  | .error fault => .error (fault.at place)

/-- Reads the colon after a member's name. -/
def readColon (cs : Glyphs) : Option Glyphs :=
  match skipGaps cs with
  | some ':' :: rest => some rest
  | _ => none

/-- Reads one member, given what was found before it. A repeated name is a fault before its value is
    looked at. -/
def readMember (fields : List (Member V)) (found : Found V) (cs : Glyphs) :
    Except Fault (Found V × Glyphs) :=
  match readString .plain [] cs with
  | none => .error .malformed
  | some (name, rest) => match fields.find? (·.name == name) with
    -- Nobody asks for this member, but it has to be JSON.
    | none => match (readColon rest).bind skipValue with
      | some rest => .ok (found, rest)
      | none => .error .malformed
    | some field =>
      if (found.get? name).isSome then .error (.misfit none (.repeated name))
      else match readColon rest with
        | none => .error .malformed
        | some rest => match readAt (.member name) field.read rest with
          | .ok (v, rest) => .ok ((name, v) :: found, rest)
          | .error fault => .error fault

/-- Reads members up to the closing brace. Each of them takes a character, so the length of the text
    is fuel enough. -/
def readMembers (fields : List (Member V)) : Nat → Bool → Found V → Reader (Found V)
  | 0, _, _, _ => .error .malformed
  | fuel + 1, first, found, cs =>
    let next (rest : Glyphs) : Except Fault (Found V × Glyphs) :=
      match readMember fields found rest with
      | .ok (found, rest) => readMembers fields fuel false found rest
      | .error fault => .error fault
    match first, skipGaps cs with
    | _, some '}' :: rest => .ok (found, rest)
    | true, some '"' :: rest => next rest
    | false, some ',' :: rest => match skipGaps rest with
      | some '"' :: rest => next rest
      | _ => .error .malformed
    | _, _ => .error .malformed

/-- Reads list items for the remaining fields, then the closing bracket. -/
def readItems : List (Member V) → Nat → Found V → Reader (Found V)
  | [], _, found, cs => match skipGaps cs with
    | some ']' :: rest => .ok (found, rest)
    | _ => .error .malformed
  | field :: fields, index, found, cs =>
    let item (rest : Glyphs) : Except Fault (Found V × Glyphs) :=
      match readAt (.item index) field.read rest with
      | .ok (v, rest) => readItems fields (index + 1) ((field.name, v) :: found) rest
      | .error fault => .error fault
    match index, skipGaps cs with
    | _, some ']' :: rest => .ok (found, rest)
    | 0, front => item front
    | _ + 1, some ',' :: rest => match skipGaps rest with
      -- A comma promises another item.
      | some ']' :: _ => .error .malformed
      | front => item front
    | _ + 1, _ => .error .malformed

/-- Reads a record of the given fields; `shape` names it where something else stands. -/
def readRecord (shape : String) (fields : List (Member V)) : Reader (Found V) := fun cs =>
  match skipGaps cs with
  | some '{' :: rest => readMembers fields (rest.length + 1) true [] rest
  | some '[' :: rest => readItems fields 0 [] rest
  | _ => .error (misfitAt shape cs)

end PayOnce.Json
