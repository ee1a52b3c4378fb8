import PayOnce.Json.Record
import PayOnce.Json.Value
/-!
Taking a record out of a value, as it is read from a text: an object with members in any order, of
which unknown ones are passed over, or a list of the values in the order of the fields.
-/

namespace PayOnce.Json

variable {V : Type}

/-- What a value is, where something else is wanted. -/
def Value.seen : Value → Seen
  | null => .null
  | bool b => .bool b
  | int n => .number (.int n)
  | text s => .text s
  | list _ => .list
  | object _ => .object

/-- Takes a text. -/
def takeText : Value → Except Misfit String
  | .text s => .ok s
  | v => .error (.type v.seen "a string")

/-- Takes a text for what it spells, or complains about it. -/
def takeSpelled {α : Type} (spelled : String → Option α) (complaint : String → String)
    (v : Value) : Except Misfit α :=
  match takeText v with
  | .ok s => match spelled s with
    | some a => .ok a
    | none => .error (.spelling (complaint s))
  | .error cause => .error cause

/-- Takes a whole number of 64 bits with sign. -/
def takeInt64 : Value → Except Misfit Int
  | .int n => if inInt64 n then .ok n else .error (.range n "i64")
  | v => .error (.type v.seen "i64")

/-- A field of a record: its name and what its value is taken for. -/
structure Slot (V : Type) where
  name : String
  take : Value → Except Misfit V

/-- Takes the values of members, given what was found before. -/
def takeMembers (slots : List (Slot V)) :
    Found V → List (String × Value) → Except Fault (Found V)
  | found, [] => .ok found
  | found, (name, v) :: ms => match slots.find? (·.name == name) with
    | none => takeMembers slots found ms
    | some slot =>
      if (found.get? name).isSome then .error (.misfit none (.repeated name))
      else match slot.take v with
        | .ok x => takeMembers slots ((name, x) :: found) ms
        | .error cause => .error (.misfit (some (.member name)) cause)

/-- Takes list items for the remaining fields; there may not be more of them. -/
def takeItems : List (Slot V) → Nat → Found V → List Value → Except Fault (Found V)
  | _, _, found, [] => .ok found
  | [], _, _, _ :: _ => .error .malformed
  | slot :: slots, index, found, v :: vs => match slot.take v with
    | .ok x => takeItems slots (index + 1) ((slot.name, x) :: found) vs
    | .error cause => .error (.misfit (some (.item index)) cause)

/-- Takes a record of the given fields; `shape` names it where something else stands. -/
def takeRecord (shape : String) (slots : List (Slot V)) : Value → Except Fault (Found V)
  | .object members => takeMembers slots [] members
  | .list items => takeItems slots 0 [] items
  | v => .error (.misfit none (.type v.seen shape))

end PayOnce.Json
