import PayOnce.Json.Fault
import PayOnce.Json.Strings
/-!
Readers for single values and for values that are skipped. A reader stops at the first problem in
the order of the text.
-/

namespace PayOnce.Json

/-- What follows must be JSON. -/
def orMalformed {α : Type} : Option α → Except Fault α
  | some a => .ok a
  | none => .error .malformed

/-- Names what stands at the front in place of a `wanted` value. Words, numbers and texts are read
    to their end; a list or an object is named by its bracket. -/
def misfitAt (wanted : String) (cs : Glyphs) : Fault :=
  let cs := skipGaps cs
  let found : Option Seen := match cs with
    | some 'n' :: rest => (readWord "ull".toList rest).map fun _ => .null
    | some 't' :: rest => (readWord "rue".toList rest).map fun _ => .bool true
    | some 'f' :: rest => (readWord "alse".toList rest).map fun _ => .bool false
    | some '"' :: rest => (readString .plain [] rest).map fun (s, _) => .text s
    | some '[' :: _ => some .list
    | some '{' :: _ => some .object
    | _ => (Number.read cs).map fun (n, _) => .number n
  match found with
  | some seen => .misfit none (.type seen wanted)
  | none => .malformed

/-- Reads a text. -/
def readText : Reader String := fun cs =>
  match skipGaps cs with
  | some '"' :: rest => orMalformed (readString .plain [] rest)
  | _ => .error (misfitAt "a string" cs)

/-- Reads a text and what it spells, or complains about it. -/
def readSpelled {α : Type} (spelled : String → Option α) (complaint : String → String) :
    Reader α := fun cs => do
  let (s, rest) ← readText cs
  match spelled s with
  | some a => .ok (a, rest)
  | none => .error (.misfit none (.spelling (complaint s)))

/-- The whole numbers of 64 bits with sign. -/
def inInt64 (n : Int) : Bool :=
  -Int.pow 2 63 ≤ n && n < Int.pow 2 63

/-- Reads a whole number of 64 bits with sign. -/
def readInt64 : Reader Int := fun cs =>
  match Number.read (skipGaps cs) with
  | some (.int n, rest) =>
    if inInt64 n then .ok (n, rest) else .error (.misfit none (.range n "i64"))
  | _ => .error (misfitAt "i64" cs)

/-- A bracket that is still open. -/
inductive Bracket
  | list
  | object
deriving DecidableEq, Repr

/-- Where a reader stands that skips a value. -/
inductive Phase
  /-- Before a value. -/
  | value
  /-- After an opening bracket. -/
  | opened
  /-- After a value. -/
  | closed
deriving DecidableEq, Repr

/-- Skips a value without brackets. -/
def skipScalar : Glyphs → Option Glyphs
  | some 'n' :: rest => readWord "ull".toList rest
  | some 't' :: rest => readWord "rue".toList rest
  | some 'f' :: rest => readWord "alse".toList rest
  | some '"' :: rest => skipString .plain rest
  | cs => Number.skip cs

/-- Skips the name of a member and the colon after it. -/
def skipName (cs : Glyphs) : Option Glyphs :=
  match skipGaps cs with
  | some '"' :: rest => do
    match skipGaps (← skipString .plain rest) with
    | some ':' :: rest => some rest
    | _ => none
  | _ => none

/-- Skips a value whose open brackets are on the stack, the innermost one first. Every step but
    the one from `opened` to `value` takes a character, so twice the length of the text is fuel
    enough. -/
def skipFrom : Nat → Phase → List Bracket → Glyphs → Option Glyphs
  | 0, _, _, _ => none
  | fuel + 1, .value, stack, cs => match skipGaps cs with
    | some '[' :: rest => skipFrom fuel .opened (.list :: stack) rest
    | some '{' :: rest => skipFrom fuel .opened (.object :: stack) rest
    | front => match skipScalar front with
      | some rest => skipFrom fuel .closed stack rest
      | none => none
  | _ + 1, .opened, [], _ => none
  | fuel + 1, .opened, .list :: stack, cs => match skipGaps cs with
    | some ']' :: rest => skipFrom fuel .closed stack rest
    | front => skipFrom fuel .value (.list :: stack) front
  | fuel + 1, .opened, .object :: stack, cs => match skipGaps cs with
    | some '}' :: rest => skipFrom fuel .closed stack rest
    | front => match skipName front with
      | some rest => skipFrom fuel .value (.object :: stack) rest
      | none => none
  | _ + 1, .closed, [], cs => some cs
  | fuel + 1, .closed, bracket :: stack, cs => match bracket, skipGaps cs with
    | .list, some ',' :: rest => skipFrom fuel .value (.list :: stack) rest
    | .list, some ']' :: rest => skipFrom fuel .closed stack rest
    | .object, some ',' :: rest => match skipName rest with
      | some rest => skipFrom fuel .value (.object :: stack) rest
      | none => none
    | .object, some '}' :: rest => skipFrom fuel .closed stack rest
    | _, _ => none

/-- Skips a value of any size and depth. -/
def skipValue (cs : Glyphs) : Option Glyphs :=
  skipFrom (2 * cs.length + 2) .value [] cs

/-- Reads a whole text: one value, and nothing but blanks after it. -/
def readAll {α : Type} (read : Reader α) (cs : Glyphs) : Except Fault α := do
  let (a, rest) ← read cs
  if (skipGaps rest).isEmpty then .ok a else .error .malformed

end PayOnce.Json
