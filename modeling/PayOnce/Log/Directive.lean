import PayOnce.Log.Entry
import PayOnce.Text.Blank
import PayOnce.Text.Decimal
import PayOnce.Text.PatternReader
import PayOnce.Text.Utf8
/-!
Directives: how far down the levels of some entries are written. A directive may name a part of the
program, a stretch of work and fields of it, and says a level.
-/

namespace PayOnce

open Text

/-- A field that a stretch of work has to have, and what its value has to match, if anything. -/
structure FieldTest where
  name : String
  value : Option String
deriving DecidableEq, Repr

/-- How far down the levels are written: not beyond `limit`, where zero is for nothing at all. It is
    said of a part of the program and its parts, or of everything, and of what lies in a stretch of
    work with some name and fields, or anywhere. -/
structure Directive where
  part : Option String
  span : Option String
  fields : List FieldTest
  limit : Nat
deriving DecidableEq, Repr

/-- Skips an optional sign. -/
def skipSign : List Char → List Char
  | '+' :: cs => cs
  | '-' :: cs => cs
  | cs => cs

/-- Is a text the exponent of a number, or nothing? -/
def isExponent : List Char → Bool
  | [] => true
  | c :: cs => c.toLower == 'e' && !(skipSign cs).isEmpty && (skipSign cs).all Decimal.isDigit

/-- Is a text a number, with a fraction or an exponent or not, or a word for a number that cannot
    be written in digits? -/
def isNumeral (cs : List Char) : Bool :=
  let cs := skipSign cs
  let whole := cs.takeWhile Decimal.isDigit
  let fraction := match cs.drop whole.length with
    | '.' :: rest => some (rest.takeWhile Decimal.isDigit)
    | _ => none
  let after := cs.drop (whole.length + (fraction.map (·.length + 1)).getD 0)
  let digits := whole ++ fraction.getD []
  ["inf", "infinity", "nan"].contains (String.ofList (cs.map Char.toLower))
    || (!digits.isEmpty && isExponent after)

namespace FieldTest

/-- Does a text spell a number or a truth value? No field of the service is one. -/
def isScalar (value : String) : Bool :=
  value == "true" || value == "false" || isNumeral value.toList

/-- Reads a test: a name, and a value after an equals sign if there is one. A value that spells no
    number and no truth value has to be a pattern. -/
def ofText? (s : String) : Option FieldTest :=
  let cs := s.toList
  let name := cs.takeWhile (· != '=')
  if name.length = cs.length then some ⟨s, none⟩
  else
    let value := String.ofList ((cs.drop (name.length + 1)).takeWhile (· != '='))
    if isScalar value || (Pattern.ofText? value).isSome then
      some ⟨String.ofList name, some value⟩
    else none

/-- Is the test about this field? -/
def isAbout (t : FieldTest) (field : String × String) : Bool :=
  t.name == field.1

/-- Does a text pass the test? -/
def passes (t : FieldTest) (text : String) : Bool :=
  match t.value with
  | none => true
  | some value => !isScalar value
    && (Pattern.ofText? value).any fun p => p.accepts text.toList

end FieldTest

namespace Directive

/-- The levels by name. -/
def words : List (String × Nat) :=
  [("off", 0), ("error", 1), ("warn", 2), ("info", 3), ("debug", 4), ("trace", 5)]

/-- The level that a text says: a number up to five, or the name of a level in any case. -/
def limit? (s : String) : Option Nat :=
  match (Decimal.unsigned (Nat.pow 2 64) s.toList).toOption with
  | some n => if n ≤ 5 then some n else none
  | none => words.lookup (String.ofList (s.toList.map Char.toLower))

/-- The level of a directive that says none. -/
def lowest : Nat :=
  Level.trace.rank

/-- Where a reader of directives stands; positions are those where something starts. -/
inductive Spot
  /-- At the front. -/
  | front
  /-- In a name of a part or a level. -/
  | name
  /-- In a name of a stretch of work. -/
  | span (start : Nat)
  /-- In the test of a field. -/
  | field (start : Nat)
  /-- After the tests of fields. -/
  | fields
  /-- After the closing bracket. -/
  | afterSpan
  /-- In a level. -/
  | level (start : Nat)
deriving DecidableEq, Repr

/-- What was read so far. -/
structure Scan where
  spot : Spot := .front
  directive : Directive := ⟨none, none, [], lowest⟩

/-- The part of a text between two positions, which count bytes. -/
def slice (whole : List UInt8) (start stop : Nat) : String :=
  ((Utf8.decode ((whole.take stop).drop start)).toOption).getD ""

/-- May a character be at the front of a directive? -/
def mayStart (c : Char) : Bool :=
  isAlphanumeric c || c == '-' || c == ':' || c == '_'

/-- Adds the test of a field, which is not empty. -/
def Scan.addField (s : Scan) (text : String) : Option Directive :=
  if text.isEmpty then none
  else (FieldTest.ofText? text).map fun t =>
    { s.directive with fields := s.directive.fields ++ [t] }

/-- Looks at the character at a position. -/
def Scan.step (whole : List UInt8) (s : Scan) (i : Nat) (c : Char) : Option Scan :=
  let d := s.directive
  match s.spot with
  | .front =>
    if c = '[' then some ⟨.span (i + 1), d⟩ else if mayStart c then some ⟨.name, d⟩ else none
  | .name =>
    if c = '=' then some ⟨.level (i + 1), { d with part := some (slice whole 0 i) }⟩
    else if c = '[' then some ⟨.span (i + 1), { d with part := some (slice whole 0 i) }⟩
    else some s
  | .span start =>
    let name := slice whole start i
    if c = ']' then some ⟨.afterSpan, { d with span := some name }⟩
    else if c = '\x7b' then
      some ⟨.field (i + 1), { d with span := if name.isEmpty then none else some name }⟩
    else some s
  | .field start =>
    if c = '\x7d' then (s.addField (slice whole start i)).map fun d => ⟨.fields, d⟩ else some s
  | .fields => if c = ']' then some ⟨.afterSpan, d⟩ else none
  | .afterSpan => if c = '=' then some ⟨.level (i + 1), d⟩ else none
  | .level _ => some s

/-- Looks at characters one after the other, from a position on. -/
def Scan.run (whole : List UInt8) : Nat → Scan → List Char → Option Scan
  | _, s, [] => some s
  | i, s, c :: cs => do Scan.run whole (i + c.utf8Size) (← s.step whole i c) cs

/-- Ends a directive. A name alone is a level if it is the name of one, and else a part; a level
    that is left out is the lowest. -/
def Scan.finish (whole : List UInt8) (s : Scan) : Option Directive :=
  match s.spot with
  | .name =>
    let name := slice whole 0 whole.length
    match limit? name with
    | some limit => some { s.directive with limit }
    | none => some { s.directive with part := some name }
  | .level start =>
    let word := slice whole start whole.length
    if word.isEmpty then some s.directive
    else (limit? word).map fun limit => { s.directive with limit }
  | .afterSpan => some s.directive
  | _ => none

/-- Reads a directive. Blanks at both ends are passed over, but what stands at a position counted
    from there on is taken from the text with its blanks. -/
def ofText? (s : String) : Option Directive :=
  let whole := Utf8.encode s
  (Scan.run whole 0 {} (trimChars s.toList)).bind (·.finish whole)

/-- Is it about something inside some stretches of work only? -/
def isDynamic (d : Directive) : Bool :=
  d.span.isSome || !d.fields.isEmpty

/-- Can it be told from an entry alone whether it is about it? -/
def isStatic (d : Directive) : Bool :=
  d.span.isNone && d.fields.all (·.value.isNone)

/-- Is it about a part of the program? The start of a part's name names the part. -/
def isAboutPart (d : Directive) (part : String) : Bool :=
  d.part.all fun p => p.toList.isPrefixOf part.toList

/-- Is it about a stretch of work, whatever the values of the fields? -/
def isAboutSpan (d : Directive) (s : LogSpan) : Bool :=
  d.isAboutPart s.part && d.span.all (· == s.name)
    && d.fields.all fun t => s.fields.any t.isAbout

/-- Do the values of the fields match as well? -/
def matchesSpan (d : Directive) (s : LogSpan) : Bool :=
  d.fields.all fun t => s.fields.any fun field => t.isAbout field && t.passes field.2

/-- Are two directives about the same? -/
def sameScope (d e : Directive) : Bool :=
  d.part == e.part && d.span == e.span && d.fields == e.fields

/-- The names of the fields that it is about. -/
def fieldNames (d : Directive) : List String :=
  d.fields.map (·.name)

end Directive

end PayOnce
