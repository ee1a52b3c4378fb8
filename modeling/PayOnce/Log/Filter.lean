import PayOnce.Log.Directive
/-!
Filters: which entries are written, and which of the stretches of work around them are shown. Of the
directives that can be applied to an entry alone, the most specific one counts. The others count for
what lies in the stretches of work that they are about.
-/

namespace PayOnce

open Text

/-- Directives; of two that are about the same the later one counts. -/
abbrev Filter := List Directive

namespace Filter

/-- A directive for everything. -/
def everything (limit : Nat) : Directive :=
  ⟨none, none, [], limit⟩

/-- The filter when nothing is said, or nothing that can be read. -/
def standard : Filter :=
  [everything Level.info.rank]

/-- Characters between commas. -/
def splitCommas : List Char → List (List Char)
  | [] => [[]]
  | c :: cs =>
    if c = ',' then [] :: splitCommas cs
    else match splitCommas cs with
      | [] => [[c]]
      | part :: parts => (c :: part) :: parts

/-- The filter of some directives; without any errors are written. -/
def ofDirectives : List Directive → Filter
  | [] => [everything Level.error.rank]
  | ds => ds

/-- Reads a filter, directives between commas; one that cannot be read is the standard filter. -/
def ofText (s : String) : Filter :=
  let parts := (splitCommas s.toList).filter (!·.isEmpty)
  match parts.mapM fun part => Directive.ofText? (String.ofList part) with
  | some ds => ofDirectives ds
  | none => standard

/-- No level below this one is looked at. Values are only known inside a stretch of work, so with a
    test of a value all levels are. -/
def reach (f : Filter) : Nat :=
  if f.any (·.fields.any (·.value.isSome)) then Directive.lowest
  else (f.map (·.limit)).foldl max 0

/-- Is a list of names before another one, or the same, in the order of dictionaries? -/
def namesUpTo : List String → List String → Bool
  | [], _ => true
  | _ :: _, [] => false
  | a :: as, b :: bs => a < b || (a == b && namesUpTo as bs)

/-- Is a directive at least as specific as another one? A longer name of a part counts first, then
    more fields, then the order of their names. -/
def atLeastAsSpecific (d e : Directive) : Bool :=
  let length (d : Directive) : Nat := (d.part.map (·.utf8ByteSize + 1)).getD 0
  if length d = length e then
    if d.fields.length = e.fields.length then namesUpTo e.fieldNames d.fieldNames
    else e.fields.length < d.fields.length
  else length e < length d

/-- The most specific directive, the last one of several that are about the same. -/
def mostSpecific (ds : List Directive) : Option Directive :=
  let pick : Option Directive → Directive → Option Directive
    | none, d => some d
    | some best, d => if atLeastAsSpecific d best then some d else some best
  ds.foldl pick none

/-- The limit of some directives of which the most specific one counts; nothing without any. -/
def limitOf (ds : List Directive) : Nat :=
  ((mostSpecific ds).map (·.limit)).getD 0

/-- The limit for an entry, whatever it lies in. -/
def entryLimit (f : Filter) (e : LogEntry) : Nat :=
  limitOf <| f.filter fun d => d.isStatic && d.isAboutPart e.part
    && d.fieldNames.all e.fieldNames.contains

/-- The limit for a stretch of work, whatever it lies in. -/
def spanLimit (f : Filter) (s : LogSpan) : Nat :=
  limitOf <| f.filter fun d => d.isStatic && d.isAboutPart s.part

/-- The directives that are about what lies in a stretch of work; of two that are about the same
    only the later one. -/
def insideOf : Filter → LogSpan → List Directive
  | [], _ => []
  | d :: f, s =>
    if d.isDynamic && d.isAboutSpan s && !f.any d.sameScope then d :: insideOf f s
    else insideOf f s

/-- The limit for what lies in a stretch of work. -/
def insideLimit (f : Filter) (s : LogSpan) : Nat :=
  (((f.insideOf s).filter (·.matchesSpan s)).map (·.limit)).foldl max 0

/-- Is a stretch of work looked at, given the limit for what lies around it? -/
def looksAt (f : Filter) (around : Nat) (s : LogSpan) : Bool :=
  Level.info.rank ≤ f.reach
    && (!(f.insideOf s).isEmpty || Level.info.rank ≤ around || Level.info.rank ≤ f.spanLimit s)

/-- The stretches of work that are looked at, and the limit for what lies in them. -/
def enter (f : Filter) : Nat → List LogSpan → List LogSpan × Nat
  | around, [] => ([], around)
  | around, s :: rest =>
    if f.looksAt around s then
      let (kept, inside) := f.enter (max around (f.insideLimit s)) rest
      (s :: kept, inside)
    else f.enter around rest

/-- What is left of an entry: nothing if its level is below all limits, and else the entry with the
    stretches of work that are looked at. -/
def sift (f : Filter) (e : LogEntry) : Option LogEntry :=
  let (spans, inside) := f.enter 0 e.spans
  if e.level.rank ≤ f.reach ∧ (e.level.rank ≤ inside ∨ e.level.rank ≤ f.entryLimit e) then
    some { e with spans }
  else none

/-- The entries that a filter lets pass. -/
def apply (f : Filter) (entries : List LogEntry) : List LogEntry :=
  entries.filterMap f.sift

end Filter

end PayOnce
