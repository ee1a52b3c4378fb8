import PayOnce.Text.Alphanumeric
import PayOnce.Text.Hex
import PayOnce.Text.Pattern
/-!
Reading patterns: characters for themselves, a dot for any character of a line, sets in brackets,
groups, alternatives, repetitions, the marks for both ends of the text, and escapes.
-/

namespace PayOnce.Text.Pattern

/-- The digits. -/
def digitRanges : List (Nat × Nat) :=
  [(48, 57)]

/-- The blanks. -/
def blankRanges : List (Nat × Nat) :=
  [(9, 13), (0x20, 0x20), (0x85, 0x85), (0xA0, 0xA0), (0x1680, 0x1680), (0x2000, 0x200A),
   (0x2028, 0x2029), (0x202F, 0x202F), (0x205F, 0x205F), (0x3000, 0x3000)]

/-- The characters of words. -/
def wordRanges : List (Nat × Nat) :=
  (95, 95) :: alphanumericRanges

/-- The set that a letter after a backslash stands for. -/
def classOf? : Char → Option CharSet
  | 'd' => some ⟨digitRanges, false⟩
  | 'D' => some ⟨digitRanges, true⟩
  | 's' => some ⟨blankRanges, false⟩
  | 'S' => some ⟨blankRanges, true⟩
  | 'w' => some ⟨wordRanges, false⟩
  | 'W' => some ⟨wordRanges, true⟩
  | _ => none

/-- The character that a character after a backslash stands for. -/
def escaped? : Char → Option Char
  | 'n' => some '\n'
  | 'r' => some '\r'
  | 't' => some '\t'
  | 'a' => some '\x07'
  | 'f' => some '\x0c'
  | 'v' => some '\x0b'
  | c =>
    if 0x20 ≤ c.toNat ∧ c.toNat < 0x7F ∧ !c.isAlphanum ∧ c ≠ '<' ∧ c ≠ '>' then some c else none

/-- Reads one character of a set, which a backslash may mark. -/
def readSetChar : List Char → Option (Char × List Char)
  | '\\' :: 'x' :: a :: b :: cs => do
    return (Char.ofNat (16 * (← Hex.digit? a) + (← Hex.digit? b)), cs)
  | '\\' :: c :: cs => (escaped? c).map fun c => (c, cs)
  | ['\\'] => none
  | '[' :: _ => none
  | '&' :: '&' :: _ => none
  | '-' :: '-' :: _ => none
  | '~' :: '~' :: _ => none
  | c :: cs => some (c, cs)
  | [] => none

/-- Reads the ranges of a set up to the closing bracket, which stands for itself at the front. -/
def readRanges : Nat → Bool → List (Nat × Nat) → List Char →
    Option (List (Nat × Nat) × List Char)
  | 0, _, _, _ => none
  | _ + 1, _, _, [] => none
  | fuel + 1, front, found, ']' :: cs =>
    if front then readRanges fuel false (found ++ [(93, 93)]) cs else some (found, cs)
  | fuel + 1, _, found, cs =>
    let inClass : Option (CharSet × List Char) := match cs with
      | '\\' :: c :: rest => (classOf? c).map fun s => (s, rest)
      | _ => none
    match inClass with
    | some (s, rest) =>
      if s.negated then none else readRanges fuel false (found ++ s.ranges) rest
    | none => match readSetChar cs with
      | none => none
      | some (low, '-' :: rest) =>
        -- A hyphen before the closing bracket stands for itself.
        if rest.head? = some ']' then readRanges fuel false (found ++ [(low.toNat, low.toNat)])
          ('-' :: rest)
        else match readSetChar rest with
          | some (high, rest) =>
            if low.toNat ≤ high.toNat then
              readRanges fuel false (found ++ [(low.toNat, high.toNat)]) rest
            else none
          | none => none
      | some (c, rest) => readRanges fuel false (found ++ [(c.toNat, c.toNat)]) rest

/-- Reads a set after its opening bracket. -/
def readSet (cs : List Char) : Option (CharSet × List Char) :=
  let (negated, cs) := match cs with
    | '^' :: rest => (true, rest)
    | _ => (false, cs)
  (readRanges (cs.length + 1) true [] cs).map fun (ranges, rest) => (⟨ranges, negated⟩, rest)

/-- An open group, or the whole: the alternatives that are complete, and the parts of the next one,
    the last ones first. -/
structure Group where
  alternatives : List Pattern := []
  parts : List Pattern := []

namespace Group

/-- Adds a part. -/
def add (g : Group) (p : Pattern) : Group :=
  { g with parts := p :: g.parts }

/-- The parts in a row. -/
def row (g : Group) : Pattern :=
  match g.parts with
  | [] => empty
  | p :: ps => ps.foldl (fun after before => before.seq after) p

/-- Starts the next alternative. -/
def split (g : Group) : Group :=
  ⟨g.row :: g.alternatives, []⟩

/-- The pattern of the group. -/
def close (g : Group) : Pattern :=
  g.alternatives.foldl (fun later p => p.alt later) g.row

/-- Repeats the last part; there has to be one. -/
def repeatLast (g : Group) (f : Pattern → Pattern) : Option Group :=
  match g.parts with
  | [] => none
  | p :: ps => some { g with parts := f p :: ps }

end Group

/-- The pattern that a mark makes of the one before it. -/
def repetition (mark : Char) (eager : Bool) (p : Pattern) : Pattern :=
  if mark = '*' then p.star eager
  else if mark = '+' then p.seq (p.star eager)
  else p.option eager

/-- Reads a pattern, given the open groups, the innermost one first. Every step takes a character,
    so the length of the text is fuel enough. -/
def readFrom : Nat → Group → List Group → List Char → Option Pattern
  | 0, _, _, _ => none
  | _ + 1, g, [], [] => some g.close
  | _ + 1, _, _ :: _, [] => none
  | fuel + 1, g, outer, c :: cs =>
    match c, cs with
    | '(', '?' :: ':' :: cs => readFrom fuel {} (g :: outer) cs
    | '(', '?' :: _ => none
    | '(', cs => readFrom fuel {} (g :: outer) cs
    | ')', cs => match outer with
      | [] => none
      | o :: outer => readFrom fuel (o.add g.close) outer cs
    | '|', cs => readFrom fuel g.split outer cs
    | '.', cs => readFrom fuel (g.add (one .inLine)) outer cs
    | '^', cs => readFrom fuel (g.add start) outer cs
    | '$', cs => readFrom fuel (g.add finish) outer cs
    | '[', cs => match readSet cs with
      | some (s, cs) => readFrom fuel (g.add (one s)) outer cs
      | none => none
    | '{', _ => none
    | '\\', 'A' :: cs => readFrom fuel (g.add start) outer cs
    | '\\', 'z' :: cs => readFrom fuel (g.add finish) outer cs
    | '\\', d :: cs => match classOf? d with
      | some s => readFrom fuel (g.add (one s)) outer cs
      | none => match readSetChar (c :: d :: cs) with
        | some (d, cs) => readFrom fuel (g.add (one (.single d))) outer cs
        | none => none
    | '\\', [] => none
    | mark, cs =>
      if mark = '*' ∨ mark = '+' ∨ mark = '?' then
        let (eager, cs) := match cs with
          | '?' :: rest => (false, rest)
          | _ => (true, cs)
        match g.repeatLast (repetition mark eager) with
        | some g => readFrom fuel g outer cs
        | none => none
      else readFrom fuel (g.add (one (.single mark))) outer cs

/-- Reads a pattern. -/
def ofText? (s : String) : Option Pattern :=
  readFrom (s.length + 1) {} [] s.toList

end PayOnce.Text.Pattern
