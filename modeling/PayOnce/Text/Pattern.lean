/-!
Patterns of text, and whether a text matches one. A match starts at the front of the text. The
first way in the order of preference that comes to an end counts, and the text matches if that is
the end of the text.
-/

namespace PayOnce.Text

/-- A set of characters: those in ranges of code points, ends included, or all but those. -/
structure CharSet where
  ranges : List (Nat × Nat)
  negated : Bool
deriving DecidableEq, Repr

namespace CharSet

/-- Is a character in the set? -/
def contains (s : CharSet) (c : Char) : Bool :=
  s.ranges.any (fun (low, high) => low ≤ c.toNat && c.toNat ≤ high) != s.negated

/-- The set of one character. -/
def single (c : Char) : CharSet :=
  ⟨[(c.toNat, c.toNat)], false⟩

/-- The characters that do not end a line. -/
def inLine : CharSet :=
  ⟨[(10, 10)], true⟩

end CharSet

/-- A pattern. What may be left out or repeated is preferred, if `eager`, and avoided otherwise. -/
inductive Pattern
  /-- Nothing. -/
  | empty
  /-- One character of a set. -/
  | one (s : CharSet)
  /-- The place before the first character. -/
  | start
  /-- The place after the last character. -/
  | finish
  /-- One pattern after the other. -/
  | seq (p q : Pattern)
  /-- One of two patterns, preferably the first. -/
  | alt (p q : Pattern)
  /-- A pattern or nothing. -/
  | option (p : Pattern) (eager : Bool)
  /-- A pattern any number of times. -/
  | star (p : Pattern) (eager : Bool)
deriving DecidableEq, Repr

namespace Pattern

/-- The first step of a way through a pattern. -/
inductive Head
  /-- The way ends here. -/
  | done
  /-- It takes a character, and goes on with what is left of the pattern. -/
  | take (s : CharSet) (rest : Pattern)
deriving DecidableEq, Repr

/-- One pattern after what is left of another. -/
def andThen (rest p : Pattern) : Pattern :=
  if rest = empty then p else rest.seq p

/-- The first steps of all ways through a pattern, the preferred ones first. -/
def heads (atStart atEnd : Bool) : Pattern → List Head
  | empty => [.done]
  | one s => [.take s empty]
  | start => if atStart then [.done] else []
  | finish => if atEnd then [.done] else []
  | seq p q => (p.heads atStart atEnd).flatMap fun
    -- The first pattern may match nothing, so a way may start in the second one.
    | .done => q.heads atStart atEnd
    | .take s rest => [.take s (rest.andThen q)]
  | alt p q => p.heads atStart atEnd ++ q.heads atStart atEnd
  | option p eager =>
    let ways := p.heads atStart atEnd
    if eager then ways ++ [.done] else .done :: ways
  | star p eager =>
    let ways := (p.heads atStart atEnd).map fun
      | .done => .done
      | .take s rest => .take s (rest.andThen (star p eager))
    if eager then ways ++ [.done] else .done :: ways

/-- What is left of a way after a character, if it takes it. -/
def Head.after (c : Char) : Head → Option Pattern
  | .done => none
  | .take s rest => if s.contains c then some rest else none

/-- What is left of the open ways after a character, the preferred ones first. Whatever is less
    preferred than a way that ends before the character is given up. -/
def step (atStart : Bool) (ways : List Pattern) (c : Char) : List Pattern :=
  let ahead := (ways.flatMap (·.heads atStart false)).takeWhile (· != .done)
  (ahead.filterMap (·.after c)).eraseDups

/-- Does one of the open ways end at the end of the text? -/
def ends (atStart : Bool) (ways : List Pattern) : Bool :=
  (ways.flatMap (·.heads atStart true)).contains .done

/-- Does a text match? -/
def accepts (p : Pattern) : List Char → Bool
  | [] => ends true [p]
  | c :: cs => ends false (cs.foldl (step false) (step true [p] c))

end Pattern

end PayOnce.Text
