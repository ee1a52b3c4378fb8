import PayOnce.Text.Decimal
/-!
What a JSON reader reads: the characters of a text, with a mark at each place where the bytes of
the text are no UTF-8, and the blanks that JSON allows between tokens.
-/

namespace PayOnce.Json

/-- A character, or `none` where the bytes are no character. -/
abbrev Glyphs := List (Option Char)

/-- The glyphs of a text. -/
def glyphsOf (s : String) : Glyphs :=
  s.toList.map some

/-- The four blanks of JSON. -/
def isGap : Option Char → Bool
  | some c => c == ' ' || c == '\t' || c == '\n' || c == '\r'
  | none => false

/-- What is left after leading blanks. -/
def skipGaps (cs : Glyphs) : Glyphs :=
  cs.dropWhile isGap

/-- The value of a digit. -/
def digitOf : Option Char → Option Nat
  | some c => Text.Decimal.digit? c
  | none => none

/-- Reads the given characters. -/
def readWord : List Char → Glyphs → Option Glyphs
  | [], cs => some cs
  | w :: ws, some c :: cs => if c = w then readWord ws cs else none
  | _ :: _, _ => none

end PayOnce.Json
