/-!
White space and trimming. A character is blank when it has the Unicode property `White_Space`;
a text is blank when every character of it is.
-/

namespace PayOnce.Text

/-- The Unicode property `White_Space`: the ASCII blanks, the two Latin-1 ones, the typographic
    spaces and the line and paragraph separators. -/
def isBlankChar (c : Char) : Bool :=
  let n := c.toNat
  (9 ≤ n && n ≤ 13) || n == 0x20 || n == 0x85 || n == 0xA0 || n == 0x1680
    || (0x2000 ≤ n && n ≤ 0x200A) || n == 0x2028 || n == 0x2029 || n == 0x202F || n == 0x205F
    || n == 0x3000

/-- A text of blanks only, the empty one included. -/
def isBlank (s : String) : Bool :=
  s.toList.all isBlankChar

/-- Drops the blanks at both ends of a list of characters. -/
def trimChars (cs : List Char) : List Char :=
  ((cs.dropWhile isBlankChar).reverse.dropWhile isBlankChar).reverse

/-- Drops the blanks at both ends of a text. -/
def trim (s : String) : String :=
  String.ofList (trimChars s.toList)

/-- The upper-case form of the ASCII letters; every other character stays. -/
def upperAscii (s : String) : String :=
  String.ofList (s.toList.map Char.toUpper)

end PayOnce.Text
