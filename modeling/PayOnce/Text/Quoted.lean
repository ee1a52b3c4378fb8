import PayOnce.Text.Hex
import PayOnce.Text.Printable
/-!
Quoted text for messages: the text between double quotes, with the quote, the backslash and every
character that cannot be seen written as an escape.
-/

namespace PayOnce.Text.Quoted

/-- How one character is written between the quotes. -/
def escape (c : Char) : List Char :=
  if c = '"' ∨ c = '\\' then ['\\', c]
  else if c = '\n' then ['\\', 'n']
  else if c = '\r' then ['\\', 'r']
  else if c = '\t' then ['\\', 't']
  else if c = '\x00' then ['\\', '0']
  else if isPrintable c then [c]
  else ['\\', 'u', '{'] ++ Hex.digits c.toNat ++ ['}']

/-- A text in double quotes. -/
def text (s : String) : String :=
  String.ofList ('"' :: s.toList.flatMap escape ++ ['"'])

end PayOnce.Text.Quoted
