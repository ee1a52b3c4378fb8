import PayOnce.Text.Hex
/-!
Universally unique identifiers: 128 bits and their text. They are printed with hyphens in lower
case and read in four spellings, with digits of either case.
-/

namespace PayOnce

open Text

/-- An identifier of 128 bits. -/
structure Uuid where
  bits : BitVec 128
deriving DecidableEq, Repr

namespace Uuid

/-- The identifier of zeros. -/
def nil : Uuid := ⟨0⟩

/-- The thirty-two digits of an identifier, the highest first. -/
def simple (u : Uuid) : List Char :=
  Hex.fixed 32 u.bits.toNat

/-- Thirty-two digits cut into groups of 8, 4, 4, 4 and 12 by hyphens. -/
def hyphenate (ds : List Char) : List Char :=
  ds.take 8 ++ '-' :: (ds.drop 8).take 4 ++ '-' :: (ds.drop 12).take 4
    ++ '-' :: (ds.drop 16).take 4 ++ '-' :: ds.drop 20

/-- The characters of an identifier, with hyphens. -/
def chars (u : Uuid) : List Char :=
  hyphenate u.simple

/-- The text of an identifier, with hyphens and in lower case. -/
def text (u : Uuid) : String :=
  String.ofList u.chars

/-- Reads thirty-two digits. -/
def ofSimple? (cs : List Char) : Option Uuid :=
  if cs.length = 32 then (Hex.value? 0 cs).map fun n => ⟨BitVec.ofNat 128 n⟩ else none

/-- Reads groups of 8, 4, 4, 4 and 12 digits with hyphens between them. -/
def ofHyphenated? (cs : List Char) : Option Uuid :=
  if cs.length = 36 ∧ cs[8]? = some '-' ∧ cs[13]? = some '-' ∧ cs[18]? = some '-'
      ∧ cs[23]? = some '-' then
    ofSimple? (cs.take 8 ++ (cs.drop 9).take 4 ++ (cs.drop 14).take 4 ++ (cs.drop 19).take 4
      ++ cs.drop 24)
  else none

/-- The mark of an identifier that is spelled as a name. -/
def urn : List Char :=
  "urn:uuid:".toList

/-- Reads an identifier: thirty-two digits, the hyphenated form, that form in braces, or that form
    after `urn:uuid:`, which may be in either case. -/
def ofChars? (cs : List Char) : Option Uuid :=
  if cs.length = 32 then ofSimple? cs
  else if cs.length = 36 then ofHyphenated? cs
  else if cs.length = 38 ∧ cs.head? = some '{' ∧ cs.getLast? = some '}' then
    ofHyphenated? ((cs.drop 1).take 36)
  else if cs.length = 45 ∧ (cs.take 9).map Char.toLower = urn then ofHyphenated? (cs.drop 9)
  else none

/-- Reads a text as an identifier. -/
def ofText? (s : String) : Option Uuid :=
  ofChars? s.toList

/-- An identifier's characters without the braces or the mark around them. -/
def bare (cs : List Char) : List Char :=
  if cs.head? = some '{' ∧ cs.getLast? = some '}' then (cs.drop 1).dropLast
  else if urn.isPrefixOf cs then cs.drop urn.length
  else cs

/-- What there is to say about a text that is no identifier: its first character that no identifier
    has, or that its length or its groups are wrong. -/
def complaint (s : String) : String :=
  match (bare s.toList).find? fun c => c != '-' && (Hex.digit? c).isNone with
  | some c => "invalid character " ++ String.singleton c
  | none => "invalid length or groups"

end Uuid

end PayOnce
