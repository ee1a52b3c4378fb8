import PayOnce.Json.Glyph
import PayOnce.Text.Hex
/-!
JSON strings. A string that is used must spell characters: its escaped surrogates come in pairs
and its bytes are UTF-8. A string that is skipped only has to end.
-/

namespace PayOnce.Json

open Text

/-- Where a reader stands inside a string. -/
inductive Spot
  /-- Between two characters. -/
  | plain
  /-- After a backslash. -/
  | slash
  /-- Inside an escape, `left` digits before its end, after digits that denote `acc`; the escape
      follows the high surrogate `high` if there is one. -/
  | hex (left acc : Nat) (high : Option Nat)
  /-- After a high surrogate, which a low one must follow. -/
  | half (high : Nat)
  /-- After a high surrogate and a backslash. -/
  | halfSlash (high : Nat)
deriving DecidableEq, Repr

/-- The character of an escape with a single letter. -/
def letter? (c : Char) : Option Char :=
  if c = '"' ∨ c = '\\' ∨ c = '/' then some c
  else if c = 'b' then some '\x08'
  else if c = 'f' then some '\x0c'
  else if c = 'n' then some '\n'
  else if c = 'r' then some '\r'
  else if c = 't' then some '\t'
  else none

/-- The character of a pair of surrogates. -/
def joinSurrogates (high low : Nat) : Char :=
  Char.ofNat ((high - 0xD800) * 0x400 + (low - 0xDC00) + 0x10000)

/-- What a finished escape of four digits amounts to: a character, or a wait for the low half. -/
def unit? (n : Nat) : Option Nat → Option (Char ⊕ Nat)
  | some high => if 0xDC00 ≤ n ∧ n ≤ 0xDFFF then some (.inl (joinSurrogates high n)) else none
  | none =>
    if 0xD800 ≤ n ∧ n ≤ 0xDBFF then some (.inr n)
    else if 0xDC00 ≤ n ∧ n ≤ 0xDFFF then none
    else some (.inl (Char.ofNat n))

/-- Reads the rest of a string that is used, up to and with its closing quote. `done` holds its
    characters so far, the last one first. -/
def readString : Spot → List Char → Glyphs → Option (String × Glyphs)
  | _, _, [] => none
  | _, _, none :: _ => none
  | .plain, done, some c :: cs =>
    if c = '"' then some (String.ofList done.reverse, cs)
    else if c = '\\' then readString .slash done cs
    else if c.toNat < 32 then none
    else readString .plain (c :: done) cs
  | .slash, done, some c :: cs =>
    if c = 'u' then readString (.hex 4 0 none) done cs
    else match letter? c with
      | some d => readString .plain (d :: done) cs
      | none => none
  | .hex left acc high, done, some c :: cs => match Hex.digit? c with
    | none => none
    | some d =>
      let n := 16 * acc + d
      if left > 1 then readString (.hex (left - 1) n high) done cs
      else match unit? n high with
        | some (.inl e) => readString .plain (e :: done) cs
        | some (.inr h) => readString (.half h) done cs
        | none => none
  | .half high, done, some c :: cs =>
    if c = '\\' then readString (.halfSlash high) done cs else none
  | .halfSlash high, done, some c :: cs =>
    if c = 'u' then readString (.hex 4 0 (some high)) done cs else none

/-- Skips the rest of a string, up to and with its closing quote. -/
def skipString : Spot → Glyphs → Option Glyphs
  | _, [] => none
  | .plain, c :: cs => match c with
    -- Bytes that are no characters are passed over.
    | none => skipString .plain cs
    | some c =>
      if c = '"' then some cs
      else if c = '\\' then skipString .slash cs
      else if c.toNat < 32 then none
      else skipString .plain cs
  | .hex left acc high, some c :: cs =>
    if (Hex.digit? c).isNone then none
    else if left > 1 then skipString (.hex (left - 1) acc high) cs
    else skipString .plain cs
  | _, some c :: cs =>
    if c = 'u' then skipString (.hex 4 0 none) cs
    else if (letter? c).isSome then skipString .plain cs
    else none
  | _, none :: _ => none

end PayOnce.Json
