import PayOnce.Text.Decimal
/-!
UTF-8. Bytes are cut into characters and faults; a fault spans the longest start of a character
that the bytes at that place can be read as, or one byte.
-/

namespace PayOnce.Text.Utf8

/-- What stands at the front of some bytes. -/
inductive Front
  /-- A whole character, and the bytes after it. -/
  | char (c : Char) (rest : List UInt8)
  /-- Bytes that start no character: how many, and the bytes after them. -/
  | bad (length : Nat) (rest : List UInt8)
  /-- A character that the end of the bytes cuts off. -/
  | short
deriving Repr

/-- A byte inside a character: its six payload bits. -/
def continuation? (b : UInt8) : Option Nat :=
  if 0x80 ≤ b.toNat ∧ b.toNat ≤ 0xBF then some (b.toNat - 0x80) else none

/-- The range of second bytes after a leading byte; it rules out overlong forms and surrogates. -/
def secondRange (lead : Nat) : Nat × Nat :=
  if lead = 0xE0 then (0xA0, 0xBF)
  else if lead = 0xED then (0x80, 0x9F)
  else if lead = 0xF0 then (0x90, 0xBF)
  else if lead = 0xF4 then (0x80, 0x8F)
  else (0x80, 0xBF)

/-- Reads the last `n` bytes of a character whose first `seen` bytes gave the bits `acc`. -/
def tail (seen acc : Nat) : Nat → List UInt8 → Front
  | 0, rest => .char (Char.ofNat acc) rest
  | _ + 1, [] => .short
  | n + 1, b :: rest => match continuation? b with
    | some bits => tail (seen + 1) (64 * acc + bits) n rest
    | none => .bad seen (b :: rest)

/-- Reads a character of `n + 2` bytes after its leading byte with the payload `bits`. -/
def multi (lead bits n : Nat) : List UInt8 → Front
  | [] => .short
  | b :: rest =>
    let (low, high) := secondRange lead
    if low ≤ b.toNat ∧ b.toNat ≤ high then tail 2 (64 * bits + (b.toNat - 0x80)) n rest
    else .bad 1 (b :: rest)

/-- Reads the character that starts with the byte `b`. -/
def front (b : UInt8) (rest : List UInt8) : Front :=
  let n := b.toNat
  if n < 0x80 then .char (Char.ofNat n) rest
  else if 0xC2 ≤ n ∧ n ≤ 0xDF then multi n (n - 0xC0) 0 rest
  else if 0xE0 ≤ n ∧ n ≤ 0xEF then multi n (n - 0xE0) 1 rest
  else if 0xF0 ≤ n ∧ n ≤ 0xF4 then multi n (n - 0xF0) 2 rest
  else .bad 1 rest

/-- A place where bytes are no UTF-8: its index, and how many bytes are at fault there, or `none`
    when the bytes end inside a character. -/
structure Fault where
  index : Nat
  length : Option Nat
deriving DecidableEq, Repr

/-- The wording of a fault. -/
def Fault.message (f : Fault) : String :=
  match f.length with
  | some n =>
    "invalid utf-8 sequence of " ++ Decimal.text n ++ " bytes from index " ++ Decimal.text f.index
  | none => "incomplete utf-8 byte sequence from index " ++ Decimal.text f.index

/-- Decodes with fuel: the front of the bytes, then the rest. `index` counts the bytes read so far
    and `done` holds the characters read so far, the last one first. -/
def decodeFrom : Nat → Nat → List Char → List UInt8 → Except Fault (List Char)
  | 0, _, done, _ => .ok done.reverse
  | _ + 1, _, done, [] => .ok done.reverse
  | fuel + 1, index, done, b :: rest => match front b rest with
    | .char c after => decodeFrom fuel (index + c.utf8Size) (c :: done) after
    | .bad n _ => .error ⟨index, some n⟩
    | .short => .error ⟨index, none⟩

/-- The text of some bytes, or their first fault. Each step reads at least one byte, so the number
    of bytes is fuel enough. -/
def decode (bytes : List UInt8) : Except Fault String :=
  (decodeFrom bytes.length 0 [] bytes).map String.ofList

/-- The characters of some bytes with `none` for each fault, so that a reader can pass over a place
    that it does not need to understand. -/
def glyphsFrom : Nat → List (Option Char) → List UInt8 → List (Option Char)
  | 0, done, _ => done.reverse
  | _ + 1, done, [] => done.reverse
  | fuel + 1, done, b :: rest => match front b rest with
    | .char c after => glyphsFrom fuel (some c :: done) after
    | .bad _ after => glyphsFrom fuel (none :: done) after
    | .short => (none :: done).reverse

@[inherit_doc glyphsFrom]
def glyphs (bytes : List UInt8) : List (Option Char) :=
  glyphsFrom bytes.length [] bytes

/-- The bytes of a text. -/
def encode (s : String) : List UInt8 :=
  s.toUTF8.toList

end PayOnce.Text.Utf8
