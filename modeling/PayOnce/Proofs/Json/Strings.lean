import PayOnce.Json.Strings
import PayOnce.Json.Value
import PayOnce.Proofs.Text.Hex
/-!
JSON strings that are written are read back: a reader inside a string takes every escape for the
character that it was written for, and stops behind the closing quote.
-/

namespace PayOnce.Json

open Text

/-- Four digits inside an escape denote a character, unless they denote half of one. -/
theorem readString_hex {n : Nat} (h : n < 0xD800) (done : List Char) (cs : Glyphs) :
    readString (.hex 4 0 none) done ((Hex.fixed 4 n).map some ++ cs)
      = readString .plain (Char.ofNat n :: done) cs := by
  have hdigit (m : Nat) : Hex.digit? (Hex.digitChar (m % 16)) = some (m % 16) :=
    Hex.digit?_digitChar (Nat.mod_lt m (by decide))
  have hvalue : 16 * (16 * (16 * (n / 16 / 16 / 16 % 16) + n / 16 / 16 % 16) + n / 16 % 16)
      + n % 16 = n := by omega
  have hunit : unit? n none = some (.inl (Char.ofNat n)) := by
    unfold unit?
    rw [if_neg (by omega), if_neg (by omega)]
  simp only [Hex.fixed, List.nil_append, List.cons_append, List.map_cons, List.map_nil, readString,
    hdigit]
  simp [hvalue, hunit]

/-- An escape is read as the character that it was written for. -/
theorem readString_escape (c : Char) (done : List Char) (cs : Glyphs) :
    readString .plain done ((escape c).map some ++ cs) = readString .plain (c :: done) cs := by
  unfold escape
  split
  · next h => subst h; rfl
  split
  · next h => subst h; rfl
  split
  · next h => subst h; rfl
  split
  · next h => subst h; rfl
  split
  · next h => subst h; rfl
  split
  · next h => subst h; rfl
  split
  · next h => subst h; rfl
  split
  -- A control character without a letter of its own is written by its number.
  · next h =>
    have hc : Char.ofNat c.toNat = c := Char.ofNat_toNat c
    rw [List.map_append, List.append_assoc]
    change readString (.hex 4 0 none) done ((Hex.fixed 4 c.toNat).map some ++ cs) = _
    rw [readString_hex (by omega), hc]
  · next hquote hslash _ _ _ _ _ hcontrol =>
    simp only [List.map_cons, List.map_nil, List.cons_append, List.nil_append, readString,
      if_neg hquote, if_neg hslash, if_neg hcontrol]

theorem readString_escapes (s : List Char) (done : List Char) (cs : Glyphs) :
    readString .plain done ((s.flatMap escape).map some ++ cs)
      = readString .plain (s.reverse ++ done) cs := by
  induction s generalizing done with
  | nil => rfl
  | cons c s ih =>
    rw [List.flatMap_cons, List.map_append, List.append_assoc, readString_escape, ih,
      List.reverse_cons, List.append_assoc, List.singleton_append]

/-- A text is read back from the rest of its JSON string after the opening quote. -/
theorem readString_quote (s : String) (cs : Glyphs) :
    readString .plain [] ((s.toList.flatMap escape ++ ['"']).map some ++ cs) = some (s, cs) := by
  rw [List.map_append, List.append_assoc, readString_escapes]
  simp [readString]

end PayOnce.Json
