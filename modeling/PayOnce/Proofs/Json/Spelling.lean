import PayOnce.Json.Strings
import PayOnce.Proofs.Text.Hex
/-!
How JSON strings are spelled. Between its quotes a string is a row of pieces: characters, escapes
with a letter, and escapes with four digits, which stand for half a character if they denote a
surrogate. A string that is used is read as what its pieces spell, if they spell anything; a string
that is skipped may be any row of pieces.
-/

namespace PayOnce.Json

open Text

/-- A piece of a JSON string. -/
inductive Piece
  /-- A character that stands for itself. -/
  | plain (c : Char) (h : c ≠ '"' ∧ c ≠ '\\' ∧ 32 ≤ c.toNat)
  /-- An escape with a letter, and the character that it stands for. -/
  | letter (c d : Char) (h : letter? c = some d)
  /-- An escape with four digits, and what they denote. -/
  | unit (ds : List Char) (n : Nat) (h : ds.length = 4 ∧ Hex.value? 0 ds = some n)

/-- The characters of a piece. -/
def Piece.chars : Piece → List Char
  | plain c _ => [c]
  | letter c _ _ => ['\\', c]
  | unit ds _ _ => '\\' :: 'u' :: ds

/-- A string of pieces, with its quotes. -/
def quoted (ps : List Piece) : List Char :=
  '"' :: ps.flatMap Piece.chars ++ ['"']

/-- What pieces spell where the high half of a character may wait for its low half. -/
def spelledAfter? : Option Nat → List Piece → Option (List Char)
  | none, [] => some []
  | some _, [] => none
  | none, .plain c _ :: ps => (spelledAfter? none ps).map (c :: ·)
  | none, .letter _ d _ :: ps => (spelledAfter? none ps).map (d :: ·)
  | some _, .plain .. :: _ | some _, .letter .. :: _ => none
  | high, .unit _ n _ :: ps => match unit? n high with
    | some (.inl c) => (spelledAfter? none ps).map (c :: ·)
    | some (.inr high) => spelledAfter? (some high) ps
    | none => none

/-- The text that pieces spell, unless half a character stands alone. -/
def spelled? (ps : List Piece) : Option String :=
  (spelledAfter? none ps).map String.ofList

/-! ## Strings that are used -/

/-- The digits of an escape are read as what they denote. -/
theorem readString_digits {acc n : Nat} {ds : List Char} (hvalue : Hex.value? acc ds = some n)
    (hds : ds ≠ []) (high : Option Nat) (done : List Char) (cs : Glyphs) :
    readString (.hex ds.length acc high) done (ds.map some ++ cs) = match unit? n high with
      | some (.inl c) => readString .plain (c :: done) cs
      | some (.inr h) => readString (.half h) done cs
      | none => none := by
  induction ds generalizing acc with
  | nil => exact absurd rfl hds
  | cons c ds ih =>
    obtain ⟨d, hd, hvalue⟩ := Hex.exists_of_value?_cons hvalue
    cases ds with
    | nil =>
      cases hvalue
      simp only [List.length_singleton, List.map_singleton, List.singleton_append, readString, hd]
      rfl
    | cons c' ds =>
      rw [← ih hvalue (List.cons_ne_nil _ _)]
      simp [readString, hd]

/-- Where a reader stands behind a piece. -/
def Spot.after : Option Nat → Spot
  | none => .plain
  | some high => .half high

/-- A string is read as what its pieces spell. -/
theorem readString_after (ps : List Piece) (high : Option Nat) (done : List Char) (cs : Glyphs) :
    readString (.after high) done ((ps.flatMap Piece.chars ++ ['"']).map some ++ cs)
      = (spelledAfter? high ps).map fun s => (String.ofList (done.reverse ++ s), cs) := by
  induction ps generalizing high done with
  | nil => cases high <;> simp [Spot.after, readString, spelledAfter?]
  | cons p ps ih =>
    have hplain (c : Char) := ih none (c :: done)
    rw [List.flatMap_cons, List.append_assoc, List.map_append, List.append_assoc]
    generalize (ps.flatMap Piece.chars ++ ['"']).map some ++ cs = rest at ih hplain ⊢
    simp only [Spot.after, List.reverse_cons, List.append_assoc, List.singleton_append] at hplain
    cases p with
    | plain c h =>
      obtain ⟨hquote, hslash, hcontrol⟩ := h
      cases high with
      | none =>
        simp [Piece.chars, Spot.after, readString, spelledAfter?, hquote, hslash,
          Nat.not_lt.2 hcontrol, hplain, Function.comp_def]
      | some high => simp [Piece.chars, Spot.after, readString, spelledAfter?, hslash]
    | letter c d h =>
      have hu : c ≠ 'u' := by
        rintro rfl
        cases h
      cases high with
      | none =>
        simp [Piece.chars, Spot.after, readString, spelledAfter?, hu, h, hplain, Function.comp_def]
      | some high => simp [Piece.chars, Spot.after, readString, spelledAfter?, hu]
    | unit ds n h =>
      have hopen : readString (.after high) done ((Piece.unit ds n h).chars.map some ++ rest)
          = readString (.hex ds.length 0 high) done (ds.map some ++ rest) := by
        cases high <;> simp [Piece.chars, Spot.after, readString, h.1]
      rw [hopen, readString_digits h.2 (by rintro rfl; cases h.1), spelledAfter?]
      cases hunit : unit? n high with
      | none => rfl
      | some u =>
        cases u with
        | inl c => simp [hplain, Function.comp_def]
        | inr h => exact ih (some h) done

theorem readString_pieces (ps : List Piece) (cs : Glyphs) :
    readString .plain [] ((ps.flatMap Piece.chars ++ ['"']).map some ++ cs)
      = (spelled? ps).map fun s => (s, cs) := by
  have hread := readString_after ps none [] cs
  rw [spelled?, Option.map_map]
  exact hread

/-! ## Strings that are skipped -/

theorem skipString_digits {acc n : Nat} {ds : List Char} (hvalue : Hex.value? acc ds = some n)
    (hds : ds ≠ []) (start : Nat) (cs : Glyphs) :
    skipString (.hex ds.length start none) (ds.map some ++ cs) = skipString .plain cs := by
  induction ds generalizing acc with
  | nil => exact absurd rfl hds
  | cons c ds ih =>
    obtain ⟨d, hd, hvalue⟩ := Hex.exists_of_value?_cons hvalue
    cases ds with
    | nil => simp [skipString, hd]
    | cons c' ds =>
      rw [← ih hvalue (List.cons_ne_nil _ _)]
      simp [skipString, hd]

/-- A string is skipped whatever its pieces spell. -/
theorem skipString_pieces (ps : List Piece) (cs : Glyphs) :
    skipString .plain ((ps.flatMap Piece.chars ++ ['"']).map some ++ cs) = some cs := by
  induction ps with
  | nil => simp [skipString]
  | cons p ps ih =>
    rw [List.flatMap_cons, List.append_assoc, List.map_append, List.append_assoc]
    generalize (ps.flatMap Piece.chars ++ ['"']).map some ++ cs = rest at ih ⊢
    rw [← ih]
    cases p with
    | plain c h =>
      obtain ⟨hquote, hslash, hcontrol⟩ := h
      simp [Piece.chars, skipString, hquote, hslash, Nat.not_lt.2 hcontrol]
    | letter c d h =>
      have hu : c ≠ 'u' := by
        rintro rfl
        cases h
      simp [Piece.chars, skipString, hu, h]
    | unit ds n h =>
      have hdigits := skipString_digits h.2 (by rintro rfl; cases h.1) 0 rest
      rw [h.1] at hdigits
      simp [Piece.chars, skipString, hdigits]

end PayOnce.Json
