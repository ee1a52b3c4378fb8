import PayOnce.Proofs.Json.Grammar
/-!
What is taken off a text as a word, a string or a number is spelled as one. So the readers that use
a string or skip a number accept nothing beyond the grammar.
-/

namespace PayOnce.Json

open Text Value

/-! ## Blanks, words and strings -/

theorem exists_gap (t : List Char) :
    ∃ (g : Gap) (u : List Char), t = g.chars ++ u ∧ skipGaps (t.map some) = u.map some := by
  refine ⟨⟨t.takeWhile fun c => isGap (some c), ?_⟩, t.dropWhile fun c => isGap (some c),
    List.takeWhile_append_dropWhile.symm, ?_⟩
  · intro c hc
    exact List.mem_takeWhile_imp (p := fun c => isGap (some c)) hc
  · rw [skipGaps, List.dropWhile_map]
    rfl

theorem exists_of_map_some_eq_cons {t : List Char} {c : Char} {cs : Glyphs}
    (h : t.map some = some c :: cs) : ∃ u, t = c :: u ∧ cs = u.map some := by
  obtain ⟨d, u, rfl, hd, rfl⟩ := List.map_eq_cons_iff.1 h
  cases hd
  exact ⟨u, rfl, rfl⟩

theorem readWord_sound {w t : List Char} {rest : Glyphs}
    (h : readWord w (t.map some) = some rest) : ∃ u, t = w ++ u ∧ rest = u.map some := by
  induction w generalizing t with
  | nil =>
    cases h
    exact ⟨t, rfl, rfl⟩
  | cons c w ih =>
    cases t with
    | nil => cases h
    | cons d t =>
      simp only [List.map_cons, readWord] at h
      split at h
      · next heq =>
        obtain ⟨u, rfl, hrest⟩ := ih h
        exact ⟨u, by rw [heq]; rfl, hrest⟩
      · cases h

/-- Digits of an escape are as many as are left. -/
theorem skipString_hex_sound {left acc : Nat} {high : Option Nat} {t : List Char} {rest : Glyphs}
    (h : skipString (.hex (left + 1) acc high) (t.map some) = some rest) :
    ∃ ds u, t = ds ++ u ∧ ds.length = left + 1 ∧ (∀ d ∈ ds, (Hex.digit? d).isSome = true) ∧
      skipString .plain (u.map some) = some rest := by
  induction left generalizing t with
  | zero =>
    cases t with
    | nil => cases h
    | cons c t =>
      simp only [List.map_cons, skipString] at h
      split at h
      · cases h
      · next hc => exact ⟨[c], t, rfl, rfl, by simpa [Option.isSome_iff_ne_none] using hc, h⟩
  | succ left ih =>
    cases t with
    | nil => cases h
    | cons c t =>
      simp only [List.map_cons, skipString] at h
      split at h
      · cases h
      · next hc =>
        rw [if_pos (by omega)] at h
        obtain ⟨ds, u, rfl, hlength, hds, hrest⟩ := ih h
        refine ⟨c :: ds, u, rfl, by simp [hlength], List.forall_mem_cons.2 ⟨?_, hds⟩, hrest⟩
        simpa [Option.isSome_iff_ne_none] using hc

theorem exists_value?_of_digits (acc : Nat) {ds : List Char}
    (h : ∀ d ∈ ds, (Hex.digit? d).isSome = true) : ∃ n, Hex.value? acc ds = some n := by
  induction ds generalizing acc with
  | nil => exact ⟨acc, rfl⟩
  | cons c ds ih =>
    obtain ⟨hc, hds⟩ := List.forall_mem_cons.1 h
    obtain ⟨d, hd⟩ := Option.isSome_iff_exists.1 hc
    obtain ⟨n, hn⟩ := ih (16 * acc + d) hds
    exact ⟨n, by simp only [Hex.value?, hd, hn]⟩

/-- A string that is skipped is a row of pieces and a quote. -/
theorem skipString_sound (t : List Char) {rest : Glyphs} :
    skipString .plain (t.map some) = some rest →
      ∃ (ps : List Piece) (u : List Char), t = ps.flatMap Piece.chars ++ '"' :: u ∧
        rest = u.map some := by
  -- By induction on the length, since an escape takes more than one character.
  induction hn : t.length using Nat.strong_induction_on generalizing t with
  | _ n ih =>
  intro h
  subst hn
  cases t with
  | nil => cases h
  | cons c t =>
    simp only [List.map_cons, skipString] at h
    split at h
    · next hquote =>
      cases h
      exact ⟨[], t, by rw [hquote]; rfl, rfl⟩
    next hquote =>
    split at h
    · next hslash =>
      cases t with
      | nil => cases h
      | cons d t =>
        simp only [List.map_cons, skipString] at h
        split at h
        · next hu =>
          obtain ⟨ds, u, rfl, hlength, hds, h⟩ := skipString_hex_sound h
          obtain ⟨n, hn⟩ := exists_value?_of_digits 0 hds
          have hless : u.length < (c :: d :: (ds ++ u)).length := by
            simp only [List.length_cons, List.length_append]
            omega
          obtain ⟨ps, u', rfl, hrest⟩ := ih _ hless u rfl h
          exact ⟨.unit ds n ⟨hlength, hn⟩ :: ps, u', by simp [Piece.chars, hslash, hu], hrest⟩
        next hu =>
        split at h
        · next hletter =>
          obtain ⟨e, he⟩ := Option.isSome_iff_exists.1 hletter
          have hless : t.length < (c :: d :: t).length := by
            simp only [List.length_cons]
            omega
          obtain ⟨ps, u, rfl, hrest⟩ := ih _ hless t rfl h
          exact ⟨.letter d e he :: ps, u, by simp [Piece.chars, hslash], hrest⟩
        · cases h
    next hslash =>
    split at h
    · cases h
    · next hcontrol =>
      obtain ⟨ps, u, rfl, hrest⟩ := ih _ (by simp) t rfl h
      exact ⟨.plain c ⟨hquote, hslash, Nat.le_of_not_lt hcontrol⟩ :: ps, u, by simp [Piece.chars],
        hrest⟩

/-- Where a reader stands that does not look for pairs of surrogates. -/
def Spot.alone : Spot → Spot
  | .plain => .plain
  | .slash => .slash
  | .hex left acc _ => .hex left acc none
  | .half _ => .plain
  | .halfSlash _ => .slash

theorem skipString_hex (left acc acc' : Nat) (high high' : Option Nat) (cs : Glyphs) :
    skipString (.hex left acc high) cs = skipString (.hex left acc' high') cs := by
  induction cs generalizing left with
  | nil => rfl
  | cons c cs ih =>
    cases c with
    | none => rfl
    | some c => simp only [skipString, ih]

/-- A string that can be used can be skipped. -/
theorem skipString_of_readString {spot : Spot} {done : List Char} {cs rest : Glyphs} {s : String}
    (h : readString spot done cs = some (s, rest)) : skipString spot.alone cs = some rest := by
  -- By induction on the text: in each branch that the reader takes, skipping goes the same way.
  induction cs generalizing spot done with
  | nil => cases spot <;> cases h
  | cons c cs ih =>
    cases c with
    | none => cases spot <;> cases h
    | some c =>
      cases spot with
      | plain =>
        simp only [readString, Spot.alone, skipString] at h ⊢
        split at h
        · next hquote =>
          cases h
          rw [if_pos hquote]
        next hquote =>
        rw [if_neg hquote]
        split at h
        · next hslash =>
          rw [if_pos hslash]
          exact ih h
        next hslash =>
        rw [if_neg hslash]
        split at h
        · cases h
        · next hcontrol =>
          rw [if_neg hcontrol]
          exact ih h
      | slash =>
        simp only [readString, Spot.alone, skipString] at h ⊢
        split at h
        · next hu =>
          rw [if_pos hu]
          exact ih h
        next hu =>
        rw [if_neg hu]
        split at h
        · next d hd =>
          rw [hd, Option.isSome_some, if_pos rfl]
          exact ih h
        · cases h
      | hex left acc high =>
        simp only [readString, Spot.alone, skipString] at h ⊢
        split at h
        · cases h
        next d hd =>
        rw [hd, Option.isNone_some, if_neg Bool.false_ne_true]
        split at h
        · next hleft =>
          rw [if_pos hleft, skipString_hex _ _ (16 * acc + d) _ none]
          exact ih h
        next hleft =>
        rw [if_neg hleft]
        split at h
        · exact ih h
        · exact ih h
        · cases h
      | half high =>
        simp only [readString, Spot.alone, skipString] at h ⊢
        split at h
        · next hslash =>
          subst hslash
          exact ih h
        · cases h
      | halfSlash high =>
        simp only [readString, Spot.alone, skipString] at h ⊢
        split at h
        · next hu =>
          rw [if_pos hu]
          exact ih h
        · cases h

/-- A string that is used is a row of pieces and a quote. -/
theorem readString_sound {t : List Char} {rest : Glyphs} {s : String}
    (h : readString .plain [] (t.map some) = some (s, rest)) :
    ∃ (ps : List Piece) (u : List Char), t = ps.flatMap Piece.chars ++ '"' :: u ∧
      rest = u.map some :=
  skipString_sound t (skipString_of_readString h)

/-! ## Numbers -/

namespace Number

theorem skipDigits_sound (t : List Char) :
    ∃ ds u, t = ds ++ u ∧ (∀ d ∈ ds, Decimal.isDigit d = true) ∧
      skipDigits (t.map some) = u.map some := by
  refine ⟨t.takeWhile Decimal.isDigit, t.dropWhile Decimal.isDigit,
    List.takeWhile_append_dropWhile.symm, fun c hc => List.mem_takeWhile_imp hc, ?_⟩
  rw [skipDigits, List.dropWhile_map]
  rfl

theorem skipSomeDigits_sound {t : List Char} {rest : Glyphs}
    (h : skipSomeDigits (t.map some) = some rest) :
    ∃ ds u, t = ds ++ u ∧ Digits ds ∧ rest = u.map some := by
  cases t with
  | nil => cases h
  | cons c t =>
    simp only [List.map_cons, skipSomeDigits] at h
    split at h
    · next hc =>
      cases h
      obtain ⟨ds, u, rfl, hds, hskip⟩ := skipDigits_sound t
      exact ⟨c :: ds, u, rfl, ⟨List.cons_ne_nil _ _, List.forall_mem_cons.2 ⟨hc, hds⟩⟩, hskip⟩
    · cases h

theorem skipExponent_sound {t : List Char} {rest : Glyphs}
    (h : skipExponent (t.map some) = some rest) :
    ∃ e u, t = e ++ u ∧ Exponent e ∧ rest = u.map some := by
  -- A letter stands there, with a sign or without one, before at least one digit.
  have hsigned {e c : Char} {cs : Glyphs} (he : e = 'e' ∨ e = 'E') (hc : c = '+' ∨ c = '-')
      (ht : t.map some = some e :: some c :: cs) (h : skipSomeDigits cs = some rest) :
      ∃ e u, t = e ++ u ∧ Exponent e ∧ rest = u.map some := by
    obtain ⟨t, rfl, htail⟩ := exists_of_map_some_eq_cons ht
    obtain ⟨t, rfl, rfl⟩ := exists_of_map_some_eq_cons htail.symm
    obtain ⟨ds, u, rfl, hds, hrest⟩ := skipSomeDigits_sound h
    have hsign : [c] = [] ∨ [c] = ['+'] ∨ [c] = ['-'] := by simpa using hc
    exact ⟨e :: [c] ++ ds, u, by simp, .digits he hsign hds, hrest⟩
  have hunsigned {e : Char} {cs : Glyphs} (he : e = 'e' ∨ e = 'E')
      (ht : t.map some = some e :: cs) (h : skipSomeDigits cs = some rest) :
      ∃ e u, t = e ++ u ∧ Exponent e ∧ rest = u.map some := by
    obtain ⟨t, rfl, rfl⟩ := exists_of_map_some_eq_cons ht
    obtain ⟨ds, u, rfl, hds, hrest⟩ := skipSomeDigits_sound h
    exact ⟨e :: [] ++ ds, u, by simp, .digits he (.inl rfl) hds, hrest⟩
  unfold skipExponent at h
  split at h
  · next ht => exact hsigned (.inl rfl) (.inl rfl) ht h
  · next ht => exact hsigned (.inl rfl) (.inr rfl) ht h
  · next ht => exact hsigned (.inr rfl) (.inl rfl) ht h
  · next ht => exact hsigned (.inr rfl) (.inr rfl) ht h
  · next ht => exact hunsigned (.inl rfl) ht h
  · next ht => exact hunsigned (.inr rfl) ht h
  · cases h
    exact ⟨[], t, rfl, .none, rfl⟩

theorem skipPart_sound {t : List Char} {rest : Glyphs} (h : skipPart (t.map some) = some rest) :
    ∃ fraction e u, t = fraction ++ e ++ u ∧ Fraction fraction ∧ Exponent e ∧
      rest = u.map some := by
  unfold skipPart at h
  split at h
  · next ht =>
    obtain ⟨t, rfl, rfl⟩ := exists_of_map_some_eq_cons ht
    obtain ⟨cs, hdigits, h⟩ := Option.bind_eq_some_iff.1 h
    obtain ⟨ds, t, rfl, hds, rfl⟩ := skipSomeDigits_sound hdigits
    obtain ⟨e, u, rfl, he, hrest⟩ := skipExponent_sound h
    exact ⟨'.' :: ds, e, u, by simp, .digits hds, he, hrest⟩
  · obtain ⟨e, u, rfl, he, hrest⟩ := skipExponent_sound h
    exact ⟨[], e, u, rfl, .none, he, hrest⟩

/-- Skips the whole digits of a number. -/
def skipWhole (cs : Glyphs) : Option Glyphs :=
  match cs with
  | some '0' :: rest => if (rest.head?.bind digitOf).isSome then none else some rest
  | _ => skipSomeDigits cs

/-- Skips a sign if there is one. -/
def skipSign (cs : Glyphs) : Glyphs :=
  match cs with
  | some '-' :: rest => rest
  | _ => cs

theorem skip_eq (cs : Glyphs) : skip cs = (skipWhole (skipSign cs)).bind skipPart := by
  unfold skip
  simp only [Option.bind_eq_bind, Option.bind_none, Option.bind_some]
  change (match skipSign cs with
    | some '0' :: rest => if (rest.head?.bind digitOf).isSome then none else skipPart rest
    | _ => (skipSomeDigits (skipSign cs)).bind skipPart) = _
  unfold skipWhole
  split
  · split <;> rfl
  · rfl

theorem skipWhole_sound {t : List Char} {rest : Glyphs}
    (h : skipWhole (t.map some) = some rest) :
    ∃ whole u, t = whole ++ u ∧ Whole whole ∧ rest = u.map some := by
  unfold skipWhole at h
  split at h
  · next ht =>
    obtain ⟨t, rfl, rfl⟩ := exists_of_map_some_eq_cons ht
    split at h
    · cases h
    · cases h
      exact ⟨['0'], t, rfl, .zero, rfl⟩
  · next hzero =>
    obtain ⟨ds, u, rfl, hds, hrest⟩ := skipSomeDigits_sound h
    obtain ⟨d, ds, rfl⟩ := List.exists_cons_of_ne_nil hds.1
    refine ⟨d :: ds, u, rfl, .digits ?_ hds, hrest⟩
    rintro rfl
    exact hzero _ rfl

theorem skipSign_sound (t : List Char) :
    ∃ sign u, t = sign ++ u ∧ Sign sign ∧ skipSign (t.map some) = u.map some := by
  unfold skipSign
  split
  · next ht =>
    obtain ⟨t, rfl, rfl⟩ := exists_of_map_some_eq_cons ht
    exact ⟨['-'], t, rfl, .minus, rfl⟩
  · exact ⟨[], t, rfl, .plus, rfl⟩

/-- What is skipped as a number is spelled as one. -/
theorem skip_sound {t : List Char} {rest : Glyphs} (h : skip (t.map some) = some rest) :
    ∃ v u, t = v ++ u ∧ Numeral v ∧ rest = u.map some := by
  obtain ⟨sign, t, rfl, hsign, hskip⟩ := skipSign_sound t
  rw [skip_eq, hskip] at h
  obtain ⟨cs, hwhole, h⟩ := Option.bind_eq_some_iff.1 h
  obtain ⟨whole, t, rfl, hdigits, rfl⟩ := skipWhole_sound hwhole
  obtain ⟨fraction, e, u, rfl, hfraction, he, hrest⟩ := skipPart_sound h
  exact ⟨sign ++ whole ++ fraction ++ e, u, by simp, .mk hsign hdigits hfraction he, hrest⟩

end Number

end PayOnce.Json
