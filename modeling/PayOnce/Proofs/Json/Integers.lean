import PayOnce.Proofs.Json.Members
/-!
Whole numbers are read from their digits alone. A point, an exponent, a needless zero or a negative
zero makes a number one that is not whole, and so do digits beyond 64 bits.
-/

namespace PayOnce.Json

open Text Value

namespace Number

/-- What was read, if anything, is no whole number. -/
structure Broken (r : Option (Number × Glyphs)) : Prop where
  ne_int : ∀ n rest, r ≠ some (.int n, rest)

theorem broken_none : Broken none :=
  ⟨nofun⟩

theorem ofParts_ne_int (negative : Bool) (significand : Nat) (exponent n : Int) :
    ofParts negative significand exponent ≠ some (.int n) := by
  unfold ofParts
  cases Double.ofDecimal? significand exponent <;> simp

theorem broken_ofParts (negative : Bool) (significand : Nat) (exponent : Int) (rest : Glyphs) :
    Broken ((ofParts negative significand exponent).map fun n => (n, rest)) := by
  refine ⟨fun n rest' h => ?_⟩
  obtain ⟨x, hx, heq⟩ := Option.map_eq_some_iff.1 h
  cases heq
  exact ofParts_ne_int _ _ _ _ hx

theorem broken_readExponentDigits (negative : Bool) (significand : Nat) (start : Int) (down : Bool)
    (acc : Nat) (cs : Glyphs) :
    Broken (readExponentDigits negative significand start down acc cs) := by
  induction cs generalizing acc with
  | nil => exact broken_ofParts ..
  | cons c cs ih =>
    unfold readExponentDigits
    split
    · exact broken_ofParts ..
    split
    · exact ih _
    split
    · exact broken_none
    · exact broken_ofParts ..

theorem broken_firstDigit (negative : Bool) (significand : Nat) (start : Int) (down : Bool)
    (cs : Glyphs) : Broken (readExponent.firstDigit negative significand start down cs) := by
  unfold readExponent.firstDigit
  split
  · exact broken_none
  split
  · exact broken_readExponentDigits ..
  · exact broken_none

theorem broken_readExponent (negative : Bool) (significand : Nat) (start : Int) (cs : Glyphs) :
    Broken (readExponent negative significand start cs) := by
  unfold readExponent
  split <;> exact broken_firstDigit ..

theorem broken_readTail (negative : Bool) (significand : Nat) (exponent : Int) (cs : Glyphs) :
    Broken (readTail negative significand exponent cs) := by
  unfold readTail
  split
  · exact broken_readExponent ..
  · exact broken_readExponent ..
  · exact broken_ofParts ..

theorem broken_readFractionDigits (negative : Bool) (significand : Nat) (exponent : Int)
    (cs : Glyphs) : Broken (readFractionDigits negative significand exponent cs) := by
  induction cs generalizing significand exponent with
  | nil => exact broken_readTail ..
  | cons c cs ih =>
    unfold readFractionDigits
    split
    · exact broken_readTail ..
    split
    · exact ih _ _
    · exact broken_readTail ..

theorem broken_readFraction (negative : Bool) (significand : Nat) (exponent : Int) (cs : Glyphs) :
    Broken (readFraction negative significand exponent cs) := by
  unfold readFraction
  split
  · exact broken_none
  split
  · exact broken_readFractionDigits ..
  · exact broken_none

/-- Digits beyond the significand make a number binary. -/
theorem broken_readLong (negative : Bool) (significand : Nat) (exponent : Int) (cs : Glyphs) :
    Broken (readLong negative significand exponent cs) := by
  induction cs generalizing exponent with
  | nil => exact broken_readTail ..
  | cons c cs ih =>
    unfold readLong
    split
    · exact broken_readFraction ..
    · exact broken_readTail ..
    · next heq =>
      cases heq
      split
      · exact ih _
      · exact broken_readTail ..

/-- A whole number ends behind its digits. -/
theorem readRest_int {negative : Bool} {significand : Nat} {cs rest : Glyphs} {n : Int}
    (h : readRest negative significand cs = some (.int n, rest))
    (hcs : ∀ c ∈ cs.head?, digitOf c = none) :
    rest = cs ∧ Ends cs ∧ ofSignificand negative significand = some (.int n) := by
  unfold readRest at h
  split at h
  · exact absurd h ((broken_readFraction ..).ne_int _ _)
  · exact absurd h ((broken_readExponent ..).ne_int _ _)
  · exact absurd h ((broken_readExponent ..).ne_int _ _)
  · next hpoint he hE =>
    obtain ⟨x, hx, heq⟩ := Option.map_eq_some_iff.1 h
    cases heq
    refine ⟨rfl, ?_, hx⟩
    intro c hc
    obtain ⟨cs, rfl⟩ := List.head?_eq_some_iff.1 hc
    refine ⟨hcs c hc, ?_, ?_, ?_⟩
    · rintro rfl
      exact hpoint cs rfl
    · rintro rfl
      exact he cs rfl
    · rintro rfl
      exact hE cs rfl

theorem exists_of_digitOf {c : Option Char} {d : Nat} (h : digitOf c = some d) :
    ∃ e, c = some e ∧ Decimal.digit? e = some d := by
  cases c with
  | none => cases h
  | some e => exact ⟨e, rfl, h⟩

/-- So a row of digits with a value is read, and nothing more. -/
theorem readWhole_int {negative : Bool} {acc : Nat} {cs rest : Glyphs} {n : Int}
    (h : readWhole negative acc cs = some (.int n, rest)) :
    ∃ ds m, cs = ds.map some ++ rest ∧ Ends rest ∧ Decimal.value? acc ds = some m ∧
      ofSignificand negative m = some (.int n) := by
  -- Each digit is counted as long as the number fits; once it does not, the number is binary.
  induction cs generalizing acc with
  | nil =>
    obtain ⟨rfl, hends, hm⟩ := readRest_int h nofun
    exact ⟨[], acc, rfl, hends, rfl, hm⟩
  | cons c cs ih =>
    simp only [readWhole] at h
    split at h
    · next hnone =>
      obtain ⟨rfl, hends, hm⟩ := readRest_int h (by rintro _ ⟨⟩; exact hnone)
      exact ⟨[], acc, rfl, hends, rfl, hm⟩
    · next d hd =>
      split at h
      · obtain ⟨c, rfl, hc⟩ := exists_of_digitOf hd
        obtain ⟨ds, m, rfl, hends, hvalue, hm⟩ := ih h
        exact ⟨c :: ds, m, rfl, hends, by simp only [Decimal.value?, hc, hvalue], hm⟩
      · exact absurd h ((broken_readLong ..).ne_int _ _)

theorem readUnsigned_int {negative : Bool} {cs rest : Glyphs} {n : Int}
    (h : readUnsigned negative cs = some (.int n, rest)) :
    ∃ m, cs = (Decimal.digits m).map some ++ rest ∧ Ends rest ∧
      ofSignificand negative m = some (.int n) := by
  cases cs with
  | nil => cases h
  | cons c cs =>
    simp only [readUnsigned] at h
    split at h
    · cases h
    · next hzero =>
      split at h
      · cases h
      · next hnone =>
        obtain ⟨rfl, hends, hm⟩ := readRest_int h fun c hc => by
          rwa [Option.isSome_iff_ne_none, not_not, hc, Option.bind_some] at hnone
        obtain ⟨c, rfl, hc⟩ := exists_of_digitOf hzero
        refine ⟨0, ?_, hends, hm⟩
        rw [(Decimal.eq_digitChar_of_digit? hc).2, Decimal.digits, if_pos (by decide)]
        rfl
    · next d hzero hd =>
      obtain ⟨ds, m, rfl, hends, hvalue, hm⟩ := readWhole_int h
      obtain ⟨c, rfl, hc⟩ := exists_of_digitOf hd
      obtain ⟨hlt, rfl⟩ := Decimal.eq_digitChar_of_digit? hc
      have hpos : 0 < d := Nat.pos_of_ne_zero fun heq => hzero heq
      refine ⟨m, ?_, hends, hm⟩
      rw [← Decimal.digits_of_value? hpos hvalue, Decimal.digits, if_pos hlt]
      rfl

/-- A whole number is read from its digits, and from nothing else. -/
theorem read_int {cs rest : Glyphs} {n : Int} (h : read cs = some (.int n, rest)) :
    cs = (Decimal.intChars n).map some ++ rest ∧ Ends rest := by
  unfold read at h
  split at h
  · obtain ⟨m, rfl, hends, hm⟩ := readUnsigned_int h
    refine ⟨?_, hends⟩
    rw [ofSignificand, if_pos rfl] at hm
    split at hm
    · cases hm
      rw [Decimal.intChars, if_pos (by omega), Int.natAbs_neg, Int.natAbs_natCast]
      rfl
    · exact absurd hm (ofParts_ne_int _ _ _ _)
  · obtain ⟨m, rfl, hends, hm⟩ := readUnsigned_int h
    refine ⟨?_, hends⟩
    cases hm
    rw [Decimal.intChars, if_neg (by omega), Int.natAbs_natCast]

theorem isDigit_digits (n : Nat) : Digits (Decimal.digits n) :=
  ⟨Decimal.radix.digits_ne_nil n, fun _ => Decimal.isDigit_of_mem_digits⟩

theorem whole_digits (n : Nat) : Whole (Decimal.digits n) := by
  obtain ⟨c, d, cs, hdigits, hd, -, hzero⟩ := Decimal.exists_digits_eq_cons n
  have hall := isDigit_digits n
  rw [hdigits] at hall ⊢
  by_cases hc : c = '0'
  · subst hc
    cases hd
    rw [hzero rfl]
    exact .zero
  · exact .digits hc hall

/-- A whole number is spelled as a number. -/
theorem numeral_intChars (n : Int) : Numeral (Decimal.intChars n) := by
  have hwhole := whole_digits n.natAbs
  have hnumeral {sign : List Char} (hsign : Sign sign) :
      Numeral (sign ++ Decimal.digits n.natAbs) := by
    simpa using Numeral.mk hsign hwhole .none .none
  unfold Decimal.intChars
  split
  · exact hnumeral .minus
  · exact hnumeral .plus

end Number

theorem readInt64_gap (g : Gap) (cs : Glyphs) : readInt64 (g.glyphs ++ cs) = readInt64 cs := by
  unfold readInt64 misfitAt
  rw [g.skipGaps_append]

theorem readInt64_eq_ok {cs rest : Glyphs} {n : Int} (h : readInt64 cs = .ok (n, rest)) :
    Number.read (skipGaps cs) = some (.int n, rest) ∧ inInt64 n = true := by
  unfold readInt64 at h
  split at h
  · next hread =>
    split at h
    · next hn =>
      cases h
      exact ⟨hread, hn⟩
    · cases h
  · cases h

/-- A value is a number, or it starts as no number does. -/
theorem Spelt.numeral_or {v : List Char} (h : Spelt v) :
    Numeral v ∨ ∃ c cs, v = c :: cs ∧ (c.toNat < 45 ∨ 57 < c.toNat) := by
  cases h with
  | number h => exact .inl h
  | null | yes | no | text | list | object => exact .inr ⟨_, _, rfl, by decide⟩

/-- A value is this whole number of 64 bits in digits, without a needless zero, a point or an
    exponent. -/
def Counts (v : List Char) (n : Int) : Prop :=
  v = Decimal.intChars n ∧ inInt64 n = true

theorem understands_readInt64 : Understands readInt64 Counts := by
  intro v hv g cs hcs n rest
  have hends := Number.ends_of_delimited hcs
  constructor
  · intro h
    obtain ⟨hread, hn⟩ := readInt64_eq_ok h
    rw [g.skipGaps_append, hv.skipGaps] at hread
    obtain ⟨htext, hrest⟩ := Number.read_int hread
    have hnumeral : Numeral v := by
      obtain hnumeral | ⟨c, ds, rfl, hc⟩ := hv.numeral_or
      · exact hnumeral
      obtain ⟨d, es, hdigits, -, hne⟩ := exists_intChars_eq_cons n
      rw [hdigits] at htext
      exact absurd (Option.some.inj (List.cons.inj htext).1).symm (hne c hc)
    -- A number can be skipped in one way only.
    have hskip := hnumeral.skip hends
    rw [htext, (Number.numeral_intChars n).skip hrest, Option.some.injEq] at hskip
    subst hskip
    have hdigits :=
      List.map_injective_iff.2 (Option.some_injective _) (List.append_cancel_right htext)
    exact ⟨⟨hdigits, hn⟩, rfl⟩
  · rintro ⟨⟨rfl, hn⟩, rfl⟩
    rw [readInt64_gap]
    exact readInt64_intChars hn hends

end PayOnce.Json

