import PayOnce.Proofs.Text.Decimal
import PayOnce.Text.Blank
import Mathlib.Data.List.DropRight
import Mathlib.Data.Nat.Digits.Defs
/-!
Numbers as people give them: digits, with zeros in front or without, after at most one plus sign,
and blanks around all of it. Below its bound such a number is read as it is. Digits that reach the
bound are told as a number that is too large, also where the text goes on as no number does.
-/

namespace PayOnce.Text

/-! ## What stands between blanks -/

/-- A text consists of characters that neither begin nor end with a blank, and of blanks around
    them. -/
structure Trimmed (text : String) (cs : List Char) : Prop where
  within : ∃ before after, text.toList = before ++ cs ++ after ∧
    (∀ c ∈ before, isBlankChar c = true) ∧ ∀ c ∈ after, isBlankChar c = true
  front : ∀ c ∈ cs.head?, isBlankChar c = false
  back : ∀ c ∈ cs.getLast?, isBlankChar c = false

theorem dropWhile_of_head? {p : Char → Bool} {cs : List Char} (h : ∀ c ∈ cs.head?, p c = false) :
    cs.dropWhile p = cs := by
  cases cs with
  | nil => rfl
  | cons c cs => simp [h c rfl]

theorem head?_dropWhile (p : Char → Bool) (cs : List Char) :
    ∀ c ∈ (cs.dropWhile p).head?, p c = false := by
  intro c hc
  have hfirst := List.head?_dropWhile_not p cs
  rw [Option.mem_def.1 hc] at hfirst
  simpa using hfirst

theorem Trimmed.trimChars_eq {text : String} {cs : List Char} (h : Trimmed text cs) :
    trimChars text.toList = cs := by
  obtain ⟨⟨before, after, htext, hbefore, hafter⟩, hfront, hback⟩ := h
  have hreverse : ∀ c ∈ after.reverse, isBlankChar c = true :=
    fun c hc => hafter c (List.mem_reverse.1 hc)
  rw [htext, trimChars, List.append_assoc, List.dropWhile_append_of_pos hbefore]
  cases cs with
  | nil =>
    rw [List.nil_append, List.dropWhile_eq_nil_iff.2 hafter]
    rfl
  | cons c cs =>
    have hfirst : (c :: cs ++ after).dropWhile isBlankChar = c :: cs ++ after :=
      dropWhile_of_head? (by simpa using hfront)
    have hlast : (c :: cs).reverse.dropWhile isBlankChar = (c :: cs).reverse :=
      dropWhile_of_head? (by rwa [List.head?_reverse])
    rw [hfirst, List.reverse_append, List.dropWhile_append_of_pos hreverse, hlast,
      List.reverse_reverse]

theorem trimmed_trimChars (text : String) : Trimmed text (trimChars text.toList) := by
  have hkept : text.toList.dropWhile isBlankChar =
      trimChars text.toList ++ (text.toList.dropWhile isBlankChar).rtakeWhile isBlankChar :=
    (List.rdropWhile_append_rtakeWhile ..).symm
  refine ⟨⟨text.toList.takeWhile isBlankChar,
    (text.toList.dropWhile isBlankChar).rtakeWhile isBlankChar, ?_, ?_, ?_⟩, ?_, ?_⟩
  · rw [List.append_assoc, ← hkept, List.takeWhile_append_dropWhile]
  · exact fun c hc => List.mem_takeWhile_imp hc
  · exact fun c hc => List.mem_rtakeWhile_imp hc
  · -- The first character that is kept is the first one that is no blank.
    intro c hc
    refine head?_dropWhile isBlankChar text.toList c ?_
    rw [hkept, Option.mem_def, List.head?_append, Option.mem_def.1 hc]
    rfl
  · intro c hc
    rw [trimChars, List.getLast?_reverse] at hc
    exact head?_dropWhile isBlankChar _ c hc

/-- Trimming finds what stands between the blanks. -/
theorem trimmed_iff (text : String) (cs : List Char) :
    Trimmed text cs ↔ trimChars text.toList = cs :=
  ⟨Trimmed.trimChars_eq, fun h => h ▸ trimmed_trimChars text⟩

theorem isBlank_of_trimmed_nil {text : String} (h : Trimmed text []) : isBlank text = true := by
  obtain ⟨before, after, htext, hbefore, hafter⟩ := h.within
  rw [isBlank, htext, List.append_nil, List.all_append, Bool.and_eq_true]
  exact ⟨List.all_eq_true.2 hbefore, List.all_eq_true.2 hafter⟩

namespace Decimal

/-! ## Numerals -/

/-- Digits, at least one of them, and the number that they stand for. -/
inductive Row : List Char → Nat → Prop
  | of {ds : List Nat} (hne : ds ≠ []) (hsmall : ∀ d ∈ ds, d < 10) :
      Row (ds.map digitChar) (Nat.ofDigits 10 ds.reverse)

/-- Digits after at most one plus sign, and the number that they stand for. -/
inductive Numeral : List Char → Nat → Prop
  | plain {cs : List Char} {n : Nat} (h : Row cs n) : Numeral cs n
  | signed {cs : List Char} {n : Nat} (h : Row cs n) : Numeral ('+' :: cs) n

/-- What stands at the front denotes the bound or more, whatever follows it. -/
def Reaches (Denotes : List Char → Nat → Prop) (bound : Nat) (cs : List Char) : Prop :=
  ∃ front rest n, cs = front ++ rest ∧ Denotes front n ∧ bound ≤ n

theorem reaches_nil_iff {Denotes : List Char → Nat → Prop} {bound : Nat} :
    Reaches Denotes bound [] ↔ ∃ n, Denotes [] n ∧ bound ≤ n := by
  constructor
  · rintro ⟨front, rest, n, hnil, h⟩
    obtain ⟨rfl, rfl⟩ := List.append_eq_nil_iff.1 hnil.symm
    exact ⟨n, h⟩
  · rintro ⟨n, h⟩
    exact ⟨[], [], n, rfl, h⟩

/-- Each digit counts ten times as much as the one behind it. -/
theorem value?_map_digitChar {acc : Nat} {ds : List Nat} (hsmall : ∀ d ∈ ds, d < 10) :
    value? acc (ds.map digitChar) =
      some (acc * 10 ^ ds.length + Nat.ofDigits 10 ds.reverse) := by
  induction ds generalizing acc with
  | nil => simp [value?]
  | cons d ds ih =>
    have hdigit := digit?_digitChar (hsmall d List.mem_cons_self)
    simp only [List.map_cons, value?, hdigit, ih fun e he => hsmall e (List.mem_cons_of_mem d he),
      List.reverse_cons, Nat.ofDigits_append, Nat.ofDigits_singleton, List.length_reverse,
      List.length_cons, Option.some.injEq]
    ring

theorem exists_of_value? {acc n : Nat} {cs : List Char} (h : value? acc cs = some n) :
    ∃ ds : List Nat, (∀ d ∈ ds, d < 10) ∧ cs = ds.map digitChar := by
  induction cs generalizing acc with
  | nil => exact ⟨[], by simp⟩
  | cons c cs ih =>
    obtain ⟨d, hc, hrest⟩ := radix.exists_of_value?_cons h
    obtain ⟨hd, rfl⟩ := eq_digitChar_of_digit? hc
    obtain ⟨ds, hsmall, rfl⟩ := ih hrest
    exact ⟨d :: ds, List.forall_mem_cons.2 ⟨hd, hsmall⟩, rfl⟩

theorem row_iff {cs : List Char} {n : Nat} : Row cs n ↔ cs ≠ [] ∧ value? 0 cs = some n := by
  constructor
  · rintro ⟨hne, hsmall⟩
    refine ⟨by simpa using hne, ?_⟩
    rw [value?_map_digitChar hsmall, Nat.zero_mul, Nat.zero_add]
  · rintro ⟨hne, hvalue⟩
    obtain ⟨ds, hsmall, rfl⟩ := exists_of_value? hvalue
    rw [value?_map_digitChar hsmall, Nat.zero_mul, Nat.zero_add] at hvalue
    cases hvalue
    exact .of (by simpa using hne) hsmall

theorem not_numeral_nil (n : Nat) : ¬ Numeral [] n := by
  rintro ⟨h⟩
  exact (row_iff.1 h).1 rfl

theorem not_row_plus {cs : List Char} {n : Nat} : ¬ Row ('+' :: cs) n := by
  intro h
  have hnone : value? 0 ('+' :: cs) = none := rfl
  cases hnone.symm.trans (row_iff.1 h).2

theorem numeral_plus_iff {cs : List Char} {n : Nat} : Numeral ('+' :: cs) n ↔ Row cs n := by
  refine ⟨fun h => ?_, .signed⟩
  cases h with
  | plain h => exact absurd h not_row_plus
  | signed h => exact h

theorem numeral_cons_iff {c : Char} {cs : List Char} {n : Nat} (hc : c ≠ '+') :
    Numeral (c :: cs) n ↔ Row (c :: cs) n := by
  refine ⟨fun h => ?_, .plain⟩
  cases h with
  | plain h => exact h
  | signed h => exact absurd rfl hc

/-! ## Reading digits -/

section Below

variable {bound acc : Nat} {cs : List Char}

/-- Digits are read as the number that they denote, if that is below the bound. -/
theorem readBelow_eq_ok_iff {n : Nat} (hacc : acc < bound) :
    readBelow bound acc cs = .ok n ↔ value? acc cs = some n ∧ n < bound := by
  induction cs generalizing acc with
  | nil =>
    simp only [readBelow, value?, Except.ok.injEq, Option.some.injEq]
    constructor
    · rintro rfl
      exact ⟨rfl, hacc⟩
    · exact And.left
  | cons c cs ih =>
    simp only [readBelow, value?]
    cases digit? c with
    | none => simp
    | some d =>
      by_cases hnext : 10 * acc + d < bound
      · simp only [if_pos hnext, ih hnext]
      · -- Further digits do not make the number smaller.
        simp only [if_neg hnext, reduceCtorEq, false_iff, not_and]
        intro hvalue
        have := radix.le_of_value? hvalue
        omega

/-- Digits are too large as soon as the ones at the front are, whatever follows them. -/
theorem readBelow_eq_tooLarge_iff (hacc : acc < bound) :
    readBelow bound acc cs = .error .tooLarge ↔
      Reaches (fun front n => value? acc front = some n) bound cs := by
  induction cs generalizing acc with
  | nil => simp [readBelow, reaches_nil_iff, value?, hacc]
  | cons c cs ih =>
    simp only [readBelow]
    constructor
    · intro h
      cases hc : digit? c with
      | none => simp [hc] at h
      | some d =>
        simp only [hc] at h
        split at h
        · next hnext =>
          obtain ⟨front, rest, n, rfl, hvalue, hlarge⟩ := (ih hnext).1 h
          exact ⟨c :: front, rest, n, rfl, by simpa [value?, hc] using hvalue, hlarge⟩
        · next hnext =>
          exact ⟨[c], cs, 10 * acc + d, rfl, by simp [value?, hc], Nat.not_lt.1 hnext⟩
    · rintro ⟨front, rest, n, hfront, hvalue, hlarge⟩
      cases front with
      | nil =>
        cases hvalue
        omega
      | cons c' front =>
        obtain ⟨rfl, rfl⟩ := List.cons.inj hfront
        simp only [value?] at hvalue
        cases hc : digit? c with
        | none => simp [hc] at hvalue
        | some d =>
          simp only [hc] at hvalue ⊢
          split
          · next hnext => exact (ih hnext).2 ⟨front, rest, n, rfl, hvalue, hlarge⟩
          · rfl

theorem readBelow_ne_empty : readBelow bound acc cs ≠ .error .empty := by
  induction cs generalizing acc with
  | nil => simp [readBelow]
  | cons c cs ih =>
    simp only [readBelow]
    split
    · simp
    · split
      · exact ih
      · simp

theorem readBelow_eq_ok_iff_row {n : Nat} (hbound : 0 < bound) (hne : cs ≠ []) :
    readBelow bound 0 cs = .ok n ↔ Row cs n ∧ n < bound := by
  rw [readBelow_eq_ok_iff hbound, row_iff]
  simp [hne]

theorem readBelow_eq_tooLarge_iff_row (hbound : 0 < bound) :
    readBelow bound 0 cs = .error .tooLarge ↔ Reaches Row bound cs := by
  rw [readBelow_eq_tooLarge_iff hbound]
  constructor
  · rintro ⟨front, rest, n, hcs, hvalue, hlarge⟩
    refine ⟨front, rest, n, hcs, row_iff.2 ⟨?_, hvalue⟩, hlarge⟩
    -- No digits stand for zero, which is below the bound.
    rintro rfl
    cases hvalue
    omega
  · rintro ⟨front, rest, n, hcs, hrow, hlarge⟩
    exact ⟨front, rest, n, hcs, (row_iff.1 hrow).2, hlarge⟩

end Below

/-! ## Reading numerals -/

section Unsigned

variable {bound : Nat} {cs : List Char}

theorem reaches_plus_iff : Reaches Numeral bound ('+' :: cs) ↔ Reaches Row bound cs := by
  constructor
  · rintro ⟨front, rest, n, hcs, hnumeral, hlarge⟩
    cases front with
    | nil => exact absurd hnumeral (not_numeral_nil n)
    | cons c front =>
      obtain ⟨rfl, rfl⟩ := List.cons.inj hcs
      exact ⟨front, rest, n, rfl, numeral_plus_iff.1 hnumeral, hlarge⟩
  · rintro ⟨front, rest, n, rfl, hrow, hlarge⟩
    exact ⟨'+' :: front, rest, n, rfl, .signed hrow, hlarge⟩

theorem reaches_cons_iff {c : Char} (hc : c ≠ '+') :
    Reaches Numeral bound (c :: cs) ↔ Reaches Row bound (c :: cs) := by
  constructor
  · rintro ⟨front, rest, n, hcs, hnumeral, hlarge⟩
    refine ⟨front, rest, n, hcs, ?_, hlarge⟩
    cases front with
    | nil => exact absurd hnumeral (not_numeral_nil n)
    | cons c' front =>
      obtain ⟨rfl, -⟩ := List.cons.inj hcs
      exact (numeral_cons_iff hc).1 hnumeral
  · rintro ⟨front, rest, n, hcs, hrow, hlarge⟩
    exact ⟨front, rest, n, hcs, .plain hrow, hlarge⟩

theorem unsigned_of_ne_plus {c : Char} (hc : c ≠ '+') :
    unsigned bound (c :: cs) = readBelow bound 0 (c :: cs) := by
  unfold unsigned
  split <;> simp_all

/-- Exactly the numerals below the bound are read. -/
theorem unsigned_eq_ok_iff {n : Nat} (hbound : 0 < bound) :
    unsigned bound cs = .ok n ↔ Numeral cs n ∧ n < bound := by
  cases cs with
  | nil => simp [unsigned, not_numeral_nil]
  | cons c cs =>
    by_cases hc : c = '+'
    · subst hc
      rw [numeral_plus_iff]
      cases cs with
      | nil => simp [unsigned, row_iff]
      | cons d cs => exact readBelow_eq_ok_iff_row hbound (List.cons_ne_nil d cs)
    · rw [numeral_cons_iff hc, unsigned_of_ne_plus hc]
      exact readBelow_eq_ok_iff_row hbound (List.cons_ne_nil c cs)

/-- A number is too large where the numeral at the front is. -/
theorem unsigned_eq_tooLarge_iff (hbound : 0 < bound) :
    unsigned bound cs = .error .tooLarge ↔ Reaches Numeral bound cs := by
  cases cs with
  | nil => simp [unsigned, reaches_nil_iff, not_numeral_nil]
  | cons c cs =>
    by_cases hc : c = '+'
    · subst hc
      rw [reaches_plus_iff]
      cases cs with
      | nil => simp [unsigned, reaches_nil_iff, row_iff]
      | cons d cs => exact readBelow_eq_tooLarge_iff_row hbound
    · rw [reaches_cons_iff hc, unsigned_of_ne_plus hc]
      exact readBelow_eq_tooLarge_iff_row hbound

/-- Only where there is nothing to read the text is told to be empty. -/
theorem unsigned_eq_empty_iff : unsigned bound cs = .error .empty ↔ cs = [] := by
  unfold unsigned
  split
  · simp
  · simp
  · simp [readBelow_ne_empty]
  · next hne _ _ => exact iff_of_false readBelow_ne_empty hne

/-- A text that is not blank is never told to be empty. -/
theorem unsigned_ne_empty {text : String} (hblank : isBlank text = false) (bound : Nat) :
    unsigned bound (trimChars text.toList) ≠ .error .empty := by
  rw [Ne, unsigned_eq_empty_iff]
  intro hnil
  have hall := isBlank_of_trimmed_nil ((trimmed_iff text []).2 hnil)
  simp [hall] at hblank

end Unsigned

end Decimal

end PayOnce.Text
