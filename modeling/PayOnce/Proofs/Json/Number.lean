import PayOnce.Json.Reader
import PayOnce.Proofs.Text.Decimal
import Mathlib.Algebra.Ring.Int.Defs
/-!
Whole numbers that are written are read back, signed ones of 64 bits and unsigned ones alike, where
the text ends behind them or goes on with anything that is no part of a number.
-/

namespace PayOnce.Json

open Text

/-- What may stand behind a value: nothing, a comma or a closing bracket. -/
def Delimited : Glyphs → Prop
  | [] => True
  | c :: _ => c = some ',' ∨ c = some ']' ∨ c = some '}'

namespace Number

/-- A number ends here. -/
def Ends (cs : Glyphs) : Prop :=
  ∀ c ∈ cs.head?, digitOf c = none ∧ c ≠ some '.' ∧ c ≠ some 'e' ∧ c ≠ some 'E'

theorem Ends.of_delimited {cs : Glyphs} (h : Delimited cs) : Ends cs := by
  cases cs with
  | nil => simp [Ends]
  | cons c cs =>
    rintro d ⟨⟩
    obtain rfl | rfl | rfl := h <;> decide

theorem readRest_ends (negative : Bool) (significand : Nat) {cs : Glyphs} (h : Ends cs) :
    readRest negative significand cs
      = (ofSignificand negative significand).map fun n => (n, cs) := by
  cases cs with
  | nil => rfl
  | cons c cs =>
    obtain ⟨-, hpoint, he, hE⟩ := h c rfl
    unfold readRest
    split <;> simp_all

theorem readWhole_ends (negative : Bool) (significand : Nat) {cs : Glyphs} (h : Ends cs) :
    readWhole negative significand cs
      = (ofSignificand negative significand).map fun n => (n, cs) := by
  rw [← readRest_ends negative significand h]
  cases cs with
  | nil => rfl
  | cons c cs => simp only [readWhole, (h c rfl).1]

/-- Digits behind others are all counted, if the number that they end up with fits. -/
theorem readWhole_digits (negative : Bool) {acc m : Nat} {ds : List Char}
    (hvalue : Decimal.value? acc ds = some m) (hm : m < significandBound) {cs : Glyphs}
    (h : Ends cs) :
    readWhole negative acc (ds.map some ++ cs)
      = (ofSignificand negative m).map fun n => (n, cs) := by
  induction ds generalizing acc with
  | nil =>
    simp only [Decimal.value?, Option.some.injEq] at hvalue
    rw [hvalue]
    exact readWhole_ends negative m h
  | cons c ds ih =>
    obtain ⟨d, hd, hrest⟩ :
        ∃ d, Decimal.digit? c = some d ∧ Decimal.value? (10 * acc + d) ds = some m :=
      Decimal.radix.exists_of_value?_cons hvalue
    -- What the digits so far denote is no more than what all of them denote.
    have hfits : 10 * acc + d < significandBound :=
      Nat.lt_of_le_of_lt (Decimal.radix.le_of_value? hrest) hm
    simp only [List.map_cons, List.cons_append, readWhole, digitOf, hd, if_pos hfits]
    exact ih hrest

theorem readUnsigned_digits (negative : Bool) {n : Nat} (hn : n < significandBound) {cs : Glyphs}
    (h : Ends cs) :
    readUnsigned negative ((Decimal.digits n).map some ++ cs)
      = (ofSignificand negative n).map fun n => (n, cs) := by
  obtain ⟨c, d, ds, hdigits, hd, hvalue, hzero⟩ := Decimal.exists_digits_eq_cons n
  rw [hdigits, List.map_cons, List.cons_append]
  cases d with
  | zero =>
    rw [hzero rfl] at hvalue ⊢
    simp only [Decimal.value?, Option.some.injEq] at hvalue
    have hend : (cs.head?.bind digitOf).isSome = false := by
      cases cs with
      | nil => rfl
      | cons c cs => simp [(h c rfl).1]
    simp only [readUnsigned, digitOf, hd, List.map_nil, List.nil_append, hend, Bool.false_eq_true,
      if_false]
    rw [readRest_ends negative 0 h, hvalue]
  | succ d =>
    simp only [readUnsigned, digitOf, hd]
    exact readWhole_digits negative hvalue hn h

/-- A whole number is read back from its digits. -/
theorem read_intChars {n : Int} (hlow : -2 ^ 63 ≤ n) (hhigh : n < 2 ^ 64) {cs : Glyphs}
    (h : Ends cs) :
    read ((Decimal.intChars n).map some ++ cs) = some (.int n, cs) := by
  have hbound : significandBound = 2 ^ 64 := rfl
  have hdigits (negative : Bool) := readUnsigned_digits negative (n := n.natAbs) (by omega) h
  unfold Decimal.intChars
  split
  · next hneg =>
    have hsignificand : ofSignificand true n.natAbs = some (.int n) := by
      have hfits : 0 < n.natAbs ∧ n.natAbs ≤ Nat.pow 2 63 := by
        have : Nat.pow 2 63 = 2 ^ 63 := rfl
        omega
      rw [ofSignificand, if_pos rfl, if_pos hfits]
      congr 2
      omega
    simp only [List.map_cons, List.cons_append, read]
    rw [hdigits true, hsignificand]
    rfl
  · next hpos =>
    have hsignificand : ofSignificand false n.natAbs = some (.int n) := by
      rw [ofSignificand, if_neg Bool.false_ne_true]
      congr 2
      omega
    obtain ⟨c, d, ds, hcons, hd, -⟩ := Decimal.exists_digits_eq_cons n.natAbs
    -- The first digit is no minus sign.
    have hsign : c ≠ '-' := by
      rintro rfl
      simp [Decimal.digit?] at hd
    have hread : read ((Decimal.digits n.natAbs).map some ++ cs)
        = readUnsigned false ((Decimal.digits n.natAbs).map some ++ cs) := by
      rw [hcons, List.map_cons, List.cons_append, read]
      intro cs' heq
      exact hsign (by simpa using congrArg List.head? heq)
    rw [hread, hdigits false, hsignificand]
    rfl

end Number

/-- A whole number starts with a minus sign or a digit, and so with no blank, quote or bracket and
    not like a word. -/
theorem exists_intChars_eq_cons (n : Int) :
    ∃ c cs, Decimal.intChars n = c :: cs ∧ isGap (some c) = false ∧
      ∀ d : Char, d.toNat < 45 ∨ 57 < d.toNat → c ≠ d := by
  obtain ⟨c, cs, hcons, hlow, hhigh⟩ :
      ∃ c cs, Decimal.intChars n = c :: cs ∧ 45 ≤ c.toNat ∧ c.toNat ≤ 57 := by
    obtain ⟨c, d, ds, hcons, hd, -⟩ := Decimal.exists_digits_eq_cons n.natAbs
    have hdigit := (Decimal.isDigit_iff c).1 (by simp [Decimal.isDigit, hd])
    unfold Decimal.intChars
    split
    · exact ⟨'-', _, rfl, by decide, by decide⟩
    · exact ⟨c, ds, hcons, by omega, hdigit.2⟩
  have hne (d : Char) (hd : d.toNat < 45 ∨ 57 < d.toNat) : c ≠ d := by
    rintro rfl
    omega
  refine ⟨c, cs, hcons, ?_, hne⟩
  simp only [isGap, Bool.or_eq_false_iff, beq_eq_false_iff_ne]
  exact ⟨⟨⟨hne ' ' (by decide), hne '\t' (by decide)⟩, hne '\n' (by decide)⟩, hne '\r' (by decide)⟩

theorem inInt64_iff (n : Int) : inInt64 n = true ↔ -2 ^ 63 ≤ n ∧ n < 2 ^ 63 := by
  rw [inInt64, Bool.and_eq_true, decide_eq_true_eq, decide_eq_true_eq]
  exact Iff.rfl

/-- A whole number of 64 bits with sign is read back from its digits. -/
theorem readInt64_intChars {n : Int} (hn : inInt64 n = true) {cs : Glyphs} (h : Number.Ends cs) :
    readInt64 ((Decimal.intChars n).map some ++ cs) = .ok (n, cs) := by
  have hbounds := (inInt64_iff n).1 hn
  have hread := Number.read_intChars hbounds.1 (by omega) h
  obtain ⟨c, ds, hcons, hgap, -⟩ := exists_intChars_eq_cons n
  have hskip : skipGaps ((Decimal.intChars n).map some ++ cs)
      = (Decimal.intChars n).map some ++ cs := by
    simp [hcons, skipGaps, hgap]
  simp only [readInt64, hskip, hread, if_pos hn]

end PayOnce.Json
