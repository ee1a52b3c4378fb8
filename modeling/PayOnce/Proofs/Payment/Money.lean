import PayOnce.Payment.Money
import Mathlib
/-!
Amounts of money in normal form. An amount that was made from a number and a code is made again from
its own parts, so that nothing is lost where the parts are kept and put together later.
-/

namespace PayOnce

open Text

/-! ## Codes in normal form -/

theorem trimChars_eq_self {cs : List Char} (h : ∀ c ∈ cs, isBlankChar c = false) :
    trimChars cs = cs := by
  have hdrop {l : List Char} (hl : ∀ c ∈ l, isBlankChar c = false) :
      l.dropWhile isBlankChar = l :=
    List.dropWhile_eq_self_iff.2 fun h => by simp [hl _ (List.getElem_mem h)]
  have hreverse : ∀ c ∈ cs.reverse, isBlankChar c = false :=
    fun c hc => h c (List.mem_reverse.1 hc)
  rw [trimChars, hdrop h, hdrop hreverse, List.reverse_reverse]

theorem trim_eq_self {s : String} (h : ∀ c ∈ s.toList, isBlankChar c = false) : trim s = s := by
  rw [trim, trimChars_eq_self h, String.ofList_toList]

theorem upperAscii_upperAscii (s : String) : upperAscii (upperAscii s) = upperAscii s := by
  simp only [upperAscii, String.toList_ofList, List.map_map, Function.comp_def,
    Char.toUpper_toUpper_eq_toUpper]

/-- No letter is a blank. -/
theorem isBlankChar_of_isAlpha {c : Char} (h : c.isAlpha = true) : isBlankChar c = false := by
  delta Char.isAlpha Char.isUpper Char.isLower at h
  simp only [Bool.or_eq_true, Bool.and_eq_true, decide_eq_true_eq, ge_iff_le,
    UInt32.le_iff_toNat_le] at h
  change (65 ≤ c.toNat ∧ c.toNat ≤ 90) ∨ (97 ≤ c.toNat ∧ c.toNat ≤ 122) at h
  simp only [isBlankChar, Bool.or_eq_false_iff, Bool.and_eq_false_iff, decide_eq_false_iff_not,
    beq_eq_false_iff_ne]
  omega

namespace Money

/-- A code of three letters is one in either case. -/
theorem isCurrencyCode_upperAscii (code : String) :
    isCurrencyCode (upperAscii code) = isCurrencyCode code := by
  simp only [isCurrencyCode, upperAscii, String.toList_ofList, List.length_map, List.all_map,
    Function.comp_def, Char.isAlpha_toUpper_eq_isAlpha]

/-- A code in normal form stays as it is. -/
theorem normalCurrency_normalCurrency {code : String}
    (h : isCurrencyCode (normalCurrency code) = true) :
    normalCurrency (normalCurrency code) = normalCurrency code := by
  have hletters : ∀ c ∈ (normalCurrency code).toList, isBlankChar c = false := by
    intro c hc
    obtain ⟨-, hall⟩ := Bool.and_eq_true_iff.1 h
    exact isBlankChar_of_isAlpha (List.all_eq_true.1 hall c hc)
  calc normalCurrency (normalCurrency code)
      = upperAscii (normalCurrency code) := congrArg upperAscii (trim_eq_self hletters)
    _ = normalCurrency code := upperAscii_upperAscii (trim code)

/-! ## Amounts in normal form -/

/-- Money is made of a positive amount and a code of three letters in either case. -/
theorem make_eq_ok_iff {amount : Int} {code : String} {m : Money} :
    make amount code = .ok m ↔
      (0 < amount ∧ isCurrencyCode (trim code) = true) ∧ m = ⟨amount, normalCurrency code⟩ := by
  have hcode : isCurrencyCode (normalCurrency code) = isCurrencyCode (trim code) :=
    isCurrencyCode_upperAscii _
  unfold make
  rw [hcode]
  split
  · simp only [reduceCtorEq, false_iff]
    omega
  · next hpositive =>
    split
    · next hletters => simp [hletters, Int.not_le.1 hpositive, eq_comm]
    · next hletters => simp [hletters]

/-- Whatever is not made is refused as a value. -/
theorem exists_of_make_error {amount : Int} {code : String} {e : DomainError}
    (h : make amount code = .error e) : ∃ cause, e = .validation cause := by
  unfold make at h
  split at h
  · cases h
    exact ⟨_, rfl⟩
  · split at h
    · cases h
    · cases h
      exact ⟨_, rfl⟩

/-- The amount is what its own number and its own code make. -/
def Valid (m : Money) : Prop :=
  make m.amount m.currency = .ok m

theorem valid_of_make {amount : Int} {code : String} {m : Money} (h : make amount code = .ok m) :
    m.Valid := by
  unfold make at h
  split at h
  · cases h
  · next hpositive =>
    split at h
    · next hcode =>
      cases h
      have hnormal := normalCurrency_normalCurrency hcode
      simp only [Valid, make, hnormal, if_neg hpositive, if_pos hcode]
    · cases h

end Money

end PayOnce
