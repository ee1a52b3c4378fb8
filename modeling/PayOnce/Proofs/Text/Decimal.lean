import PayOnce.Text.Decimal
import PayOnce.Proofs.Text.Digits
/-!
Decimal digits that are written are read back, whether or not zeros fill them up. A number that is
not padded starts with a digit that is not zero, or is the digit zero alone.
-/

namespace PayOnce.Text.Decimal

theorem digit?_digitChar {n : Nat} (h : n < 10) : digit? (digitChar n) = some n := by
  have hall : ∀ m < 10, digit? (digitChar m) = some m := by decide
  exact hall n h

theorem eq_digitChar_of_digit? {c : Char} {d : Nat} (h : digit? c = some d) :
    d < 10 ∧ c = digitChar d := by
  unfold digit? at h
  split at h
  · next hc =>
    cases h
    refine ⟨by omega, ?_⟩
    rw [digitChar, Nat.add_sub_of_le hc.1, Char.ofNat_toNat]
  · cases h

theorem isDigit_iff (c : Char) : isDigit c = true ↔ 48 ≤ c.toNat ∧ c.toNat ≤ 57 := by
  unfold isDigit digit?
  split <;> simp_all

/-- The digits to the base ten. -/
def radix : Radix where
  base := 10
  digit? := digit?
  digitChar := digitChar
  value? := value?
  digits := digits
  two_le_base := by decide
  digit?_digitChar := digit?_digitChar
  value?_nil _ := rfl
  value?_cons acc c cs := by
    rw [value?]
    cases digit? c <;> rfl
  digits_eq n := by rw [digits]

/-! ## What digits denote -/

theorem value?_zeros (k : Nat) (ds : List Char) :
    value? 0 (List.replicate k '0' ++ ds) = value? 0 ds := by
  induction k with
  | zero => rfl
  | succ k ih => simpa [List.replicate_succ, value?, digit?] using ih

/-- Zeros in front of a number do not change it. -/
theorem value?_padded (width n : Nat) : value? 0 (padded width n) = some n := by
  rw [padded, value?_zeros]
  exact radix.value?_digits n

/-! ## What digits look like -/

theorem isDigit_of_mem_digits {n : Nat} {c : Char} (h : c ∈ digits n) : isDigit c = true :=
  radix.isSome_digit?_of_value? (radix.value?_digits n) c h

theorem isDigit_of_mem_padded {width n : Nat} {c : Char} (h : c ∈ padded width n) :
    isDigit c = true := by
  rw [padded, List.mem_append] at h
  cases h with
  | inl h =>
    rw [List.eq_of_mem_replicate h]
    rfl
  | inr h => exact isDigit_of_mem_digits h

/-- An integer is spelled with digits and a minus sign. -/
theorem isDigit_of_mem_intChars {n : Int} {c : Char} (h : c ∈ intChars n) :
    c = '-' ∨ isDigit c = true := by
  unfold intChars at h
  split at h
  · obtain rfl | h := List.mem_cons.1 h
    · exact .inl rfl
    · exact .inr (isDigit_of_mem_digits h)
  · exact .inr (isDigit_of_mem_digits h)

/-- The first digit of a number is not zero, unless it is the only one. -/
theorem exists_digits_eq_cons (n : Nat) : ∃ c d cs, digits n = c :: cs ∧ digit? c = some d ∧
    value? d cs = some n ∧ (d = 0 → cs = []) := by
  induction n using digits.induct with
  | case1 n h =>
    refine ⟨digitChar n, n, [], ?_, digit?_digitChar h, rfl, fun _ => rfl⟩
    rw [digits, if_pos h]
  | case2 n h ih =>
    obtain ⟨c, d, cs, hdigits, hd, hvalue, hzero⟩ := ih
    have hlast := digit?_digitChar (Nat.mod_lt n (by decide : 0 < 10))
    refine ⟨c, d, cs ++ [digitChar (n % 10)], ?_, hd, ?_, ?_⟩
    · rw [digits, if_neg h, hdigits, List.cons_append]
    · refine (radix.value?_append hvalue _).trans ?_
      simp only [radix, value?, hlast, Option.some.injEq]
      omega
    · intro h0
      -- A quotient whose digits are a zero alone is zero, and the number has one digit.
      rw [hzero h0, h0] at hvalue
      simp only [value?, Option.some.injEq] at hvalue
      omega

theorem digits_mul_add {m d : Nat} (hm : 0 < m) (hd : d < 10) :
    digits (10 * m + d) = digits m ++ [digitChar d] := by
  rw [digits, if_neg (by omega), show (10 * m + d) / 10 = m by omega,
    show (10 * m + d) % 10 = d by omega]

/-- Digits without a leading zero are those of the number that they denote. -/
theorem digits_of_value? {acc m : Nat} {ds : List Char} (hacc : 0 < acc)
    (hvalue : value? acc ds = some m) : digits acc ++ ds = digits m := by
  induction ds generalizing acc with
  | nil =>
    cases hvalue
    exact List.append_nil _
  | cons c ds ih =>
    obtain ⟨d, hc, hrest⟩ := radix.exists_of_value?_cons hvalue
    obtain ⟨hd, rfl⟩ := eq_digitChar_of_digit? hc
    have hnext : 0 < 10 * acc + d := by omega
    rw [← ih hnext hrest, digits_mul_add hacc hd, List.append_assoc, List.singleton_append]

/-- The digits of a number are those that denote it and have no zero in front. -/
theorem eq_digits_of_value? {m : Nat} {ds : List Char} (hvalue : value? 0 ds = some m)
    (hne : ds ≠ []) (hzero : ∀ cs, ds = '0' :: cs → cs = []) : ds = digits m := by
  obtain ⟨c, cs, rfl⟩ := List.exists_cons_of_ne_nil hne
  obtain ⟨d, hc, hrest⟩ := radix.exists_of_value?_cons hvalue
  obtain ⟨hd, rfl⟩ := eq_digitChar_of_digit? hc
  have hfirst : digits d = [digitChar d] := radix.digits_of_lt hd
  rw [Nat.mul_zero, Nat.zero_add] at hrest
  rcases Nat.eq_zero_or_pos d with rfl | hpos
  · cases hzero cs rfl
    cases hrest
    exact hfirst.symm
  · rw [← digits_of_value? hpos hrest, hfirst, List.singleton_append]

/-! ## How many digits there are -/

theorem length_padded {width n : Nat} (hwidth : 0 < width) (h : n < 10 ^ width) :
    (padded width n).length = width := by
  have hlength : (digits n).length ≤ width := radix.length_digits_le hwidth h
  rw [padded, List.length_append, List.length_replicate]
  omega

theorem padded_ne_nil (width n : Nat) : padded width n ≠ [] := by
  have hdigits : digits n ≠ [] := radix.digits_ne_nil n
  simp [padded, hdigits]

end PayOnce.Text.Decimal
