import PayOnce.Text.Hex
import PayOnce.Proofs.Text.Digits
import Mathlib
/-!
Hexadecimal digits that are written are read back, whatever digits stand before them, and nothing is
read but those digits in either case.
-/

namespace PayOnce.Text.Hex

theorem digit?_digitChar {n : Nat} (h : n < 16) : digit? (digitChar n) = some n := by
  have hall : ∀ m < 16, digit? (digitChar m) = some m := by decide
  exact hall n h

@[simp] theorem length_fixed (width n : Nat) : (fixed width n).length = width := by
  induction width generalizing n with
  | zero => rfl
  | succ width ih => simp [fixed, ih]

/-- The digits to the base sixteen. -/
def radix : Radix where
  base := 16
  digit? := digit?
  digitChar := digitChar
  value? := value?
  digits := digits
  two_le_base := by decide
  digit?_digitChar := digit?_digitChar
  value?_nil _ := rfl
  value?_cons acc c cs := by
    rw [value?]
    cases digit? c <;> rfl
  digits_eq n := by rw [digits]

theorem exists_of_value?_cons {acc n : Nat} {c : Char} {cs : List Char}
    (h : value? acc (c :: cs) = some n) :
    ∃ d, digit? c = some d ∧ value? (16 * acc + d) cs = some n :=
  radix.exists_of_value?_cons h

/-- Digits of a fixed width denote the number's remainder. -/
theorem value?_fixed (width acc n : Nat) :
    value? acc (fixed width n) = some (acc * 16 ^ width + n % 16 ^ width) := by
  induction width generalizing n with
  | zero => simp [fixed, value?, Nat.mod_one]
  | succ width ih =>
    have hmod : n % 16 ^ (width + 1) = 16 * (n / 16 % 16 ^ width) + n % 16 := by
      rw [Nat.pow_succ', Nat.mod_mul, Nat.add_comm]
    -- The last digit comes after the digits of the quotient.
    have hvalue : value? acc (fixed (width + 1) n)
        = some (16 * (acc * 16 ^ width + n / 16 % 16 ^ width) + n % 16) :=
      radix.value?_concat (ih (n / 16)) (Nat.mod_lt n (by decide))
    rw [hvalue, hmod, Option.some.injEq]
    ring

/-- A digit is the one that is written for its value, but for its case. -/
theorem digitChar_of_digit? {c : Char} {d : Nat} (h : digit? c = some d) :
    d < 16 ∧ digitChar d = c.toLower := by
  have hall : ∀ n < 103, ∀ d < 16, digit? (Char.ofNat n) = some d →
      digitChar d = (Char.ofNat n).toLower := by decide +kernel
  have hbound : c.toNat < 103 ∧ d < 16 := by
    simp only [digit?] at h
    split at h
    · cases h; omega
    split at h
    · cases h; omega
    split at h
    · cases h; omega
    · cases h
  have hc : Char.ofNat c.toNat = c := Char.ofNat_toNat c
  have := hall c.toNat hbound.1 d hbound.2
  rw [hc] at this
  exact ⟨hbound.2, this h⟩

theorem digit?_toLower (c : Char) : digit? c.toLower = digit? c := by
  by_cases hupper : c.toNat < 91
  · have hall : ∀ n < 91, digit? (Char.ofNat n).toLower = digit? (Char.ofNat n) := by decide +kernel
    have := hall c.toNat hupper
    rwa [Char.ofNat_toNat] at this
  · have hcapital : ¬ c.isUpper = true := by
      intro h
      have hlast := (of_decide_eq_true h).2
      exact hupper (Nat.lt_succ_of_le (UInt32.le_iff_toNat_le.1 hlast))
    rw [Char.toLower_eq_of_not_isUpper hcapital]

/-- Digits in either case denote what they denote in lower case. -/
theorem value?_map_toLower (acc : Nat) (ds : List Char) :
    value? acc (ds.map Char.toLower) = value? acc ds := by
  induction ds generalizing acc with
  | nil => rfl
  | cons c ds ih =>
    rw [List.map_cons, value?, value?, digit?_toLower]
    cases digit? c with
    | none => rfl
    | some d => exact ih _

/-- Digits are the ones that are written for what they denote, but for their case. -/
theorem fixed_of_value? {n : Nat} {ds : List Char} (h : value? 0 ds = some n) :
    fixed ds.length n = ds.map Char.toLower := by
  induction ds using List.reverseRecOn generalizing n with
  | nil => rfl
  | append_singleton ds c ih =>
    have hbind := (radix.value?_append_eq_bind 0 ds [c]).symm.trans h
    obtain ⟨m, hm, hlast⟩ := Option.bind_eq_some_iff.1 hbind
    obtain ⟨d, hd, hn⟩ := exists_of_value?_cons hlast
    cases hn
    obtain ⟨hlt, hchar⟩ := digitChar_of_digit? hd
    have hdiv : (16 * m + d) / 16 = m := by omega
    have hmod : (16 * m + d) % 16 = d := by omega
    rw [List.length_append, List.length_singleton, fixed, hdiv, hmod, ih hm, hchar, List.map_append,
      List.map_singleton]

end PayOnce.Text.Hex
