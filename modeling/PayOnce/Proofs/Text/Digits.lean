import Mathlib.Algebra.Ring.Nat
/-!
Digits to a base. Whatever the base is, the digits that a number is written with denote it, whatever
digits stand before them, and nothing but digits denotes a number.
-/

namespace PayOnce.Text

/-- A base and its digits: how one digit is read and written, what a row of digits denotes behind
    digits that denote `acc`, and the digits that a number is written with. -/
structure Radix where
  base : Nat
  digit? : Char → Option Nat
  digitChar : Nat → Char
  value? (acc : Nat) : List Char → Option Nat
  digits (n : Nat) : List Char
  two_le_base : 2 ≤ base
  digit?_digitChar {d : Nat} (h : d < base) : digit? (digitChar d) = some d
  value?_nil (acc : Nat) : value? acc [] = some acc
  value?_cons (acc : Nat) (c : Char) (cs : List Char) :
    value? acc (c :: cs) = (digit? c).bind fun d => value? (base * acc + d) cs
  digits_eq (n : Nat) :
    digits n = if n < base then [digitChar n] else digits (n / base) ++ [digitChar (n % base)]

namespace Radix

variable (r : Radix) {acc m n : Nat} {ds : List Char}

/-! ## What digits denote -/

/-- Digits that denote a number start with a digit. -/
theorem exists_of_value?_cons {c : Char} {cs : List Char} (h : r.value? acc (c :: cs) = some n) :
    ∃ d, r.digit? c = some d ∧ r.value? (r.base * acc + d) cs = some n := by
  rw [r.value?_cons] at h
  exact Option.bind_eq_some_iff.1 h

/-- Only digits denote a number. -/
theorem isSome_digit?_of_value? (h : r.value? acc ds = some n) :
    ∀ c ∈ ds, (r.digit? c).isSome = true := by
  induction ds generalizing acc with
  | nil => simp
  | cons c ds ih =>
    obtain ⟨d, hd, hrest⟩ := r.exists_of_value?_cons h
    exact List.forall_mem_cons.2 ⟨by rw [hd]; rfl, ih hrest⟩

/-- Digits never make the number smaller that stands before them. -/
theorem le_of_value? (h : r.value? acc ds = some n) : acc ≤ n := by
  induction ds generalizing acc with
  | nil =>
    rw [r.value?_nil] at h
    exact Nat.le_of_eq (Option.some.inj h)
  | cons c ds ih =>
    obtain ⟨d, -, hrest⟩ := r.exists_of_value?_cons h
    have hpos : 0 < r.base := Nat.lt_of_lt_of_le Nat.zero_lt_two r.two_le_base
    calc acc ≤ r.base * acc := Nat.le_mul_of_pos_left acc hpos
      _ ≤ r.base * acc + d := Nat.le_add_right _ _
      _ ≤ n := ih hrest

/-- Reading digits reads the first ones, and the others behind them. -/
theorem value?_append_eq_bind (acc : Nat) (ds es : List Char) :
    r.value? acc (ds ++ es) = (r.value? acc ds).bind fun m => r.value? m es := by
  induction ds generalizing acc with
  | nil => rw [List.nil_append, r.value?_nil, Option.bind_some]
  | cons c ds ih =>
    rw [List.cons_append, r.value?_cons, r.value?_cons, Option.bind_assoc]
    exact congrArg _ (funext fun d => ih _)

theorem value?_append (h : r.value? acc ds = some m) (es : List Char) :
    r.value? acc (ds ++ es) = r.value? m es := by
  rw [r.value?_append_eq_bind, h, Option.bind_some]

/-- One more digit counts by itself, and what stands before it counts the base times as much. -/
theorem value?_concat {d : Nat} (h : r.value? acc ds = some m) (hd : d < r.base) :
    r.value? acc (ds ++ [r.digitChar d]) = some (r.base * m + d) := by
  rw [r.value?_append h, r.value?_cons, r.digit?_digitChar hd, Option.bind_some, r.value?_nil]

/-! ## What a number is written with -/

/-- A number is a digit or has a last digit behind those of its quotient. -/
@[elab_as_elim]
theorem induct {motive : Nat → Prop} (digit : ∀ n, n < r.base → motive n)
    (concat : ∀ n, ¬ n < r.base → motive (n / r.base) → motive n) (n : Nat) : motive n := by
  induction n using Nat.strongRecOn with
  | ind n ih =>
    by_cases h : n < r.base
    · exact digit n h
    · -- A base is at least two, so the quotient is smaller.
      have hpos : 0 < n := by
        have := r.two_le_base
        omega
      exact concat n h (ih _ (Nat.div_lt_self hpos r.two_le_base))

theorem digits_of_lt (h : n < r.base) : r.digits n = [r.digitChar n] := by
  rw [r.digits_eq, if_pos h]

theorem digits_of_not_lt (h : ¬ n < r.base) :
    r.digits n = r.digits (n / r.base) ++ [r.digitChar (n % r.base)] := by
  rw [r.digits_eq, if_neg h]

/-- The digits of a number denote it. -/
theorem value?_digits (n : Nat) : r.value? 0 (r.digits n) = some n := by
  have hpos : 0 < r.base := Nat.lt_of_lt_of_le Nat.zero_lt_two r.two_le_base
  induction n using r.induct with
  | digit n h =>
    have hvalue := r.value?_concat (r.value?_nil 0) h
    rwa [List.nil_append, Nat.mul_zero, Nat.zero_add, ← r.digits_of_lt h] at hvalue
  | concat n h ih =>
    -- The last digit comes after the digits of the quotient.
    rw [r.digits_of_not_lt h, r.value?_concat ih (Nat.mod_lt n hpos), Nat.div_add_mod]

theorem digits_ne_nil (n : Nat) : r.digits n ≠ [] := by
  rw [r.digits_eq]
  split <;> simp

theorem length_digits_le {width : Nat} (hwidth : 0 < width) (h : n < r.base ^ width) :
    (r.digits n).length ≤ width := by
  induction n using r.induct generalizing width with
  | digit n hn =>
    rw [r.digits_of_lt hn]
    exact hwidth
  | concat n hn ih =>
    -- The quotient has one digit less, and at least one.
    obtain ⟨width, rfl⟩ : ∃ w, width = w + 1 := ⟨width - 1, by omega⟩
    have hquotient : n / r.base < r.base ^ width := by
      rw [Nat.pow_succ] at h
      exact Nat.div_lt_of_lt_mul (by rwa [Nat.mul_comm])
    have hpos : width ≠ 0 := by
      rintro rfl
      exact hn (by simpa using h)
    have := ih (Nat.pos_of_ne_zero hpos) hquotient
    rw [r.digits_of_not_lt hn, List.length_append, List.length_singleton]
    omega

end Radix

end PayOnce.Text
