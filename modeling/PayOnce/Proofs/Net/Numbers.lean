import PayOnce.Net.SocketAddress
import PayOnce.Proofs.Text.Decimal
import PayOnce.Proofs.Text.Hex
/-!
The numbers of an address, and IPv4 addresses. A number ends before the first character that is no
digit; the numbers of an IPv4 address are read in one spelling only.
-/

namespace PayOnce.Net.SocketAddress

open Text

/-! ## Numbers -/

section Numbers

variable {digit? : Char → Option Nat} {value? : Nat → List Char → Option Nat} {most bound n : Nat}
  {ds cs rest : List Char}

/-- At most so many digits that denote a number below a bound. -/
structure Denotes (value? : Nat → List Char → Option Nat) (most bound : Nat) (ds : List Char)
    (n : Nat) : Prop where
  nonempty : ds ≠ []
  few : ds.length ≤ most
  value : value? 0 ds = some n
  below : n < bound

/-- A text does not go on with a digit. -/
def Ends (digit? : Char → Option Nat) (rest : List Char) : Prop :=
  ∀ c ∈ rest.head?, (digit? c).isSome = false

@[simp] theorem ends_nil : Ends digit? [] := by
  simp [Ends]

@[simp] theorem ends_cons (c : Char) (cs : List Char) :
    Ends digit? (c :: cs) ↔ (digit? c).isSome = false := by
  simp [Ends]

theorem takeWhile_digits (hds : ∀ c ∈ ds, (digit? c).isSome = true) (hends : Ends digit? rest) :
    ((ds ++ rest).takeWhile fun c => (digit? c).isSome) = ds := by
  rw [List.takeWhile_append_of_pos hds]
  cases rest with
  | nil => simp
  | cons c cs => simp [(ends_cons c cs).1 hends]

/-- A number is read up to where its digits end. -/
theorem readNumber_append (r : Radix) (h : Denotes r.value? most bound ds n)
    (hends : Ends r.digit? rest) :
    readNumber r.digit? r.value? most bound (ds ++ rest) = some (n, rest) := by
  have hdigits := takeWhile_digits (r.isSome_digit?_of_value? h.value) hends
  have hsome : ds.isEmpty = false := by simpa using h.nonempty
  have hfew : ¬ ds.length > most := Nat.not_lt.2 h.few
  simp [readNumber, hdigits, hsome, hfew, h.value, h.below]

theorem readNumber_eq_some (h : readNumber digit? value? most bound cs = some (n, rest)) :
    ∃ ds, Denotes value? most bound ds n ∧ cs = ds ++ rest := by
  unfold readNumber at h
  simp only at h
  split at h
  · cases h
  · next hlength =>
    simp only [Bool.or_eq_true, List.isEmpty_iff, decide_eq_true_eq, not_or, Nat.not_lt] at hlength
    obtain ⟨m, hvalue, h⟩ := Option.bind_eq_some_iff.1 h
    split at h
    · next hbound =>
      cases h
      exact ⟨_, ⟨hlength.1, hlength.2, hvalue, hbound⟩,
        (List.prefix_iff_eq_append.1 (List.takeWhile_prefix _)).symm⟩
    · cases h

/-- Nothing is read where no digit stands. -/
theorem readNumber_of_ends (h : Ends digit? cs) :
    readNumber digit? value? most bound cs = none := by
  have hnodigit : ∀ c ∈ ([] : List Char), (digit? c).isSome = true := by simp
  have hnone : (cs.takeWhile fun c => (digit? c).isSome) = [] := takeWhile_digits hnodigit h
  simp [readNumber, hnone]

end Numbers

/-- A decimal number is read up to where its digits end. -/
theorem readDecimal_append {bound n most : Nat} {ds rest : List Char}
    (h : Denotes Decimal.value? most bound ds n) (hends : Ends Decimal.digit? rest) :
    readDecimal bound (ds ++ rest) = some (n, rest) :=
  readNumber_append Decimal.radix ⟨h.nonempty, by simp, h.value, h.below⟩ hends

/-! ## IPv4 addresses -/

/-- Four numbers below 256. -/
structure Octets (octets : List Nat) : Prop where
  four : octets.length = 4
  small : ∀ o ∈ octets, o < 256

theorem denotes_digits {most bound n : Nat} (hmost : 0 < most) (hfew : n < 10 ^ most)
    (hbound : n < bound) : Denotes Decimal.value? most bound (Decimal.digits n) n :=
  ⟨Decimal.radix.digits_ne_nil n, Decimal.radix.length_digits_le hmost hfew,
    Decimal.radix.value?_digits n, hbound⟩

theorem readOctet_digits {o : Nat} (ho : o < 256) {rest : List Char}
    (hends : Ends Decimal.digit? rest) :
    readOctet (Decimal.digits o ++ rest) = some (o, rest) := by
  have hread : readNumber Decimal.digit? Decimal.value? 3 256 (Decimal.digits o ++ rest) =
      some (o, rest) :=
    readNumber_append Decimal.radix (denotes_digits (by decide) (by omega) ho) hends
  unfold readOctet
  split
  · next c cs hzero =>
    -- After a leading zero the digits are at their end.
    obtain ⟨d, v, ds, hdigits, hd, -, hlone⟩ := Decimal.exists_digits_eq_cons o
    rw [hdigits, List.cons_append, List.cons.injEq] at hzero
    obtain ⟨rfl, htail⟩ := hzero
    cases hd
    rw [hlone rfl, List.nil_append] at htail
    rw [htail, ends_cons] at hends
    rw [if_neg (by simp [Decimal.isDigit, hends]), hread]
  · exact hread

theorem readOctet_eq_some {o : Nat} {cs rest : List Char} (h : readOctet cs = some (o, rest)) :
    o < 256 ∧ cs = Decimal.digits o ++ rest := by
  have hcases : readNumber Decimal.digit? Decimal.value? 3 256 cs = some (o, rest) ∧
      ∀ c cs', cs = '0' :: c :: cs' → Decimal.isDigit c = false := by
    unfold readOctet at h
    split at h
    · next c cs' =>
      split at h
      · cases h
      · next hc =>
        refine ⟨h, fun c' cs'' heq => ?_⟩
        cases heq
        simpa using hc
    · next hno => exact ⟨h, fun c cs' heq => (hno c cs' heq).elim⟩
  obtain ⟨hread, hzero⟩ := hcases
  obtain ⟨ds, hds, rfl⟩ := readNumber_eq_some hread
  refine ⟨hds.below, ?_⟩
  rw [← Decimal.eq_digits_of_value? hds.value hds.nonempty fun ds' heq => ?_]
  -- A digit after a leading zero would have been refused.
  cases ds' with
  | nil => rfl
  | cons c ds' =>
    have hdigit : Decimal.isDigit c = true :=
      Decimal.radix.isSome_digit?_of_value? hds.value c (by simp [heq])
    have hnone := hzero c (ds' ++ rest) (by simp [heq])
    exact absurd hdigit (by simp [hnone])

theorem readMark_eq_some {c : Char} {cs rest : List Char} (h : readMark c cs = some rest) :
    cs = c :: rest := by
  unfold readMark at h
  split at h
  · split at h
    · next heq =>
      cases h
      rw [heq]
    · cases h
  · cases h

@[simp] theorem readMark_cons (c : Char) (cs : List Char) : readMark c (c :: cs) = some cs := by
  simp [readMark]

theorem Octets.exists_eq {octets : List Nat} (h : Octets octets) :
    ∃ a b c d, octets = [a, b, c, d] ∧ a < 256 ∧ b < 256 ∧ c < 256 ∧ d < 256 := by
  match octets, h with
  | [a, b, c, d], h =>
    exact ⟨a, b, c, d, rfl, by simpa using h.small⟩

theorem Octets.length_groupsOfV4 {octets : List Nat} (h : Octets octets) :
    (groupsOfV4 octets).length = 2 := by
  obtain ⟨a, b, c, d, rfl, -⟩ := h.exists_eq
  rfl

theorem v4Chars_four (a b c d : Nat) (rest : List Char) :
    v4Chars [a, b, c, d] ++ rest =
      Decimal.digits a ++ '.' :: (Decimal.digits b ++ '.' :: (Decimal.digits c ++ '.' ::
        (Decimal.digits d ++ rest))) := by
  simp [v4Chars, joinWith]

/-- An IPv4 address is read up to where its last number ends. -/
theorem readV4_append {octets : List Nat} (h : Octets octets) {rest : List Char}
    (hends : Ends Decimal.digit? rest) : readV4 (v4Chars octets ++ rest) = some (octets, rest) := by
  obtain ⟨a, b, c, d, rfl, ha, hb, hc, hd⟩ := h.exists_eq
  have hpoint (cs : List Char) : Ends Decimal.digit? ('.' :: cs) := by
    rw [ends_cons]
    decide
  simp only [v4Chars_four, readV4, readOctet_digits ha (hpoint _), readOctet_digits hb (hpoint _),
    readOctet_digits hc (hpoint _), readOctet_digits hd hends, readMark_cons, Option.bind_eq_bind,
    Option.bind_some, Option.pure_def]

/-- Nothing is read but four numbers in their own spelling, with points between them. -/
theorem readV4_eq_some {octets : List Nat} {cs rest : List Char}
    (h : readV4 cs = some (octets, rest)) : Octets octets ∧ cs = v4Chars octets ++ rest := by
  simp only [readV4, Option.bind_eq_bind, Option.bind_eq_some_iff, Option.pure_def] at h
  obtain ⟨⟨a, cs₁⟩, ha, cs₁', hmark₁, ⟨b, cs₂⟩, hb, cs₂', hmark₂, ⟨c, cs₃⟩, hc, cs₃', hmark₃,
    ⟨d, cs₄⟩, hd, hresult⟩ := h
  cases hresult
  obtain ⟨hlt₁, rfl⟩ := readOctet_eq_some ha
  cases readMark_eq_some hmark₁
  obtain ⟨hlt₂, rfl⟩ := readOctet_eq_some hb
  cases readMark_eq_some hmark₂
  obtain ⟨hlt₃, rfl⟩ := readOctet_eq_some hc
  cases readMark_eq_some hmark₃
  obtain ⟨hlt₄, rfl⟩ := readOctet_eq_some hd
  exact ⟨⟨rfl, by simp [hlt₁, hlt₂, hlt₃, hlt₄]⟩, (v4Chars_four a b c d _).symm⟩

end PayOnce.Net.SocketAddress
