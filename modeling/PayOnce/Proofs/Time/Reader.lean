import PayOnce.Proofs.Text.Decimal
import PayOnce.Proofs.Time.Calendar
import PayOnce.Time.Reader
/-!
Instants that are written are read back, in any year and with any nanoseconds, but for those in a
leap second inside a minute: they are written like those of the second behind it. Every field of a
text is followed by a character that is no digit, so that a field ends where it was written to end.
-/

namespace PayOnce.Instant

open Text

/-! ## Fields -/

theorem isBlankChar_of_isDigit {c : Char} (h : Decimal.isDigit c = true) :
    isBlankChar c = false := by
  rw [Decimal.isDigit_iff] at h
  simp only [isBlankChar, Bool.or_eq_false_iff, Bool.and_eq_false_iff, decide_eq_false_iff_not,
    beq_eq_false_iff_ne]
  omega

theorem skipBlanks_cons {c : Char} (h : isBlankChar c = false) (cs : List Char) :
    skipBlanks (c :: cs) = c :: cs := by
  simp [skipBlanks, h]

/-- Digits are read up to the first character that is none. -/
theorem readDigits_append {most : Nat} {ds : List Char}
    (hds : ∀ d ∈ ds, Decimal.isDigit d = true) (hne : ds ≠ []) (hmost : ds.length ≤ most)
    {c : Char} (hc : Decimal.isDigit c = false) (cs : List Char) :
    readDigits most (ds ++ c :: cs) = some (ds, c :: cs) := by
  have hend : ((c :: cs).take (most - ds.length)).takeWhile Decimal.isDigit = [] := by
    cases most - ds.length <;> simp [hc]
  have htaken : ((ds ++ c :: cs).take most).takeWhile Decimal.isDigit = ds := by
    rw [List.take_append, List.take_of_length_le hmost, List.takeWhile_append_of_pos hds, hend,
      List.append_nil]
  have hfound : ds.isEmpty = false := by simpa using hne
  simp only [readDigits, htaken, hfound, List.drop_left, Bool.false_eq_true, if_false]

theorem readDigits_padded (most width n : Nat) (hmost : (Decimal.padded width n).length ≤ most)
    {c : Char} (hc : Decimal.isDigit c = false) (cs : List Char) :
    readDigits most (Decimal.padded width n ++ c :: cs)
      = some (Decimal.padded width n, c :: cs) :=
  readDigits_append (fun _ => Decimal.isDigit_of_mem_padded) (Decimal.padded_ne_nil width n) hmost
    hc cs

/-- A number starts with a digit, and so with no blank and no sign. -/
theorem exists_padded_eq_cons (width n : Nat) :
    ∃ d ds, Decimal.padded width n = d :: ds ∧ Decimal.isDigit d = true := by
  obtain ⟨d, ds, hcons⟩ := List.exists_cons_of_ne_nil (Decimal.padded_ne_nil width n)
  have hmem : d ∈ Decimal.padded width n := by
    rw [hcons]
    exact List.mem_cons_self
  exact ⟨d, ds, hcons, Decimal.isDigit_of_mem_padded hmem⟩

theorem skipBlanks_padded (width n : Nat) (cs : List Char) :
    skipBlanks (Decimal.padded width n ++ cs) = Decimal.padded width n ++ cs := by
  obtain ⟨d, ds, hcons, hd⟩ := exists_padded_eq_cons width n
  rw [hcons, List.cons_append, skipBlanks_cons (isBlankChar_of_isDigit hd)]

theorem readNumber_padded (most width n : Nat) (hmost : (Decimal.padded width n).length ≤ most)
    {c : Char} (hc : Decimal.isDigit c = false) (cs : List Char) :
    readNumber most (Decimal.padded width n ++ c :: cs) = some (n, c :: cs) := by
  simp [readNumber, skipBlanks_padded, readDigits_padded most width n hmost hc,
    Decimal.value?_padded]

theorem readTwoDigits {n : Nat} (hn : n < 100) {c : Char} (hc : Decimal.isDigit c = false)
    (cs : List Char) : readNumber 2 (Decimal.padded 2 n ++ c :: cs) = some (n, c :: cs) :=
  readNumber_padded 2 2 n (Nat.le_of_eq (Decimal.length_padded (by decide) hn)) hc cs

theorem readMark_cons {c : Char} (h : isBlankChar c = false) (cs : List Char) :
    readMark c (c :: cs) = some cs := by
  simp [readMark, skipBlanks_cons h]

/-! ## Years and fractions -/

/-- A year is read back, with a sign and without one. -/
theorem readYear_yearChars (year : Int) {c : Char} (hc : Decimal.isDigit c = false)
    (cs : List Char) : readYear (yearChars year ++ c :: cs) = some (year, c :: cs) := by
  have hsigned := readDigits_padded (Decimal.padded 4 year.natAbs ++ c :: cs).length 4 year.natAbs
    (by simp) hc cs
  unfold yearChars
  split
  · next hplain =>
    obtain ⟨d, ds, hcons, hd⟩ := exists_padded_eq_cons 4 year.natAbs
    have hlength : (Decimal.padded 4 year.natAbs).length = 4 :=
      Decimal.length_padded (by decide) (by omega)
    have hread := readNumber_padded 4 4 year.natAbs (Nat.le_of_eq hlength) hc cs
    have hyear : ((year.natAbs : Nat) : Int) = year := by omega
    rw [readYear, skipBlanks_padded]
    split
    · next heq =>
      rw [hcons, List.cons_append, List.cons.injEq] at heq
      rw [heq.1] at hd
      exact absurd hd (by decide)
    · next heq =>
      rw [hcons, List.cons_append, List.cons.injEq] at heq
      rw [heq.1] at hd
      exact absurd hd (by decide)
    · simp only [hread, Option.bind_eq_bind, Option.bind_some, Option.pure_def, hyear]
  · next hfar =>
    split
    · next hneg =>
      have hyear : -((year.natAbs : Nat) : Int) = year := by omega
      rw [List.cons_append, readYear, skipBlanks_cons (by decide)]
      simp only [hsigned, Decimal.value?_padded, Option.bind_eq_bind, Option.bind_some,
        Option.pure_def, hyear]
    · next hpos =>
      have hyear : ((year.natAbs : Nat) : Int) = year := by omega
      rw [List.cons_append, readYear, skipBlanks_cons (by decide)]
      simp only [hsigned, Decimal.value?_padded, Option.bind_eq_bind, Option.bind_some,
        Option.pure_def, hyear]

/-- The digits of a fraction are read as nanoseconds, however many of them were left out. -/
theorem readFraction_padded {width n : Nat} (hwidth : 0 < width) (hmost : width ≤ 9)
    (hn : n < 10 ^ width) {c : Char} (hc : Decimal.isDigit c = false) (cs : List Char) :
    readFraction ('.' :: (Decimal.padded width n ++ c :: cs))
      = some (n * 10 ^ (9 - width), c :: cs) := by
  have hlength := Decimal.length_padded hwidth hn
  have hdigits := readDigits_padded 9 width n (by omega) hc cs
  have hrest : (c :: cs).dropWhile Decimal.isDigit = c :: cs :=
    List.dropWhile_cons_of_neg (by simp [hc])
  simp only [readFraction, hdigits, Option.bind_eq_bind, Option.bind_some, Decimal.value?_padded,
    Option.pure_def, hlength, hrest]
  rfl

theorem readFraction_fractionChars {nanos : Nat} (h : nanos < 1000000000) {c : Char}
    (hc : Decimal.isDigit c = false) (hpoint : c ≠ '.') (cs : List Char) :
    readFraction (fractionChars nanos ++ c :: cs) = some (nanos, c :: cs) := by
  unfold fractionChars
  split
  · next hzero =>
    rw [hzero, List.nil_append, readFraction]
    intro cs' heq
    exact hpoint (by simpa using congrArg List.head? heq)
  split
  · next hmillis =>
    rw [List.cons_append, readFraction_padded (by decide) (by decide) (by omega) hc]
    simp only [Option.some.injEq, Prod.mk.injEq, and_true]
    omega
  split
  · next hmicros =>
    rw [List.cons_append, readFraction_padded (by decide) (by decide) (by omega) hc]
    simp only [Option.some.injEq, Prod.mk.injEq, and_true]
    omega
  · rw [List.cons_append, readFraction_padded (by decide) (by decide) (by omega) hc]
    simp

/-- The seconds end where a fraction starts or where the time of day ends. -/
theorem readTwoDigits_fractionChars {n : Nat} (hn : n < 100) (nanos : Nat) {c : Char}
    (hc : Decimal.isDigit c = false) (cs : List Char) :
    readNumber 2 (Decimal.padded 2 n ++ (fractionChars nanos ++ c :: cs))
      = some (n, fractionChars nanos ++ c :: cs) := by
  have hend : ∃ d ds, fractionChars nanos ++ c :: cs = d :: ds ∧ Decimal.isDigit d = false := by
    unfold fractionChars
    split
    · exact ⟨c, cs, rfl, hc⟩
    split
    · exact ⟨'.', _, rfl, by decide⟩
    split <;> exact ⟨'.', _, rfl, by decide⟩
  obtain ⟨d, ds, hcons, hd⟩ := hend
  rw [hcons, readTwoDigits hn hd]

/-! ## Instants -/

/-- A time of day on a day makes an instant of that day. -/
theorem ofParts_ofDays {days : Int} (hyear : yearInRange (Date.ofDays days).year = true)
    {hour minute second : Nat} (hhour : hour < 24) (hminute : minute < 60) (hsecond : second ≤ 60)
    (nanos : Nat) :
    ofParts (Date.ofDays days) hour minute second nanos 0
      = some ⟨days * 86400 + (hour * 3600 + minute * 60 + min second 59 : Nat),
          nanos + (if second = 60 then 1 else 0) * 1000000000⟩ := by
  have hofDay : second - (if second = 60 then 1 else 0) = min second 59 := by
    split <;> omega
  have hday :
      (days * 86400 + (hour * 3600 + minute * 60 + min second 59 : Nat)) / 86400 = days := by
    omega
  unfold ofParts
  rw [if_pos ⟨Date.valid_ofDays days, hyear, hhour, hminute, hsecond, by decide⟩]
  simp only [hofDay, Date.toDays_ofDays, Int.sub_zero, hday, if_pos hyear]

/-- An instant that a timestamp can hold: its year has a date, and a leap second may prolong any
    second. -/
structure Representable (t : Instant) : Prop where
  year : yearInRange (Date.ofDays (t.secs / 86400)).year = true
  nanos : t.nanos < 2000000000

/-- The instant that a text tells: a leap second stands at the end of a minute, and inside one it
    looks like the second behind it. -/
def settled (t : Instant) : Instant :=
  if t.nanos ≥ 1000000000 ∧ t.secs % 60 ≠ 59 then ⟨t.secs + 1, t.nanos - 1000000000⟩ else t

/-- An instant in no leap second but one that ends a minute. -/
def LeapEndsMinute (t : Instant) : Prop :=
  t.nanos ≥ 1000000000 → t.secs % 60 = 59

theorem settled_eq_self_iff {t : Instant} : t.settled = t ↔ t.LeapEndsMinute := by
  unfold settled LeapEndsMinute
  split
  · next hinside =>
    refine iff_of_false ?_ fun hends => hinside.2 (hends hinside.1)
    intro heq
    have := congrArg secs heq
    simp only at this
    omega
  · next houtside =>
    refine iff_of_true rfl fun hleap => ?_
    omega

theorem Representable.leapEndsMinute_settled {t : Instant} (h : t.Representable) :
    t.settled.LeapEndsMinute := by
  have hnanos := h.nanos
  unfold settled LeapEndsMinute
  split
  · intro hleap
    simp only at hleap
    omega
  · omega

/-- The second behind one that ends no minute lies on the same day. -/
theorem Representable.settled {t : Instant} (h : t.Representable) : t.settled.Representable := by
  have hnanos := h.nanos
  unfold Instant.settled
  split
  · -- Midnight is the end of a minute, and so the date stays the same.
    have hday : (t.secs + 1) / 86400 = t.secs / 86400 := by omega
    exact ⟨hday ▸ h.year, by simp only; omega⟩
  · exact h

/-- A leap second inside a minute is written like the second behind it. -/
theorem Representable.text_settled {t : Instant} (h : t.Representable) :
    t.settled.text = t.text := by
  have hnanos := h.nanos
  unfold Instant.settled
  split
  · -- Only the seconds of the minute differ, and there the leap second counts as one more.
    have hday : (t.secs + 1) / 86400 = t.secs / 86400 := by omega
    have hhour : ((t.secs + 1) % 86400).toNat / 3600 = (t.secs % 86400).toNat / 3600 := by omega
    have hminute : ((t.secs + 1) % 86400).toNat / 60 % 60 = (t.secs % 86400).toNat / 60 % 60 := by
      omega
    have hsecond : ((t.secs + 1) % 86400).toNat % 60
          + (if t.nanos - 1000000000 ≥ 1000000000 then 1 else 0)
        = (t.secs % 86400).toNat % 60 + if t.nanos ≥ 1000000000 then 1 else 0 := by
      rw [if_neg (by omega), if_pos (by omega)]
      omega
    have hfraction : (t.nanos - 1000000000) % 1000000000 = t.nanos % 1000000000 := by omega
    simp only [text, chars, hday, hhour, hminute, hsecond, hfraction]
  · rfl

/-- The time of day of an instant makes the instant again, settled. -/
theorem Representable.ofParts_parts {t : Instant} (h : t.Representable) :
    ofParts (Date.ofDays (t.secs / 86400)) ((t.secs % 86400).toNat / 3600)
        ((t.secs % 86400).toNat / 60 % 60)
        ((t.secs % 86400).toNat % 60 + if t.nanos ≥ 1000000000 then 1 else 0)
        (t.nanos % 1000000000) 0
      = some t.settled := by
  obtain ⟨secs, nanos⟩ := t
  obtain ⟨hyear, hnanos⟩ := h
  simp only at hnanos hyear ⊢
  rw [ofParts_ofDays hyear (by omega) (by omega) (by split <;> omega)]
  simp only [Instant.settled, Option.some.injEq]
  by_cases hleap : nanos ≥ 1000000000
  · by_cases hminute : secs % 60 = 59
    · have hsixty : (secs % 86400).toNat % 60 + 1 = 60 := by omega
      rw [if_pos hleap, hsixty, if_pos rfl, if_neg (by simp [hminute])]
      simp only [Instant.mk.injEq]
      omega
    · have hshort : (secs % 86400).toNat % 60 + 1 ≠ 60 := by omega
      rw [if_pos hleap, if_neg hshort, if_pos ⟨hleap, hminute⟩]
      simp only [Instant.mk.injEq]
      omega
  · have hshort : (secs % 86400).toNat % 60 + 0 ≠ 60 := by omega
    rw [if_neg hleap, if_neg hshort, if_neg (fun h => hleap h.1)]
    simp only [Instant.mk.injEq]
    omega

theorem bind_of_eq_some {α β : Type} {x : Option α} {a : α} (h : x = some a) (f : α → Option β) :
    (x >>= f) = f a := by
  rw [h]
  rfl

/-- A text is read field by field: each one ends at the mark that the next one starts behind. -/
theorem ofChars?_of_fields {cs days hours minutes seconds fraction months : List Char} {year : Int}
    {month day hour minute second nanos : Nat} (hyear : readYear cs = some (year, '-' :: months))
    (hmonth : readNumber 2 months = some (month, '-' :: days))
    (hday : readNumber 2 days = some (day, 'T' :: hours))
    (hhour : readNumber 2 hours = some (hour, ':' :: minutes))
    (hminute : readNumber 2 minutes = some (minute, ':' :: seconds))
    (hsecond : readNumber 2 seconds = some (second, fraction))
    (hnanos : readFraction fraction = some (nanos, ['Z'])) :
    ofChars? cs = ofParts ⟨year, month, day⟩ hour minute second nanos 0 := by
  have hdash (rest : List Char) : readMark '-' ('-' :: rest) = some rest :=
    readMark_cons (by decide) rest
  have hcolon (rest : List Char) : readMark ':' (':' :: rest) = some rest :=
    readMark_cons (by decide) rest
  have hZ : readOffset (skipBlanks ['Z']) = some (0, []) := rfl
  have hend : (skipBlanks []).isEmpty = true := rfl
  unfold ofChars?
  refine (bind_of_eq_some hyear _).trans ?_
  refine (bind_of_eq_some (hdash _) _).trans ((bind_of_eq_some hmonth _).trans ?_)
  refine (bind_of_eq_some (hdash _) _).trans ((bind_of_eq_some hday _).trans ?_)
  refine (bind_of_eq_some rfl _).trans ((bind_of_eq_some hhour _).trans ?_)
  refine (bind_of_eq_some (hcolon _) _).trans ((bind_of_eq_some hminute _).trans ?_)
  refine (bind_of_eq_some (hcolon _) _).trans ((bind_of_eq_some hsecond _).trans ?_)
  refine (bind_of_eq_some hnanos _).trans ((bind_of_eq_some hZ _).trans ?_)
  exact if_pos hend

/-- An instant is read back from its text, settled. -/
theorem Representable.ofText?_text {t : Instant} (h : t.Representable) :
    ofText? t.text = some t.settled := by
  obtain ⟨-, hmonth, -, hday⟩ := Date.valid_ofDays (t.secs / 86400)
  have hlast := Date.daysIn_le (Date.ofDays (t.secs / 86400)).year
    (Date.ofDays (t.secs / 86400)).month
  have hdash : Decimal.isDigit '-' = false := by decide
  have hT : Decimal.isDigit 'T' = false := by decide
  have hcolon : Decimal.isDigit ':' = false := by decide
  have hZ : Decimal.isDigit 'Z' = false := by decide
  have hleap : (if t.nanos ≥ 1000000000 then 1 else 0) ≤ 1 := by split <;> decide
  have hfraction : t.nanos % 1000000000 < 1000000000 := Nat.mod_lt _ (by decide)
  rw [ofText?, text, String.toList_ofList, ← h.ofParts_parts]
  simp only [chars, List.append_assoc, List.cons_append]
  exact ofChars?_of_fields (readYear_yearChars _ hdash _) (readTwoDigits (by omega) hdash _)
    (readTwoDigits (by omega) hT _) (readTwoDigits (by omega) hcolon _)
    (readTwoDigits (by omega) hcolon _) (readTwoDigits_fractionChars (by omega) _ hZ _)
    (readFraction_fractionChars hfraction hZ (by decide) _)

theorem Representable.ofText?_text_self {t : Instant} (h : t.Representable)
    (hends : t.LeapEndsMinute) : ofText? t.text = some t := by
  rw [h.ofText?_text, settled_eq_self_iff.2 hends]

/-- A leap second inside a minute is written like the second behind it, and read back as that. -/
example : ofText? (text ⟨4, 1500000000⟩) = some ⟨5, 500000000⟩ :=
  Representable.ofText?_text ⟨by decide, by decide⟩

end PayOnce.Instant
