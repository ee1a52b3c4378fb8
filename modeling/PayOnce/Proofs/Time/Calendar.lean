import PayOnce.Time.Calendar
/-!
Dates of days. Every day has a date that the calendar has, and the date has this day. The calendar
repeats itself after an era of four hundred years; within an era the year, the month and the day
follow from the number of a day.
-/

namespace PayOnce.Date

/-! ## Years of an era -/

/-- The year that a day of an era lies in, counted from March. -/
def yearOfEra (n : Nat) : Nat :=
  (n - n / 1460 + n / 36524 - n / 146096) / 365

/-- The number of days of an era before one of its years. -/
def startOfYear (y : Nat) : Nat :=
  365 * y + y / 4 - y / 100

/-- The days of an era by centuries of the same length, of which the last day is left over. -/
theorem century_cases {n : Nat} (hn : n < 146097) :
    n / 36524 = 0 ∨ n / 36524 = 1 ∨ n / 36524 = 2 ∨ n / 36524 = 3 ∨ n / 36524 = 4 := by
  omega

/-- The last day of an era belongs to its last century, which is a day longer than the others. -/
theorem yearOfEra_div {n : Nat} (hn : n < 146097) : yearOfEra n / 100 = min (n / 36524) 3 := by
  unfold yearOfEra
  rcases century_cases hn with h | h | h | h | h <;> omega

theorem yearOfEra_lt {n : Nat} (hn : n < 146097) : yearOfEra n < 400 := by
  have hdiv := yearOfEra_div hn
  omega

theorem startOfYear_le {n : Nat} (hn : n < 146097) : startOfYear (yearOfEra n) ≤ n := by
  have hdiv := yearOfEra_div hn
  have hlast : n / 146096 = 0 ∨ n / 146096 = 1 := by omega
  have hyear : yearOfEra n = (n - n / 1460 + n / 36524 - n / 146096) / 365 := rfl
  unfold startOfYear
  rcases century_cases hn with h | h | h | h | h <;> rcases hlast with h' | h' <;> omega

/-- A day comes before the next year. Only the last day of an era, a leap day, is left out. -/
theorem lt_startOfYear_succ {n : Nat} (hn : n < 146096) : n < startOfYear (yearOfEra n + 1) := by
  have hdiv := yearOfEra_div (Nat.lt_succ_of_lt hn)
  have hyear : 365 * yearOfEra n ≤ n - n / 1460 + n / 36524 ∧
      n - n / 1460 + n / 36524 < 365 * (yearOfEra n + 1) := by
    unfold yearOfEra
    omega
  generalize yearOfEra n = y at *
  have hcentury : n / 36524 = 0 ∨ n / 36524 = 1 ∨ n / 36524 = 2 ∨ n / 36524 = 3 := by omega
  have hquarter : n / 1460 ≤ (y + 1) / 4 := by omega
  -- The next year may be the first one of another century.
  have hnext : (y + 1) / 100 = y / 100 ∨ y + 1 = 100 * (y / 100 + 1) := by omega
  unfold startOfYear
  rcases hnext with hnext | hnext <;> rcases hcentury with h | h | h | h <;> omega

theorem yearOfEra_last : yearOfEra 146096 = 399 := rfl

/-! ## Days of a year -/

theorem isLeap_iff (year : Int) :
    isLeap year = true ↔ year % 4 = 0 ∧ (year % 100 ≠ 0 ∨ year % 400 = 0) := by
  simp [isLeap]

/-- A year counted from March has 365 days, and a leap day at its end if the next year has one. -/
theorem dayOfYear_lt (era : Int) {n : Nat} (hn : n < 146097) :
    n - startOfYear (yearOfEra n) < 365 ∨
      (n - startOfYear (yearOfEra n) = 365 ∧ isLeap (yearOfEra n + era * 400 + 1) = true) := by
  by_cases hlast : n = 146096
  · refine .inr ⟨by rw [hlast, yearOfEra_last]; rfl, ?_⟩
    rw [isLeap_iff, hlast, yearOfEra_last]
    omega
  · have hstart := startOfYear_le hn
    have hnext := lt_startOfYear_succ (n := n) (by omega)
    have hyear := yearOfEra_lt hn
    rw [isLeap_iff]
    generalize yearOfEra n = y at *
    have hquarter : (y + 1) / 4 = y / 4 ∨ y + 1 = 4 * (y / 4 + 1) := by omega
    have hcentury : (y + 1) / 100 = y / 100 ∨ y + 1 = 100 * (y / 100 + 1) := by omega
    have hlength : startOfYear (y + 1) = startOfYear y + 365 ∨
        (startOfYear (y + 1) = startOfYear y + 366 ∧ (y + 1) % 4 = 0 ∧ (y + 1) % 100 ≠ 0) := by
      unfold startOfYear
      rcases hquarter with hquarter | hquarter <;>
        rcases hcentury with hcentury | hcentury <;> omega
    omega

/-! ## Months of a year -/

theorem daysIn_le (year : Int) (month : Nat) : daysIn year month ≤ 31 := by
  unfold daysIn
  repeat' split
  all_goals omega

/-- The days of a year before one of its months, both counted from March: 153 days for each five
    months. -/
def startOfMonth (m : Nat) : Nat :=
  (153 * m + 2) / 5

/-- The month that a day of a year falls into, both counted from March. -/
def monthOfYear (d : Nat) : Nat :=
  (5 * d + 2) / 153

theorem startOfMonth_le (d : Nat) : startOfMonth (monthOfYear d) ≤ d := by
  unfold startOfMonth monthOfYear
  omega

theorem lt_startOfMonth_succ (d : Nat) : d < startOfMonth (monthOfYear d + 1) := by
  unfold startOfMonth monthOfYear
  omega

theorem monthOfYear_lt {d : Nat} (hd : d ≤ 365) : monthOfYear d < 12 := by
  unfold monthOfYear
  omega

/-- The month of the calendar that a month counted from March is. -/
def monthFromMarch (m : Nat) : Nat :=
  if m < 10 then m + 3 else m - 9

/-- Every month but February has the days up to the start of the next one. -/
theorem daysIn_monthFromMarch (year : Int) {m : Nat} (hm : m < 11) :
    daysIn year (monthFromMarch m) = startOfMonth (m + 1) - startOfMonth m := by
  have htable : ∀ m < 11, monthFromMarch m ≠ 2 ∧
      (if monthFromMarch m = 4 ∨ monthFromMarch m = 6 ∨ monthFromMarch m = 9 ∨ monthFromMarch m = 11
        then 30 else if 1 ≤ monthFromMarch m ∧ monthFromMarch m ≤ 12 then 31 else 0)
        = startOfMonth (m + 1) - startOfMonth m := by decide
  rw [daysIn, if_neg (htable m hm).1]
  exact (htable m hm).2

/-- The date of a day in a month, where years and months are counted from March. -/
def ofMarch (year : Int) (m day : Nat) : Date :=
  ⟨if monthFromMarch m ≤ 2 then year + 1 else year, monthFromMarch m, day⟩

/-- A day of a year falls into a month that has it. -/
theorem valid_ofMarch {year : Int} {d : Nat}
    (hd : d < 365 ∨ (d = 365 ∧ isLeap (year + 1) = true)) :
    (ofMarch year (monthOfYear d) (d - startOfMonth (monthOfYear d) + 1)).Valid := by
  have hm : monthOfYear d < 12 := monthOfYear_lt (by omega)
  have hmonths : ∀ m < 12, 1 ≤ monthFromMarch m ∧ monthFromMarch m ≤ 12 := by decide
  refine ⟨(hmonths _ hm).1, (hmonths _ hm).2, Nat.succ_pos _, ?_⟩
  have hstart := startOfMonth_le d
  have hnext := lt_startOfMonth_succ d
  by_cases hfebruary : monthOfYear d = 11
  · have hbefore : startOfMonth 11 = 337 := rfl
    simp only [ofMarch, hfebruary, hbefore]
    change d - 337 + 1 ≤ if isLeap (year + 1) then 29 else 28
    split
    · omega
    · next hleap =>
      have hshort : d < 365 := hd.resolve_right fun h => hleap h.2
      omega
  · simp only [ofMarch]
    rw [daysIn_monthFromMarch _ (by omega)]
    omega

theorem year_ofMarch (year : Int) (m day : Nat) :
    (if (ofMarch year m day).month ≤ 2 then (ofMarch year m day).year - 1
      else (ofMarch year m day).year) = year := by
  simp only [ofMarch]
  split <;> omega

theorem month_ofMarch (year : Int) {m : Nat} (hm : m < 12) (day : Nat) :
    (if (ofMarch year m day).month > 2 then (ofMarch year m day).month - 3
      else (ofMarch year m day).month + 9) = m := by
  simp only [ofMarch, monthFromMarch]
  split <;> split <;> omega

theorem toDays_ofMarch (era : Int) {y m day : Nat} (hy : y < 400) (hm : m < 12) (hday : 0 < day) :
    (ofMarch (y + era * 400) m day).toDays
      = era * 146097 + (startOfYear y + startOfMonth m + (day - 1) : Nat) - 719468 := by
  have hera : ((y : Int) + era * 400) / 400 = era := by omega
  have hofEra : (((y : Int) + era * 400) % 400).toNat = y := by omega
  have hofMarch : (ofMarch (y + era * 400) m day).day = day := rfl
  simp only [toDays, year_ofMarch, month_ofMarch _ hm, hera, hofEra, hofMarch]
  unfold startOfYear startOfMonth
  omega

/-! ## Dates and days -/

/-- Every day is the day of an era. -/
theorem exists_era (days : Int) : ∃ (era : Int) (n : Nat), n < 146097 ∧
    days = era * 146097 + n - 719468 := by
  refine ⟨(days + 719468) / 146097, ((days + 719468) % 146097).toNat, ?_, ?_⟩ <;> omega

/-- The date of the day of an era. -/
theorem ofDays_era (era : Int) {n : Nat} (hn : n < 146097) :
    ofDays (era * 146097 + n - 719468) =
      let d := n - startOfYear (yearOfEra n)
      ofMarch (yearOfEra n + era * 400) (monthOfYear d) (d - startOfMonth (monthOfYear d) + 1) := by
  have hera : (era * 146097 + n - 719468 + 719468) / 146097 = era := by omega
  have hday : ((era * 146097 + n - 719468 + 719468) % 146097).toNat = n := by omega
  simp only [ofDays, hera, hday]
  rfl

/-- The date of a day is one that the calendar has. -/
theorem valid_ofDays (days : Int) : (ofDays days).Valid := by
  obtain ⟨era, n, hn, rfl⟩ := exists_era days
  rw [ofDays_era era hn]
  exact valid_ofMarch (dayOfYear_lt era hn)

/-- The day of a day's date is that day. -/
theorem toDays_ofDays (days : Int) : (ofDays days).toDays = days := by
  obtain ⟨era, n, hn, rfl⟩ := exists_era days
  have hyear := startOfYear_le hn
  have hmonth := startOfMonth_le (n - startOfYear (yearOfEra n))
  have hlength := dayOfYear_lt era hn
  rw [ofDays_era era hn]
  rw [toDays_ofMarch era (yearOfEra_lt hn) (monthOfYear_lt (by omega)) (Nat.succ_pos _)]
  omega

end PayOnce.Date
