import PayOnce.Proofs.Time.Reader
/-!
The order of instants, and how it goes with spans that pass: an instant never comes before the one
that a span has been added to, and between two instants that can be represented there is only so
much time.
-/

namespace PayOnce

namespace Instant

theorem before_iff (a b : Instant) :
    a.before b = true ↔ a.secs < b.secs ∨ a.secs = b.secs ∧ a.nanos < b.nanos := by
  simp [before]

/-- What is still to come at an instant was still to come at every earlier one. -/
theorem before_of_before {a b c : Instant} (hab : b.before a = false) (hbc : b.before c = true) :
    a.before c = true := by
  rw [← Bool.not_eq_true, before_iff] at hab
  rw [before_iff] at hbc ⊢
  omega

/-- A span takes an instant on by its whole seconds at least, and never back. -/
theorem plus_later (t : Instant) (d : Span) : t.secs + d.seconds ≤ (t.plus d).secs ∧
    (t.nanos < 2000000000 → (t.plus d).before t = false) := by
  have hsecs : (d : Int).tdiv 1000000000 = (d.seconds : Int) :=
    Int.tdiv_eq_ediv_of_nonneg (Int.natCast_nonneg d)
  obtain ⟨part, hpart, hlt⟩ :
      ∃ part : Nat, (d : Int).tmod 1000000000 = part ∧ part < 1000000000 :=
    ⟨d % 1000000000, Int.tmod_eq_emod_of_nonneg (Int.natCast_nonneg d), Nat.mod_lt _ (by decide)⟩
  rw [← Bool.not_eq_true, before_iff]
  unfold plus shift
  simp only [hsecs, hpart]
  generalize Span.seconds d = secs
  -- Outside a leap second the nanoseconds may be carried over; inside it they may end it.
  split
  · unfold normalized
    split
    · omega
    · split <;> simp only <;> omega
  · split
    · unfold normalized
      split
      · omega
      · split <;> simp only <;> omega
    · split
      · omega
      · simp only
        omega

/-- A day later is later. -/
theorem before_plus_day (t : Instant) : t.before (t.plus (.ofDays 1)) = true := by
  have hlater := (t.plus_later (.ofDays 1)).1
  have hday : Span.seconds (.ofDays 1) = 86400 := by decide +kernel
  rw [hday] at hlater
  exact (before_iff _ _).2 (.inl (by omega))

end Instant

/-- Years that can be represented are not so many days away. -/
theorem Date.days_bounds {days : Int} (h : Instant.yearInRange (ofDays days).year = true) :
    -100000000 ≤ days ∧ days ≤ 100000000 := by
  have hdays := toDays_ofDays days
  obtain ⟨hlow, hhigh, hday, hlast⟩ := valid_ofDays days
  have hmonth := daysIn_le (ofDays days).year (ofDays days).month
  simp only [Instant.yearInRange, Bool.and_eq_true, decide_eq_true_eq] at h
  generalize ofDays days = date at *
  simp only [toDays] at hdays
  split at hdays <;> split at hdays <;> omega

namespace Instant

instance (t : Instant) : Decidable t.Representable :=
  decidable_of_iff (yearInRange (Date.ofDays (t.secs / 86400)).year = true ∧ t.nanos < 2000000000)
    ⟨fun h => ⟨h.1, h.2⟩, fun h => ⟨h.year, h.nanos⟩⟩

variable {t : Instant}

/-- The seconds of instants that can be represented. -/
theorem Representable.secs_bounds (h : t.Representable) :
    -10000000000000 < t.secs ∧ t.secs < 10000000000000 := by
  have := Date.days_bounds h.year
  omega

/-- Only so much time passes between two instants that can be represented. -/
theorem Representable.seconds_lt (h : t.Representable) {d : Span}
    (hplus : (t.plus d).Representable) : d.seconds < 20000000000000 := by
  have hstart := h.secs_bounds
  have hend := hplus.secs_bounds
  have hlater := (t.plus_later d).1
  omega

end Instant

end PayOnce
