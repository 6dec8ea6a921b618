import RowFilter.Calendar.Date
/-!
# Dates and their civil form

The day number and the civil form of a date determine each other.

* `year_eq`: a date lies in the one year that begins on or before it and ends after it.
* `civil_ofCivil`, `ofCivil_civil`: the two directions undo each other.
* `isCivil_civil`: the civil form of a date names a day that the calendar has.
-/
namespace RowFilter.Date

/-! ## Years -/

theorem yearStart_succ (y : Int) :
    yearStart (y + 1) = yearStart y + (if isLeapYear y then 366 else 365) := by
  unfold yearStart isLeapYear
  by_cases h4 : y % 4 = 0 <;> by_cases h100 : y % 100 = 0 <;> by_cases h400 : y % 400 = 0 <;>
    simp [h4, h100, h400] <;> omega

theorem yearStart_mono {a b : Int} (h : a ≤ b) : yearStart a ≤ yearStart b := by
  unfold yearStart
  omega

theorem yearStart_year_le (d : Date) : yearStart d.year ≤ d.dayNumber := by
  unfold year
  dsimp only
  split
  · unfold yearStart at *
    omega
  · split <;> omega

theorem lt_yearStart_year_succ (d : Date) : d.dayNumber < yearStart (d.year + 1) := by
  unfold year
  dsimp only
  split
  · rename_i h
    rw [Int.sub_add_cancel]
    exact h
  · split
    · unfold yearStart at *
      omega
    · omega

/-- A date lies in the one year that begins on or before it and ends after it. -/
theorem year_eq {d : Date} {y : Int} (h : yearStart y ≤ d.dayNumber)
    (h' : d.dayNumber < yearStart (y + 1)) : d.year = y := by
  have hl := yearStart_year_le d
  have hr := lt_yearStart_year_succ d
  rcases Int.lt_trichotomy d.year y with hlt | heq | hgt
  · have := yearStart_mono (show d.year + 1 ≤ y by omega)
    omega
  · exact heq
  · have := yearStart_mono (show y + 1 ≤ d.year by omega)
    omega

/-! ## Months -/

theorem daysInMonth_le (leap : Bool) (m : Nat) : daysInMonth leap m ≤ 31 := by
  unfold daysInMonth
  split <;> cases leap <;> simp

theorem daysBeforeMonth_add_lt (leap : Bool) : ∀ m, m < 13 → ∀ n, n < 31 → 1 ≤ m →
    n < daysInMonth leap m → daysBeforeMonth leap m + n < if leap then 366 else 365 := by
  cases leap <;> decide

/-- A day of a month lies in that month. -/
theorem monthFrom_daysBeforeMonth (leap : Bool) : ∀ m, m < 13 → ∀ n, n < 31 → 1 ≤ m →
    n < daysInMonth leap m → monthFrom leap (daysBeforeMonth leap m + n) 12 = m := by
  cases leap <;> decide

/-- Every day of a year lies in one of its months. -/
theorem daysBeforeMonth_monthFrom (leap : Bool) : ∀ n, n < (if leap then 366 else 365) →
    1 ≤ monthFrom leap n 12 ∧ monthFrom leap n 12 ≤ 12 ∧
      daysBeforeMonth leap (monthFrom leap n 12) ≤ n ∧
      n < daysBeforeMonth leap (monthFrom leap n 12) + daysInMonth leap (monthFrom leap n 12) := by
  cases leap <;> decide +kernel

/-! ## Civil dates -/

/-- The date of a year, month and day has them as its civil form. -/
theorem civil_ofCivil {c : Civil} (h : isCivil c = true) : (ofCivil c).civil = c := by
  obtain ⟨y, m, n⟩ := c
  simp only [isCivil, Bool.and_eq_true, decide_eq_true_eq] at h
  obtain ⟨⟨⟨hm1, hm12⟩, hn1⟩, hn⟩ := h
  have hd := daysInMonth_le (isLeapYear y) m
  have hb := daysBeforeMonth_add_lt (isLeapYear y) m (by omega) (n - 1) (by omega) hm1 (by omega)
  have hm := monthFrom_daysBeforeMonth (isLeapYear y) m (by omega) (n - 1) (by omega) hm1 (by omega)
  have hs := yearStart_succ y
  have hy : (ofCivil ⟨y, m, n⟩).year = y := by
    apply year_eq
    · simp only [ofCivil]
      omega
    · simp only [ofCivil]
      rw [hs]
      by_cases hl : isLeapYear y = true
      · rw [if_pos hl] at hb ⊢
        omega
      · rw [if_neg hl] at hb ⊢
        omega
  have hday : ((ofCivil ⟨y, m, n⟩).dayNumber - yearStart y).toNat
      = daysBeforeMonth (isLeapYear y) m + (n - 1) := by
    simp only [ofCivil]
    omega
  simp only [civil, hy, hday, hm, Civil.mk.injEq, true_and]
  omega

theorem dayOfYear_lt (d : Date) :
    (d.dayNumber - yearStart d.year).toNat < if isLeapYear d.year then 366 else 365 := by
  have hl := yearStart_year_le d
  have hr := lt_yearStart_year_succ d
  rw [yearStart_succ] at hr
  by_cases h : isLeapYear d.year = true
  · rw [if_pos h] at hr ⊢
    omega
  · rw [if_neg h] at hr ⊢
    omega

/-- The civil form of a date names a day that the calendar has. -/
theorem isCivil_civil (d : Date) : isCivil d.civil = true := by
  obtain ⟨h1, h12, hle, hlt⟩ := daysBeforeMonth_monthFrom (isLeapYear d.year) _ (dayOfYear_lt d)
  simp only [isCivil, Bool.and_eq_true, decide_eq_true_eq]
  simp only [civil]
  omega

/-- A date is the date of its civil form. -/
theorem ofCivil_civil (d : Date) : ofCivil d.civil = d := by
  obtain ⟨h1, h12, hle, hlt⟩ := daysBeforeMonth_monthFrom (isLeapYear d.year) _ (dayOfYear_lt d)
  have hl := yearStart_year_le d
  have hn : (ofCivil d.civil).dayNumber = d.dayNumber := by
    simp only [ofCivil, civil]
    omega
  obtain ⟨n⟩ := d
  exact congrArg Date.mk hn

end RowFilter.Date
