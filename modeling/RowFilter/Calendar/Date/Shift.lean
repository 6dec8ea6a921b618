import Mathlib.Order.Monotone.Basic
import RowFilter.Calendar.Date.Lemmas
/-!
# Shifted dates

On a calendar without end every shift leads to a date, by days and by months. A shift by more
months never leads to an earlier date, although the day of the month is cut to the end of a shorter
month: the months follow each other, and what is cut stays in its month.

* `addDays?_eq_some_iff`, `addMonths?_eq_some_iff`: the shifts that stay within the supported dates.
* `plusMonths_mono`: shifts by months stand in the order of their numbers.
* `plusMonths_neg_one_le`, `plusDays_le_plusMonths_one`: a month is four weeks at least.
* `isSupported_of_year`: which years are supported.
-/
namespace RowFilter.Date

theorem eq_of_dayNumber {a b : Date} (h : a.dayNumber = b.dayNumber) : a = b :=
  congrArg Date.mk h

theorem le_def {a b : Date} : a ≤ b ↔ a.dayNumber ≤ b.dayNumber := Iff.rfl

theorem lt_def {a b : Date} : a < b ↔ a.dayNumber < b.dayNumber := Iff.rfl

/-- The date a number of days later. -/
def plusDays (d : Date) (n : Int) : Date := ⟨d.dayNumber + n⟩

/-- The date a number of months later, on the last day of the month if the month has no such
day. -/
def plusMonths (d : Date) (n : Int) : Date := ofCivil (shiftMonths d.civil n)

@[simp] theorem dayNumber_plusDays (d : Date) (n : Int) :
    (d.plusDays n).dayNumber = d.dayNumber + n := rfl

theorem le_plusDays (d : Date) {n : Int} (h : 0 ≤ n) : d ≤ d.plusDays n := by
  rw [le_def, dayNumber_plusDays]
  omega

theorem plusDays_le (d : Date) {n : Int} (h : n ≤ 0) : d.plusDays n ≤ d := by
  rw [le_def, dayNumber_plusDays]
  omega

/-! ## Supported dates -/

theorem supported?_eq_some_iff {d e : Date} :
    supported? d = some e ↔ d.isSupported = true ∧ d = e := by
  simp [supported?]

theorem addDays?_eq_some_iff {d e : Date} {n : Int} :
    d.addDays? n = some e ↔ (d.plusDays n).isSupported = true ∧ d.plusDays n = e :=
  supported?_eq_some_iff

theorem addMonths?_eq_some_iff {d e : Date} {n : Int} :
    d.addMonths? n = some e ↔ (d.plusMonths n).isSupported = true ∧ d.plusMonths n = e :=
  supported?_eq_some_iff

theorem year_mono {a b : Date} (h : a ≤ b) : a.year ≤ b.year := by
  by_contra hlt
  have hyear := yearStart_mono (show b.year + 1 ≤ a.year by omega)
  have hb := lt_yearStart_year_succ b
  have ha := yearStart_year_le a
  rw [le_def] at h
  omega

theorem year_tomorrow_le (d : Date) : (d.plusDays 1).year ≤ d.year + 1 := by
  by_contra hlt
  have hyear := yearStart_mono (show d.year + 1 + 1 ≤ (d.plusDays 1).year by omega)
  have hend := lt_yearStart_year_succ d
  have hstart := yearStart_year_le (d.plusDays 1)
  rw [yearStart_succ] at hyear
  rw [dayNumber_plusDays] at hstart
  split at hyear <;> omega

theorem isSupported_iff {d : Date} :
    d.isSupported = true ↔ yearStart (-262143) ≤ d.dayNumber ∧ d.dayNumber < yearStart 262143 := by
  simp [isSupported]

theorem isSupported_of_year {d : Date} (h : -262143 ≤ d.year) (h' : d.year ≤ 262142) :
    d.isSupported = true := by
  have hfirst := yearStart_mono h
  have hlast := yearStart_mono (show d.year + 1 ≤ 262143 by omega)
  have hstart := yearStart_year_le d
  have hend := lt_yearStart_year_succ d
  rw [isSupported_iff]
  omega

/-! ## Months -/

theorem le_daysInMonth (leap : Bool) (m : Nat) : 28 ≤ daysInMonth leap m := by
  unfold daysInMonth
  split <;> cases leap <;> simp

/-- The day number of the first of a month, the months numbered from January of year 0. -/
def firstOfMonth (k : Int) : Int :=
  yearStart (k / 12) + daysBeforeMonth (isLeapYear (k / 12)) ((k % 12).toNat + 1)

def lengthOfMonth (k : Int) : Nat := daysInMonth (isLeapYear (k / 12)) ((k % 12).toNat + 1)

theorem le_lengthOfMonth (k : Int) : 28 ≤ lengthOfMonth k := le_daysInMonth _ _

theorem daysBeforeMonth_succ (leap : Bool) (m : Nat) :
    daysBeforeMonth leap (m + 2) = daysBeforeMonth leap (m + 1) + daysInMonth leap (m + 1) := rfl

theorem daysBeforeMonth_december (leap : Bool) :
    daysBeforeMonth leap 12 + daysInMonth leap 12 = if leap then 366 else 365 := by
  cases leap <;> rfl

/-- The months follow each other, over the end of a year too. -/
theorem firstOfMonth_succ (k : Int) : firstOfMonth (k + 1) = firstOfMonth k + lengthOfMonth k := by
  unfold firstOfMonth lengthOfMonth
  by_cases hk : k % 12 = 11
  · have hyear : (k + 1) / 12 = k / 12 + 1 := by omega
    have hmonth : (k + 1) % 12 = 0 := by omega
    have hdays := daysBeforeMonth_december (isLeapYear (k / 12))
    rw [hyear, hmonth, hk, yearStart_succ]
    simp only [daysBeforeMonth, Int.toNat_zero, Int.reduceToNat, Nat.reduceAdd] at hdays ⊢
    split at hdays <;> simp_all <;> omega
  · have hyear : (k + 1) / 12 = k / 12 := by omega
    have hmonth : ((k + 1) % 12).toNat = (k % 12).toNat + 1 := by omega
    rw [hyear, hmonth, daysBeforeMonth_succ]
    omega

theorem firstOfMonth_mono {k l : Int} (h : k ≤ l) : firstOfMonth k ≤ firstOfMonth l :=
  monotone_int_of_le_succ (fun k => by rw [firstOfMonth_succ]; omega) h

/-- The number of the month that a date is in. -/
def monthNumber (d : Date) : Int := 12 * d.civil.year + (d.civil.month - 1 : Nat)

theorem dayNumber_plusMonths (d : Date) (n : Int) :
    (d.plusMonths n).dayNumber
      = firstOfMonth (d.monthNumber + n)
        + min d.civil.day (lengthOfMonth (d.monthNumber + n)) - 1 :=
  rfl

theorem plusMonths_mono (d : Date) {m n : Int} (h : m ≤ n) : d.plusMonths m ≤ d.plusMonths n := by
  have hcivil := isCivil_civil d
  simp only [isCivil, Bool.and_eq_true, decide_eq_true_eq] at hcivil
  rw [le_def, dayNumber_plusMonths, dayNumber_plusMonths]
  by_cases hmn : m = n
  · rw [hmn]
  · -- the later month begins after the end of the earlier one
    have hnext := firstOfMonth_mono (show d.monthNumber + m + 1 ≤ d.monthNumber + n by omega)
    have hlength := le_lengthOfMonth (d.monthNumber + n)
    rw [firstOfMonth_succ] at hnext
    omega

theorem shiftMonths_zero {c : Civil} (h : isCivil c = true) : shiftMonths c 0 = c := by
  obtain ⟨y, m, n⟩ := c
  simp only [isCivil, Bool.and_eq_true, decide_eq_true_eq] at h
  have hyear : (12 * y + (m - 1 : Nat) + 0) / 12 = y := by omega
  have hmonth : ((12 * y + (m - 1 : Nat) + 0) % 12).toNat + 1 = m := by omega
  simp only [shiftMonths, hyear, hmonth, Civil.mk.injEq, true_and]
  omega

theorem plusMonths_zero (d : Date) : d.plusMonths 0 = d := by
  rw [plusMonths, shiftMonths_zero (isCivil_civil d), ofCivil_civil]

theorem day_le_lengthOfMonth (d : Date) : d.civil.day ≤ lengthOfMonth d.monthNumber := by
  have hcivil := isCivil_civil d
  unfold lengthOfMonth monthNumber
  generalize d.civil = c at hcivil ⊢
  simp only [isCivil, Bool.and_eq_true, decide_eq_true_eq] at hcivil
  have hyear : (12 * c.year + (c.month - 1 : Nat)) / 12 = c.year := by omega
  have hmonth : ((12 * c.year + (c.month - 1 : Nat)) % 12).toNat + 1 = c.month := by omega
  rw [hyear, hmonth]
  exact hcivil.2

/-- A date is as many days after the first of its month as its day says. -/
theorem dayNumber_eq (d : Date) :
    d.dayNumber = firstOfMonth d.monthNumber + d.civil.day - 1 := by
  have hzero := dayNumber_plusMonths d 0
  rw [plusMonths_zero, Int.add_zero, Nat.min_eq_left (day_le_lengthOfMonth d)] at hzero
  exact hzero

/-- A month back is four weeks at least, from the end of a longer month too. -/
theorem plusMonths_neg_one_le (d : Date) : d.plusMonths (-1) ≤ d.plusDays (-28) := by
  have hday := dayNumber_eq d
  have hnext := firstOfMonth_succ (d.monthNumber + -1)
  have hlength := le_lengthOfMonth (d.monthNumber + -1)
  rw [Int.neg_add_cancel_right] at hnext
  rw [le_def, dayNumber_plusMonths, dayNumber_plusDays]
  omega

/-- So is a month on, into a shorter month too. -/
theorem plusDays_le_plusMonths_one (d : Date) : d.plusDays 28 ≤ d.plusMonths 1 := by
  have hday := dayNumber_eq d
  have hle := day_le_lengthOfMonth d
  have hnext := firstOfMonth_succ d.monthNumber
  have hlength := le_lengthOfMonth d.monthNumber
  have hlength' := le_lengthOfMonth (d.monthNumber + 1)
  rw [le_def, dayNumber_plusMonths, dayNumber_plusDays]
  omega

theorem le_plusMonths (d : Date) {n : Int} (h : 0 ≤ n) : d ≤ d.plusMonths n := by
  have := plusMonths_mono d h
  rwa [plusMonths_zero] at this

theorem plusMonths_le (d : Date) {n : Int} (h : n ≤ 0) : d.plusMonths n ≤ d := by
  have := plusMonths_mono d h
  rwa [plusMonths_zero] at this

end RowFilter.Date
