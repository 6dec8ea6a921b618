import Mathlib.Algebra.Group.Nat.Defs
import Mathlib.Data.List.Forall2
import RowFilter.Calendar.Date.Lemmas
import RowFilter.Calendar.Instant
/-!
# The order of instants and of their texts

Within a year the texts of instants stand in the order of the instants: after the year they
are numbers of fixed width between the same marks. How the years compare as texts is another
matter, since a year of more than four digits or before year 0 has a sign.

* `Date.padded_lt_iff`: numbers of the same width compare as their texts do.
* `Instant.lt_iff_of_year_eq`: instants of one year compare as their civil forms do.
* `Instant.millisText_lt_iff_of_year_eq`: and as their texts do.
-/
namespace RowFilter

/-! ## Lexicographic order -/

/-- Lists that begin with parts of one length compare as these do, and then as the rest does. -/
theorem append_lt_append_iff {α : Type} [LT α] {xs ys us vs : List α}
    (h : xs.length = ys.length) : xs ++ us < ys ++ vs ↔ xs < ys ∨ xs = ys ∧ us < vs := by
  induction xs generalizing ys with
  | nil =>
    cases ys with
    | nil => simp
    | cons y ys => cases h
  | cons x xs ih =>
    cases ys with
    | nil => cases h
    | cons y ys =>
      rw [List.cons_append, List.cons_append, List.cons_lt_cons_iff, List.cons_lt_cons_iff,
        ih (Nat.succ.inj h), List.cons.injEq]
      tauto

namespace Date

/-! ## Digits -/

/-- The last digits of a number. -/
def lastDigits : Nat → Nat → List Char
  | 0, _ => []
  | width + 1, n => lastDigits width (n / 10) ++ [(n % 10).digitChar]

@[simp] theorem length_lastDigits (width n : Nat) : (lastDigits width n).length = width := by
  induction width generalizing n with
  | zero => rfl
  | succ width ih => rw [lastDigits, List.length_append, ih, List.length_singleton]

theorem lastDigits_zero (width : Nat) : lastDigits width 0 = List.replicate width '0' := by
  induction width with
  | zero => rfl
  | succ width ih => rw [lastDigits, Nat.zero_div, ih, List.replicate_succ']; rfl

theorem digitChar_lt_iff : ∀ m, m < 10 → ∀ n, n < 10 → (m.digitChar < n.digitChar ↔ m < n) := by
  decide

theorem digitChar_inj : ∀ m, m < 10 → ∀ n, n < 10 → m.digitChar = n.digitChar → m = n := by
  decide

theorem lastDigits_inj {width m n : Nat} (hm : m < 10 ^ width) (hn : n < 10 ^ width)
    (h : lastDigits width m = lastDigits width n) : m = n := by
  induction width generalizing m n with
  | zero => omega
  | succ width ih =>
    rw [Nat.pow_succ] at hm hn
    obtain ⟨hinit, hlast⟩ := List.append_inj h (by simp)
    have hdiv := ih (by omega) (by omega) hinit
    have hmod := digitChar_inj (m % 10) (by omega) (n % 10) (by omega) (List.head_eq_of_cons_eq hlast)
    omega

/-- Numbers that fit into a width compare as their digits do. -/
theorem lastDigits_lt_iff {width m n : Nat} (hm : m < 10 ^ width) (hn : n < 10 ^ width) :
    lastDigits width m < lastDigits width n ↔ m < n := by
  induction width generalizing m n with
  | zero =>
    rw [lastDigits, lastDigits]
    simp only [List.lt_irrefl, false_iff]
    omega
  | succ width ih =>
    rw [Nat.pow_succ] at hm hn
    have hlt := ih (show m / 10 < 10 ^ width by omega) (show n / 10 < 10 ^ width by omega)
    have heq : lastDigits width (m / 10) = lastDigits width (n / 10) ↔ m / 10 = n / 10 :=
      ⟨lastDigits_inj (by omega) (by omega), fun h => by rw [h]⟩
    have hdigit := digitChar_lt_iff (m % 10) (by omega) (n % 10) (by omega)
    rw [lastDigits, lastDigits, append_lt_append_iff (by simp), hlt, heq, List.cons_lt_cons_iff,
      hdigit]
    simp only [List.lt_irrefl, and_false, or_false]
    omega

/-- A number that fits into the width is padded to its last digits. -/
theorem toList_padded {width n : Nat} (hw : 0 < width) (hn : n < 10 ^ width) :
    (padded width n).toList = lastDigits width n := by
  have hdigits : List.replicate (width - (Nat.toDigits 10 n).length) '0' ++ Nat.toDigits 10 n
      = lastDigits width n := by
    induction width generalizing n with
    | zero => omega
    | succ width ih =>
      rw [Nat.pow_succ] at hn
      rw [lastDigits, Nat.toDigits_eq_if (by decide)]
      by_cases h : n < 10
      · rw [if_pos h, Nat.div_eq_of_lt h, lastDigits_zero, Nat.mod_eq_of_lt h]
        rfl
      · have hpos : 0 < width := by
          rcases Nat.eq_zero_or_pos width with rfl | hpos
          · omega
          · exact hpos
        rw [if_neg h, List.length_append, List.length_singleton, Nat.add_sub_add_right,
          ← List.append_assoc, ih hpos (by omega)]
  rw [padded, String.toList_ofList, hdigits]

end Date

/-! ## Numbers between marks -/

/-- A number of fixed width after a mark. -/
structure TimePart where
  mark : Char
  width : Nat
  value : Nat

namespace TimePart

def chars (p : TimePart) : List Char := p.mark :: (Date.padded p.width p.value).toList

/-- The same mark and width, into which both numbers fit. -/
structure Alike (p q : TimePart) : Prop where
  mark : p.mark = q.mark
  width : p.width = q.width
  pos : 0 < p.width
  fits : p.value < 10 ^ p.width
  fits_right : q.value < 10 ^ p.width

/-- Texts of numbers between the same marks compare as the numbers do. -/
theorem flatMap_chars_lt_iff {ps qs : List TimePart} (h : List.Forall₂ Alike ps qs)
    (rest : List Char) :
    ps.flatMap chars ++ rest < qs.flatMap chars ++ rest ↔ ps.map value < qs.map value := by
  induction h with
  | nil => simp
  | @cons p q ps qs hpq _ ih =>
    have hp : (Date.padded p.width p.value).toList = Date.lastDigits p.width p.value :=
      Date.toList_padded hpq.pos hpq.fits
    have hq : (Date.padded q.width q.value).toList = Date.lastDigits p.width q.value := by
      rw [← hpq.width]
      exact Date.toList_padded hpq.pos hpq.fits_right
    have heq : Date.lastDigits p.width p.value = Date.lastDigits p.width q.value
        ↔ p.value = q.value :=
      ⟨Date.lastDigits_inj hpq.fits hpq.fits_right, fun h => by rw [h]⟩
    rw [List.flatMap_cons, List.flatMap_cons, chars, chars, hp, hq, hpq.mark, List.cons_append,
      List.cons_append, List.cons_append, List.cons_append, List.cons_lt_cons_iff,
      List.append_assoc, List.append_assoc, append_lt_append_iff (by simp),
      Date.lastDigits_lt_iff hpq.fits hpq.fits_right, heq, ih, List.map_cons, List.map_cons,
      List.cons_lt_cons_iff]
    simp only [Char.lt_irrefl, true_and, false_or]

end TimePart

/-! ## Dates of one year -/

namespace Date

/-- The months of a year follow each other. -/
theorem daysBeforeMonth_add_le (leap : Bool) : ∀ m, m < 13 → ∀ m', m' < 13 → 1 ≤ m → m < m' →
    daysBeforeMonth leap m + daysInMonth leap m ≤ daysBeforeMonth leap m' := by
  cases leap <;> decide

theorem lt_of_year_lt {d d' : Date} (h : d.year < d'.year) : d.dayNumber < d'.dayNumber := by
  have hle := yearStart_mono (show d.year + 1 ≤ d'.year by omega)
  have hend := lt_yearStart_year_succ d
  have hstart := yearStart_year_le d'
  omega

/-- Dates of one year compare as their months and days do. -/
theorem lt_iff_of_year_eq {d d' : Date} (h : d.year = d'.year) :
    d.dayNumber < d'.dayNumber
      ↔ d.civil.month < d'.civil.month ∨ d.civil.month = d'.civil.month
        ∧ d.civil.day < d'.civil.day := by
  have hd := congrArg dayNumber (ofCivil_civil d)
  have hd' := congrArg dayNumber (ofCivil_civil d')
  have hcivil := isCivil_civil d
  have hcivil' := isCivil_civil d'
  have hyear : d.civil.year = d.year := rfl
  have hyear' : d'.civil.year = d.year := h.symm
  generalize d.civil = c at *
  generalize d'.civil = c' at *
  simp only [isCivil, Bool.and_eq_true, decide_eq_true_eq, ofCivil, hyear, hyear'] at *
  have hle := daysBeforeMonth_add_le (isLeapYear d.year) c.month (by omega) c'.month (by omega)
  have hge := daysBeforeMonth_add_le (isLeapYear d.year) c'.month (by omega) c.month (by omega)
  rcases Nat.lt_trichotomy c.month c'.month with hlt | heq | hgt
  · have := hle (by omega) hlt
    omega
  · rw [heq] at hd
    omega
  · have := hge (by omega) hgt
    omega

end Date

/-! ## Instants of one year -/

namespace Instant

instance : LT Instant :=
  ⟨fun a b => a.seconds < b.seconds ∨ a.seconds = b.seconds ∧ a.nanos < b.nanos⟩

instance (a b : Instant) : Decidable (a < b) :=
  inferInstanceAs (Decidable (a.seconds < b.seconds ∨ a.seconds = b.seconds ∧ a.nanos < b.nanos))

theorem lt_def {a b : Instant} :
    a < b ↔ a.seconds < b.seconds ∨ a.seconds = b.seconds ∧ a.nanos < b.nanos := Iff.rfl

instance : LE Instant :=
  ⟨fun a b => a.seconds < b.seconds ∨ a.seconds = b.seconds ∧ a.nanos ≤ b.nanos⟩

instance (a b : Instant) : Decidable (a ≤ b) :=
  inferInstanceAs (Decidable (a.seconds < b.seconds ∨ a.seconds = b.seconds ∧ a.nanos ≤ b.nanos))

theorem le_def {a b : Instant} :
    a ≤ b ↔ a.seconds < b.seconds ∨ a.seconds = b.seconds ∧ a.nanos ≤ b.nanos := Iff.rfl

theorem not_lt {a b : Instant} : ¬ a < b ↔ b ≤ a := by
  rw [lt_def, le_def]
  omega

/-- The year in universal time. -/
def year (t : Instant) : Int := (t.toLocal 0).date.year

/-- A whole number of milliseconds, of which only a leap second, at the end of a minute, has a
thousand or more. -/
structure IsMilli (t : Instant) : Prop where
  whole : t.nanos % 1_000_000 = 0
  lt : t.nanos < 2_000_000_000
  leap : 1_000_000_000 ≤ t.nanos → t.seconds % 60 = 59

/-- The numbers of the text of an instant after the year. -/
def parts (t : Instant) : List TimePart :=
  let c := (t.toLocal 0).date.civil
  let s := (t.toLocal 0).secondOfDay
  [⟨'-', 2, c.month⟩, ⟨'-', 2, c.day⟩, ⟨'T', 2, s / 3600⟩, ⟨':', 2, s / 60 % 60⟩,
    ⟨':', 2, s % 60 + t.nanos / 1_000_000_000⟩, ⟨'.', 3, t.nanos % 1_000_000_000 / 1_000_000⟩]

/-- The text of an instant is its year and what follows it. -/
theorem toList_millisText (t : Instant) :
    t.millisText.toList
      = (Date.yearText t.year).toList ++ (t.parts.flatMap TimePart.chars ++ ['Z']) := by
  simp [millisText, LocalTime.text, Date.isoText, year, parts, TimePart.chars, toLocal, Date.civil]

theorem lt_of_year_lt {a b : Instant} (h : a.year < b.year) : a < b := by
  have hday := Date.lt_of_year_lt h
  simp only [toLocal, LocalTime.date, Int.add_zero] at hday
  rw [lt_def]
  omega

/-- Times of one day compare as hour, minute, second and millisecond do. -/
theorem timeOfDay_lt_iff {x x' n n' : Nat} (hn : n % 1_000_000 = 0) (hn' : n' % 1_000_000 = 0)
    (hlt : n < 2_000_000_000) (hlt' : n' < 2_000_000_000)
    (hleap : 1_000_000_000 ≤ n → x % 60 = 59) (hleap' : 1_000_000_000 ≤ n' → x' % 60 = 59) :
    x < x' ∨ x = x' ∧ n < n'
      ↔ x / 3600 < x' / 3600 ∨ x / 3600 = x' / 3600 ∧ (x / 60 % 60 < x' / 60 % 60
        ∨ x / 60 % 60 = x' / 60 % 60 ∧ (x % 60 + n / 1_000_000_000 < x' % 60 + n' / 1_000_000_000
          ∨ x % 60 + n / 1_000_000_000 = x' % 60 + n' / 1_000_000_000
            ∧ n % 1_000_000_000 / 1_000_000 < n' % 1_000_000_000 / 1_000_000)) := by
  omega

variable {a b : Instant}

/-- An instant's day decides, and then its time of day. -/
theorem lt_iff_day_lt {a b : Instant} :
    a < b ↔ (a.toLocal 0).date.dayNumber < (b.toLocal 0).date.dayNumber
      ∨ (a.toLocal 0).date.dayNumber = (b.toLocal 0).date.dayNumber
        ∧ ((a.toLocal 0).secondOfDay < (b.toLocal 0).secondOfDay
          ∨ (a.toLocal 0).secondOfDay = (b.toLocal 0).secondOfDay ∧ a.nanos < b.nanos) := by
  simp only [lt_def, toLocal, LocalTime.date, LocalTime.secondOfDay]
  omega

variable {a b : Instant} (ha : a.IsMilli) (hb : b.IsMilli)

include ha

/-- In a leap second the second of the day is the last of a minute. -/
theorem IsMilli.leap_secondOfDay (h : 1_000_000_000 ≤ a.nanos) :
    (a.toLocal 0).secondOfDay % 60 = 59 := by
  have hleap := ha.leap h
  simp only [toLocal, LocalTime.secondOfDay]
  omega

/-- The numbers after the year fit between their marks. -/
theorem fits_of_mem_parts : ∀ p ∈ a.parts, p.value < 10 ^ p.width := by
  have hcivil := Date.isCivil_civil (a.toLocal 0).date
  simp only [Date.isCivil, Bool.and_eq_true, decide_eq_true_eq] at hcivil
  have hmonth := Date.daysInMonth_le (Date.isLeapYear (a.toLocal 0).date.civil.year)
    (a.toLocal 0).date.civil.month
  have hsecond : (a.toLocal 0).secondOfDay < 86400 := by
    simp only [LocalTime.secondOfDay]
    omega
  have hnanos := ha.lt
  simp only [parts, List.mem_cons, List.not_mem_nil, or_false, forall_eq_or_imp, forall_eq]
  omega

include hb

/-- Instants of one year compare as the numbers after the year do. -/
theorem lt_iff_of_year_eq (h : a.year = b.year) :
    a < b ↔ a.parts.map TimePart.value < b.parts.map TimePart.value := by
  have hday := Date.lt_iff_of_year_eq h
  have hday' := Date.lt_iff_of_year_eq h.symm
  -- the same day is the same month and day of the month
  have heq : (a.toLocal 0).date.dayNumber = (b.toLocal 0).date.dayNumber
      ↔ (a.toLocal 0).date.civil.month = (b.toLocal 0).date.civil.month
        ∧ (a.toLocal 0).date.civil.day = (b.toLocal 0).date.civil.day := by omega
  rw [lt_iff_day_lt, hday, heq, timeOfDay_lt_iff ha.whole hb.whole ha.lt hb.lt
    ha.leap_secondOfDay hb.leap_secondOfDay]
  simp only [parts, List.map_cons, List.map_nil, List.cons_lt_cons_iff, List.lt_irrefl, and_false,
    or_false]
  rw [or_assoc, and_assoc, ← and_or_left]

theorem alike_parts : List.Forall₂ TimePart.Alike a.parts b.parts := by
  have hfits := fits_of_mem_parts ha
  have hfits' := fits_of_mem_parts hb
  simp only [parts, List.mem_cons, List.not_mem_nil, or_false, forall_eq_or_imp, forall_eq]
    at hfits hfits'
  obtain ⟨hmonth, hday, hhour, hminute, hsecond, hmillis⟩ := hfits
  obtain ⟨hmonth', hday', hhour', hminute', hsecond', hmillis'⟩ := hfits'
  exact .cons ⟨rfl, rfl, Nat.succ_pos _, hmonth, hmonth'⟩
    (.cons ⟨rfl, rfl, Nat.succ_pos _, hday, hday'⟩
      (.cons ⟨rfl, rfl, Nat.succ_pos _, hhour, hhour'⟩
        (.cons ⟨rfl, rfl, Nat.succ_pos _, hminute, hminute'⟩
          (.cons ⟨rfl, rfl, Nat.succ_pos _, hsecond, hsecond'⟩
            (.cons ⟨rfl, rfl, Nat.succ_pos _, hmillis, hmillis'⟩ .nil)))))

/-- Instants of one year compare as their texts do. -/
theorem millisText_lt_iff_of_year_eq (h : a.year = b.year) :
    a.millisText < b.millisText ↔ a < b := by
  show a.millisText.toList < b.millisText.toList ↔ _
  rw [toList_millisText, toList_millisText, h, append_lt_append_iff rfl,
    TimePart.flatMap_chars_lt_iff (alike_parts ha hb), ← lt_iff_of_year_eq ha hb h]
  simp only [List.lt_irrefl, true_and, false_or]

end Instant

/-! ## Instants of different years -/

namespace Date

/-- A year of four digits has no sign. -/
theorem toList_yearText {y : Int} (h : 0 ≤ y) (h' : y ≤ 9999) :
    (yearText y).toList = lastDigits 4 y.natAbs := by
  rw [yearText, if_neg (by omega), if_neg (by omega)]
  exact toList_padded (by decide) (by omega)

/-- A year before year 0 has a sign that sorts before digits. -/
theorem toList_yearText_neg {y : Int} (h : y < 0) :
    (yearText y).toList = '-' :: (padded 4 y.natAbs).toList := by
  rw [yearText, if_pos h]
  simp

/-- A year of more digits has a sign that sorts before digits and before the other sign. -/
theorem toList_yearText_late {y : Int} (h : 9999 < y) :
    (yearText y).toList = '+' :: (padded 4 y.natAbs).toList := by
  rw [yearText, if_neg (by omega), if_pos h]
  simp

theorem zero_le_digitChar : ∀ n, n < 10 → '0' ≤ n.digitChar := by decide

theorem zero_le_of_mem_lastDigits {width n : Nat} {c : Char} (h : c ∈ lastDigits width n) :
    '0' ≤ c := by
  induction width generalizing n with
  | zero => cases h
  | succ width ih =>
    rw [lastDigits, List.mem_append, List.mem_singleton] at h
    rcases h with h | rfl
    · exact ih h
    · exact zero_le_digitChar _ (Nat.mod_lt _ (by decide))

/-- A text that begins with a character before the digits comes before a year of four digits. -/
theorem lt_yearText {y : Int} (h : 0 ≤ y) (h' : y ≤ 9999) {c : Char} (hc : c < '0')
    (cs rest : List Char) : c :: cs < (yearText y).toList ++ rest := by
  rw [toList_yearText h h']
  cases hd : lastDigits 4 y.natAbs with
  | nil => exact absurd (congrArg List.length hd) (by simp)
  | cons d ds =>
    have hmem : d ∈ lastDigits 4 y.natAbs := hd ▸ List.mem_cons_self
    rw [List.cons_append, List.cons_lt_cons_iff]
    exact .inl (Nat.lt_of_lt_of_le hc (zero_le_of_mem_lastDigits hmem))

end Date

namespace Instant

variable {a b : Instant}

/-- Up to year 9999 the text of an earlier year comes first, unless both are before year 0. -/
theorem millisText_lt_of_year_lt (h : a.year < b.year) (h0 : 0 ≤ b.year) (h9 : b.year ≤ 9999) :
    a.millisText < b.millisText := by
  show a.millisText.toList < b.millisText.toList
  rw [toList_millisText, toList_millisText]
  by_cases hneg : a.year < 0
  · rw [Date.toList_yearText_neg hneg]
    exact Date.lt_yearText h0 h9 (by decide) _ _
  · rw [Date.toList_yearText (by omega) (by omega), Date.toList_yearText h0 h9,
      append_lt_append_iff (by simp), Date.lastDigits_lt_iff (by omega) (by omega)]
    exact .inl (by omega)

/-- The text of an instant after year 9999 comes before that of every instant until then. -/
theorem millisText_lt_of_late (h : a.year ≤ 9999) (h' : 9999 < b.year) :
    b.millisText < a.millisText := by
  show b.millisText.toList < a.millisText.toList
  rw [toList_millisText, toList_millisText, Date.toList_yearText_late h', List.cons_append]
  by_cases hneg : a.year < 0
  · rw [Date.toList_yearText_neg hneg, List.cons_append, List.cons_lt_cons_iff]
    exact .inl (by decide)
  · exact Date.lt_yearText (by omega) h (by decide) _ _

/-- Up to year 9999 instants compare as their texts do, unless they are in different years before
year 0. -/
theorem millisText_lt_iff (ha : a.IsMilli) (hb : b.IsMilli) (hay : a.year ≤ 9999)
    (hby : b.year ≤ 9999) (h : 0 ≤ a.year ∨ 0 ≤ b.year ∨ a.year = b.year) :
    a.millisText < b.millisText ↔ a < b := by
  rcases Int.lt_trichotomy a.year b.year with hlt | heq | hgt
  · exact iff_of_true (millisText_lt_of_year_lt hlt (by omega) hby) (lt_of_year_lt hlt)
  · exact millisText_lt_iff_of_year_eq ha hb heq
  · have htext := millisText_lt_of_year_lt hgt (by omega) hay
    have htime := lt_of_year_lt hgt
    exact iff_of_false (List.lt_asymm htext) (by rw [lt_def] at *; omega)

end Instant

end RowFilter
