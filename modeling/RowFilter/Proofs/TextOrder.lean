import RowFilter.Calendar.Instant.Lemmas
import RowFilter.Proofs.Days
import RowFilter.Proofs.Form
/-!
# Dates compared as texts

Cells of datetime columns hold texts in SQLite, and so do the elements of datetime lists in both
dialects; the bounds of a range are compared with them as texts too. Up to year 9999 that is
the order of time, unless both instants are before year 0. A bound after year 9999 has a
sign in front and sorts before every cell.

Results:
* `Instant.Compared.isMilli`: what date tests compare is whole milliseconds.
* `text_order_of_dates`: the order of bounds and cells as instants and as texts.
* `Criterion.admits_text_iff`: date tests come out the same on texts.
-/
namespace RowFilter

/-! ## Instants that are compared -/

namespace Instant

/-- What a cell holds: whole milliseconds of a year of four digits. -/
structure IsCell (t : Instant) : Prop extends t.IsMilli where
  year_nonneg : 0 ≤ t.year
  year_le : t.year ≤ 9999

/-- An instant that date tests compare: a cell, or a bound of a range. -/
inductive Compared : Instant → Prop
  | cell {t : Instant} (h : t.IsCell) : Compared t
  | start {f : DateFilter} {z : Zone} {now : Instant} {r : DateRange}
    (h : f.resolve z now = .ok r) : Compared r.start.instant
  | stop {f : DateFilter} {z : Zone} {now : Instant} {r : DateRange}
    (h : f.resolve z now = .ok r) : Compared r.stop.instant

theorem Compared.isMilli {t : Instant} (h : t.Compared) : t.IsMilli := by
  cases h with
  | cell h => exact h.toIsMilli
  | start h =>
    obtain ⟨_, _, -, hstart, -⟩ := DateFilter.resolve_eq_ok_iff.mp h
    have hnanos := (Zone.seconds_startOfDay hstart).2.2
    exact ⟨by omega, by omega, by omega⟩
  | stop h =>
    obtain ⟨_, _, -, -, hstop⟩ := DateFilter.resolve_eq_ok_iff.mp h
    have hnanos := (Zone.seconds_endOfDay hstop).1
    exact ⟨by omega, by omega, by omega⟩

end Instant

/-! ## Date tests -/

namespace ValueTest

/-- The instants that a test compares with. -/
def bounds : ValueTest → List Instant
  | during start stop => [start, stop]
  | before t | onOrAfter t | after t | onOrBefore t => [t]
  | _ => []

/-- What a date test says of a cell, under an order of instants. -/
def admits (earlier : Instant → Instant → Prop) (cell : Instant) : ValueTest → Prop
  | during start stop => ¬ earlier cell start ∧ ¬ earlier stop cell
  | before start => earlier cell start
  | onOrAfter start => ¬ earlier cell start
  | after stop => earlier stop cell
  | onOrBefore stop => ¬ earlier stop cell
  | _ => False

/-- A test says the same under orders that agree on what it compares. -/
theorem admits_congr {lt lt' : Instant → Instant → Prop} {cell : Instant} {test : ValueTest}
    (h : ∀ t ∈ test.bounds, (lt cell t ↔ lt' cell t) ∧ (lt t cell ↔ lt' t cell)) :
    test.admits lt cell ↔ test.admits lt' cell := by
  cases test <;> simp_all [bounds, admits]

end ValueTest

namespace Criterion

variable {n : Cardinality} {s : Site} {v : Json}

theorem resolve_of_dateRange {r : DateRange} (h : s.dateRange v = .ok r) :
    ∃ f : DateFilter, f.resolve s.clock.zone s.clock.now = .ok r := by
  obtain ⟨f, -, h⟩ := ok_of_bind h
  refine ⟨f, ?_⟩
  cases hr : f.resolve s.clock.zone s.clock.now with
  | error e => rw [hr] at h; cases h
  | ok r' => rw [hr] at h; exact congrArg _ (Except.ok.inj h)

/-- The instants that a criterion compares with are bounds of ranges. -/
theorem compared_of_read? {q : Criterion n} (h : read? .datetime n s v = some (.ok q))
    {test : ValueTest} (hq : q = .passes test ∨ q = .fails test) :
    ∀ t ∈ test.bounds, t.Compared := by
  have hbounds {r : DateRange} (hr : s.dateRange v = .ok r) :
      r.start.instant.Compared ∧ r.stop.instant.Compared := by
    obtain ⟨f, hf⟩ := resolve_of_dateRange hr
    exact ⟨.start hf, .stop hf⟩
  have hread : readDatetime? s v = some (.ok q) := h
  cases hop : s.op.canonical with
  | isEmpty | isNotEmpty =>
    simp only [readDatetime?, hop] at hread
    rcases hq with rfl | rfl <;> cases hread
  | _ =>
    simp only [readDatetime?, hop, reduceCtorEq] at hread <;> obtain ⟨r, hr, hqr⟩ := of_map hread <;>
      subst hqr <;> rcases hq with hq | hq <;> cases hq <;> simp [ValueTest.bounds, hbounds hr]

end Criterion

/-! ## Text order -/

/-- Bounds and cells up to year 9999 stand in the order of time as texts, unless both are before
year 0; what is after year 9999 comes first as a text and last in time. The texts are of ASCII
characters, so that their order is that of their bytes. -/
theorem text_order_of_dates {a b : Instant} (ha : a.Compared) (hb : b.Compared) :
    (a.year ≤ 9999 → b.year ≤ 9999 → (0 ≤ a.year ∨ 0 ≤ b.year ∨ a.year = b.year) →
      (a < b ↔ a.millisText < b.millisText))
    ∧ (a.year ≤ 9999 → 9999 < b.year → a < b ∧ b.millisText < a.millisText) := by
  constructor
  · intro hay hby h
    exact (Instant.millisText_lt_iff ha.isMilli hb.isMilli hay hby h).symm
  · intro hay hby
    exact ⟨Instant.lt_of_year_lt (by omega), Instant.millisText_lt_of_late hay hby⟩

/-- A leap second is before the day that follows it, as a text too. -/
theorem text_order_leapSecond :
    ∃ a b : Instant, a.Compared ∧ b.Compared ∧ a.millisText = "2016-12-31T23:59:60.250Z"
      ∧ b.millisText = "2017-01-01T00:00:00.000Z" ∧ a.millisText < b.millisText := by
  have ha : Instant.Compared ⟨1483228799, 1_250_000_000⟩ :=
    .cell ⟨⟨by decide, by decide, by decide⟩, by decide, by decide⟩
  have hresolve : DateFilter.resolve ⟨.today, none, none⟩ .utc ⟨1483272000, 0⟩
      = .ok ⟨⟨⟨1483228800, 0⟩, 0⟩, ⟨⟨1483315199, 999_000_000⟩, 0⟩⟩ := rfl
  have hb : Instant.Compared ⟨1483228800, 0⟩ := .start hresolve
  refine ⟨_, _, ha, hb, by decide, by decide, ?_⟩
  exact ((text_order_of_dates ha hb).1 (by decide) (by decide) (by decide)).mp (by decide)

/-- The week from the last day of 9999 has its bounds in the order of time, and not as texts. -/
theorem not_text_order_nextWeek :
    ¬ ∀ a b : Instant, a.Compared → b.Compared → (a < b ↔ a.millisText < b.millisText) := by
  intro h
  have hresolve : DateFilter.resolve ⟨.nextWeek, none, none⟩ .utc ⟨253402257600, 0⟩
      = .ok ⟨⟨⟨253402214400, 0⟩, 0⟩, ⟨⟨253402905599, 999_000_000⟩, 0⟩⟩ := rfl
  exact absurd ((h _ _ (.start hresolve) (.stop hresolve)).mp (by decide)) (by decide)

/-- A date test says of the text of a cell what it says of the cell, if its bounds are not after
year 9999. -/
theorem Criterion.admits_text_iff {n : Cardinality} {s : Site} {v : Json} {q : Criterion n}
    (h : read? .datetime n s v = some (.ok q)) {test : ValueTest}
    (hq : q = .passes test ∨ q = .fails test) {cell : Instant} (hcell : cell.IsCell)
    (hyear : ∀ t ∈ test.bounds, t.year ≤ 9999) :
    test.admits (fun a b => a.millisText < b.millisText) cell ↔ test.admits (· < ·) cell := by
  refine ValueTest.admits_congr fun t ht => ?_
  have hbound := (compared_of_read? h hq t ht).isMilli
  exact ⟨Instant.millisText_lt_iff hcell.toIsMilli hbound hcell.year_le (hyear t ht)
      (.inl hcell.year_nonneg),
    Instant.millisText_lt_iff hbound hcell.toIsMilli (hyear t ht) hcell.year_le
      (.inr (.inl hcell.year_nonneg))⟩

end RowFilter
