import RowFilter.Calendar.Zone.America
import RowFilter.Proofs.Complement
import RowFilter.Proofs.Days
import RowFilter.Proofs.TextOrder
/-!
# Dates before, in and after a day

The range of a date filter does not end before it starts: a day starts within three hours of its
midnight and ends where the next one starts or later, and the clock is not set back by as much as
lies between. So five operators on dates say how an instant stands to a range: before it, in it or
after it, or not after it, or not before it.

Results:
* `DateFilter.start_le_stop`: a range does not end before it starts.
* `Target.eval_dateTest`: what the predicate of a date operator says of an instant.
* `dates_trichotomy`: an instant is before a day, in it or after it, and only one of these.
-/
namespace RowFilter

open Sql

/-! ## Ranges -/

/-- A day does not end before the same or an earlier day starts. -/
theorem Zone.startOfDay_le_endOfDay {z : Zone} {first last : Date} {start stop : Zoned}
    (hz : z.SpreadBelow 72000) (h : first ≤ last) (hstart : z.startOfDay first = .ok start)
    (hstop : z.endOfDay last = .ok stop) : start.instant ≤ stop.instant := by
  rw [Date.le_def] at h
  obtain ⟨-, hlate, hnanos⟩ := seconds_startOfDay hstart
  rw [Instant.le_def]
  -- more than twenty hours lie between the two on the clock, and its offsets differ by less
  suffices hlt : start.instant.seconds < stop.instant.seconds from .inl hlt
  obtain ⟨-, hlast | ⟨next, hnext, hseconds⟩⟩ := seconds_endOfDay hstop
  · have hoffset := hz stop.instant start.instant
    unfold shown offsetAt at *
    omega
  · have hearly := (seconds_startOfDay hnext).1
    have hoffset := hz next.instant start.instant
    rw [Date.dayNumber_plusDays] at hearly
    unfold shown offsetAt at *
    omega

/-- A range does not end before it starts. -/
theorem DateFilter.start_le_stop {f : DateFilter} {z : Zone} {now : Instant} {r : DateRange}
    (hz : z.SpreadBelow 72000) (h : f.resolve z now = .ok r) :
    r.start.instant ≤ r.stop.instant := by
  obtain ⟨first, last, hdays, hstart, hstop⟩ := resolve_eq_ok_iff.mp h
  exact Zone.startOfDay_le_endOfDay hz (span?_le (span?_of_days hdays)) hstart hstop

/-! ## Operators on dates -/

/-- How a date may stand to a day. -/
inductive DayRelation
  | before | equals | after | onOrBefore | onOrAfter
  deriving DecidableEq, Repr

namespace DayRelation

def operator : DayRelation → Operator
  | before => .before
  | equals => .equals
  | after => .after
  | onOrBefore => .onOrBefore
  | onOrAfter => .onOrAfter

/-- The test of a relation to the day of a range. -/
def test (o : DayRelation) (r : DateRange) : ValueTest :=
  match o with
  | before => .before r.start.instant
  | equals => .during r.start.instant r.stop.instant
  | after => .after r.stop.instant
  | onOrBefore => .onOrBefore r.stop.instant
  | onOrAfter => .onOrAfter r.start.instant

/-- Whether an instant stands so to the day of a range. -/
def Holds (o : DayRelation) (r : DateRange) (cell : Instant) : Prop :=
  (o.test r).admits (· < ·) cell

theorem bounds_test_ne_nil (o : DayRelation) (r : DateRange) : (o.test r).bounds ≠ [] := by
  cases o <;> exact List.cons_ne_nil _ _

theorem operator_ne_within (o : DayRelation) : o.operator ≠ .within := by cases o <;> decide

theorem read?_operator (o : DayRelation) {n : Cardinality} (id : String) (clock : Clock)
    (v : Json) :
    Criterion.read? .datetime n ⟨id, o.operator, clock⟩ v
      = some ((Criterion.Site.dateRange ⟨id, o.operator, clock⟩ v).map fun r =>
        .passes (o.test r)) := by
  cases o <;> rfl

/-- An instant is before a range, in it or after it, and only one of these. -/
theorem holds_trichotomy {r : DateRange} (hr : r.start.instant ≤ r.stop.instant)
    (cell : Instant) : ∃! o : DayRelation, o ∈ [before, equals, after] ∧ o.Holds r cell := by
  have hsides : ¬ (cell < r.start.instant ∧ r.stop.instant < cell) := by
    simp only [Instant.lt_def, Instant.le_def] at *
    omega
  by_cases hbefore : cell < r.start.instant
  · refine ⟨before, ⟨by decide, hbefore⟩, ?_⟩
    rintro o ⟨ho, hholds⟩
    cases o with
    | before => rfl
    | equals => exact absurd hbefore hholds.1
    | after => exact absurd ⟨hbefore, hholds⟩ hsides
    | _ => exact absurd ho (by decide)
  · by_cases hafter : r.stop.instant < cell
    · refine ⟨after, ⟨by decide, hafter⟩, ?_⟩
      rintro o ⟨ho, hholds⟩
      cases o with
      | before => exact absurd hholds hbefore
      | equals => exact absurd hafter hholds.2
      | after => rfl
      | _ => exact absurd ho (by decide)
    · refine ⟨equals, ⟨by decide, hbefore, hafter⟩, ?_⟩
      rintro o ⟨ho, hholds⟩
      cases o with
      | before => exact absurd hholds hbefore
      | equals => rfl
      | after => exact absurd hholds hafter
      | _ => exact absurd ho (by decide)

theorem holds_onOrBefore_iff {r : DateRange} (hr : r.start.instant ≤ r.stop.instant)
    (cell : Instant) :
    onOrBefore.Holds r cell ↔ before.Holds r cell ∨ equals.Holds r cell := by
  simp only [Holds, test, ValueTest.admits, Instant.lt_def, Instant.le_def] at *
  omega

theorem holds_onOrAfter_iff {r : DateRange} (hr : r.start.instant ≤ r.stop.instant)
    (cell : Instant) :
    onOrAfter.Holds r cell ↔ equals.Holds r cell ∨ after.Holds r cell := by
  simp only [Holds, test, ValueTest.admits, Instant.lt_def, Instant.le_def] at *
  omega

end DayRelation

/-- Whether a comparison holds between instants. -/
def Comparison.holdsAt : Comparison → Instant → Instant → Bool
  | eq, a, b => a = b
  | lt, a, b => a < b
  | le, a, b => ¬ b < a
  | gt, a, b => b < a
  | ge, a, b => ¬ a < b

/-- A database that compares instants as time goes. -/
def Sql.Engine.ComparesInstants (e : Engine) : Prop :=
  ∀ c a b, e.compare c (some (.timestamp a)) (some (.timestamp b)) = .ofBool (c.holdsAt a b)

/-- Whether a value is a date filter for a day and has a range. -/
def Clock.IsDayRange (c : Clock) (v : Json) (r : DateRange) : Prop :=
  ∃ f, DateFilter.decode v = .ok f ∧ f.mode.isDay = true ∧ f.resolve c.zone c.now = .ok r

namespace Target

variable (t : Target) {n : Cardinality}

theorem predicate_operator (hkind : t.column.kind = .datetime) (v : Json) (o : DayRelation) :
    t.predicate o.operator v
      = ((Criterion.Site.dateRange ⟨t.column.id, o.operator, t.clock⟩ v).map fun r =>
        .passes (o.test r)).map (t.ofCriterion (n := t.column.cardinality)) := by
  rw [predicate, hkind, o.read?_operator]

/-- A value that has the range of a day is compared with that range. -/
theorem predicate_of_isDayRange (hkind : t.column.kind = .datetime) {v : Json} {r : DateRange}
    (h : t.clock.IsDayRange v r) (o : DayRelation) :
    t.predicate o.operator v
      = .ok (t.ofCriterion (n := t.column.cardinality) (.passes (o.test r))) := by
  obtain ⟨f, hdecode, hday, hresolve⟩ := h
  rw [t.predicate_operator hkind,
    Criterion.dateRange_of_decode t.column.id t.clock v hdecode o.operator_ne_within, if_pos hday,
    hresolve]
  rfl

/-- A value that has none is refused. -/
theorem predicate_of_not_isDayRange (hkind : t.column.kind = .datetime) {v : Json}
    (h : ∀ r, ¬ t.clock.IsDayRange v r) (o : DayRelation) :
    ∃ x, t.predicate o.operator v = .error x := by
  rw [t.predicate_operator hkind]
  cases hdecode : DateFilter.decode v with
  | error e =>
    rw [Criterion.Site.dateRange, Criterion.Site.dateFilter, hdecode]
    exact ⟨_, rfl⟩
  | ok f =>
    rw [Criterion.dateRange_of_decode t.column.id t.clock v hdecode o.operator_ne_within]
    by_cases hday : f.mode.isDay = true
    · rw [if_pos hday]
      cases hresolve : f.resolve t.clock.zone t.clock.now with
      | error e => exact ⟨_, rfl⟩
      | ok r => exact absurd ⟨f, hdecode, hday, hresolve⟩ (h r)
    · rw [if_neg hday]
      exact ⟨_, rfl⟩

/-- The predicate of a date test on a cell with one value says what the test says. -/
theorem eval_dateTest (hn : n = .single) {test : ValueTest} (htest : test.bounds ≠ []) {e : Engine}
    {s : Scope} {cell : Instant} (he : e.ComparesInstants)
    (hcell : s.row t.table t.column.dbName = some (.timestamp cell)) :
    (t.ofCriterion (n := n) (.passes test)).eval t.dialect e s = .yes
      ↔ test.admits (· < ·) cell := by
  subst hn
  have hterm : t.term.eval e s = some (.timestamp cell) := hcell
  unfold ofCriterion Postgres.predicate Sqlite.predicate
  cases t.dialect <;> cases test <;>
    simp_all [ValueTest.bounds, ValueTest.admits, Postgres.cellTest, Sqlite.valueTest,
      Predicate.eval, he _ _ _, Truth.and_eq_yes, Comparison.holdsAt]

end Target

/-! ## Trichotomy -/

/-- A range does not end before it starts, if the offsets of the zone differ by less than twenty
hours. So on a datetime column with one value, in either dialect, a value that has the range of a
day compiles under all five relations, and each stored instant is before the day, in it or after
it, and only one of these; on or before it are those before it and in it, and on or after it those
in it and after it. Any other value is refused under each relation. -/
theorem dates_trichotomy {z : Zone} (hz : z.SpreadBelow 72000) (now : Instant) :
    (∀ (f : DateFilter) (r : DateRange), f.resolve z now = .ok r →
      r.start.instant ≤ r.stop.instant)
    ∧ ∀ (t : Target) (v : Json), t.clock = ⟨z, now⟩ → t.column.kind = .datetime →
      t.column.cardinality = .single →
      (∃ p : DayRelation → Predicate, (∃ r, t.clock.IsDayRange v r)
        ∧ (∀ o, t.predicate o.operator v = .ok (p o))
        ∧ ∀ (e : Engine) (s : Scope) (cell : Instant), e.ComparesInstants →
          s.row t.table t.column.dbName = some (.timestamp cell) →
          let holds (o : DayRelation) := (p o).eval t.dialect e s = .yes
          (∃! o : DayRelation, o ∈ [.before, .equals, .after] ∧ holds o)
          ∧ (holds .onOrBefore ↔ holds .before ∨ holds .equals)
          ∧ (holds .onOrAfter ↔ holds .equals ∨ holds .after))
      ∨ (∀ r, ¬ t.clock.IsDayRange v r)
        ∧ ∀ o : DayRelation, ∃ x, t.predicate o.operator v = .error x := by
  refine ⟨fun f r h => f.start_le_stop hz h, fun t v hclock hkind hsingle => ?_⟩
  by_cases hrange : ∃ r, t.clock.IsDayRange v r
  · obtain ⟨r, hr⟩ := hrange
    refine .inl ⟨_, ⟨r, hr⟩, t.predicate_of_isDayRange hkind hr, fun e s cell he hcell => ?_⟩
    have hle : r.start.instant ≤ r.stop.instant := by
      obtain ⟨f, -, -, hresolve⟩ := hr
      rw [hclock] at hresolve
      exact f.start_le_stop hz hresolve
    have hholds (o : DayRelation) :
        (t.ofCriterion (n := t.column.cardinality) (.passes (o.test r))).eval t.dialect e s = .yes
          ↔ o.Holds r cell :=
      t.eval_dateTest hsingle (o.bounds_test_ne_nil r) he hcell
    simp only [hholds]
    exact ⟨DayRelation.holds_trichotomy hle cell, DayRelation.holds_onOrBefore_iff hle cell,
      DayRelation.holds_onOrAfter_iff hle cell⟩
  · have hnone (r : DateRange) : ¬ t.clock.IsDayRange v r := fun hr => hrange ⟨r, hr⟩
    exact .inr ⟨hnone, t.predicate_of_not_isDayRange hkind hnone⟩

/-- A database that compares instants. What else it is asked it does not know. -/
def Sql.instantDatabase : Engine :=
  { textDatabase with
    compare
      | c, some (.timestamp a), some (.timestamp b) => .ofBool (c.holdsAt a b)
      | _, _, _ => .unknown }

theorem Sql.comparesInstants_instantDatabase : instantDatabase.ComparesInstants := fun _ _ _ => rfl

/-- A column of dates. -/
def dueColumn : Column := { id := "due", dbName := "due", semanticType := .datetime }

/-- The value that names a date. -/
def Json.onDate (text : String) : Json :=
  .obj [("mode", .str "exactDate"), ("exactDate", .str text)]

/-- A row that has an instant in all its columns. -/
def Sql.Scope.ofInstant (cell : Instant) : Scope :=
  ⟨fun _ _ => some (.timestamp cell), ⟨none, none⟩⟩

/-- On a day that begins an hour after its midnight, which the clock skips. -/
theorem dates_trichotomy_skippedMidnight :
    let z := Zone.America.saoPaulo
    let now : Instant := ⟨1541300400, 0⟩
    let t : Target := ⟨.sqlite, dueColumn, none, ⟨z, now⟩⟩
    let v : Json := .onDate "2018-11-04"
    z.SpreadBelow 72000
    ∧ t.clock.IsDayRange v ⟨⟨⟨1541300400, 0⟩, -7200⟩, ⟨⟨1541383199, 999_000_000⟩, -7200⟩⟩
    ∧ ∃ p : DayRelation → Predicate, (∀ o, t.predicate o.operator v = .ok (p o))
      ∧ ∀ cell : Instant, ∃! o : DayRelation, o ∈ [.before, .equals, .after]
        ∧ (p o).eval .sqlite instantDatabase (.ofInstant cell) = .yes := by
  intro z now t v
  have hz : z.SpreadBelow 72000 := Zone.spreadBelow_of_offsets (by decide +kernel)
  have hrange : t.clock.IsDayRange v
      ⟨⟨⟨1541300400, 0⟩, -7200⟩, ⟨⟨1541383199, 999_000_000⟩, -7200⟩⟩ :=
    ⟨⟨.exactDate, none, some "2018-11-04"⟩, rfl, rfl, by decide +kernel⟩
  rcases (dates_trichotomy hz now).2 t v rfl rfl rfl with ⟨p, -, hp, hholds⟩ | ⟨hnone, -⟩
  · exact ⟨hz, hrange, p, hp, fun cell =>
      (hholds instantDatabase (.ofInstant cell) cell comparesInstants_instantDatabase rfl).1⟩
  · exact absurd hrange (hnone _)

end RowFilter
