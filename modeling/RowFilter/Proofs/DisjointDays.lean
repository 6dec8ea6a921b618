import RowFilter.Proofs.Trichotomy
/-!
# Days that overlap

A day has all instants from the first to the last at which the clock shows it, and what the clock
shows between is not asked. So where the clock is set back over midnight, the day before ends after
the next has started, and the instants between are in both.

Results:
* `Zone.exists_setsBackOver`: days that overlap have such a midnight between them.
* `days_disjoint_iff`: when days are disjoint, and what then follows of their operators.
* `not_days_disjoint`: two days that share an hour.
-/
namespace RowFilter

open Sql

namespace Zone

/-- Whether a range goes from the start of a day to its end. -/
structure HasDayRange (z : Zone) (d : Date) (r : DateRange) : Prop where
  start : z.startOfDay d = .ok r.start
  stop : z.endOfDay d = .ok r.stop

/-- Whether the clock is set back at a transition over the midnight that begins a day. -/
def SetsBackOver (z : Zone) (u : Transition) (d : Date) : Prop :=
  d ≤ z.dateAt ⟨u.second - 1, 0⟩ ∧ z.dateAt ⟨u.second, 0⟩ < d

instance (z : Zone) (u : Transition) (d : Date) : Decidable (z.SetsBackOver u d) :=
  inferInstanceAs (Decidable (_ ∧ _))

variable {z : Zone} {first second : Date} {r r' : DateRange}

/-- Days that overlap have a midnight between them over which the clock is set back. -/
theorem exists_setsBackOver (h : first < second) (hr : z.HasDayRange first r)
    (hr' : z.HasDayRange second r') (hle : r'.start.instant ≤ r.stop.instant) :
    ∃ u ∈ z.transitions, z.SetsBackOver u second ∧ r'.start.instant.seconds < u.second
      ∧ u.second ≤ r.stop.instant.seconds + 1 := by
  rw [Date.lt_def] at h
  obtain ⟨hearly, -, hnanos⟩ := seconds_startOfDay hr'.start
  obtain ⟨hnanos', hend⟩ := seconds_endOfDay hr.stop
  rw [Instant.le_def] at hle
  -- the clock shows the later day first, and an earlier one in the second after the end
  have hback : ∃ e, r'.start.instant.seconds ≤ e ∧ e ≤ r.stop.instant.seconds + 1
      ∧ z.shown e < second.dayNumber * 86400 := by
    rcases hend with hlast | ⟨next, hnext, hseconds⟩
    · exact ⟨r.stop.instant.seconds, by omega, by omega, by omega⟩
    · obtain ⟨-, hlate, -⟩ := seconds_startOfDay hnext
      rw [hseconds, Date.dayNumber_plusDays] at hlate
      have hday : first.dayNumber + 1 ≠ second.dayNumber := by
        intro hday
        -- the day before ends where this one starts, and not after it
        have hsame : first.plusDays 1 = second := Date.eq_of_dayNumber hday
        rw [hsame] at hnext
        cases hnext.symm.trans hr'.start
        omega
      exact ⟨r.stop.instant.seconds + 1, by omega, by omega, by omega⟩
  obtain ⟨e, hstart, hstop, hshown⟩ := hback
  obtain ⟨u, hu, hlt, hue, hbefore, hafter⟩ := exists_setBack hstart hearly hshown
  refine ⟨u, hu, ⟨?_, ?_⟩, hlt, by omega⟩
  · show second.dayNumber ≤ z.shown (u.second - 1) / 86400
    omega
  · show z.shown u.second / 86400 < second.dayNumber
    omega

end Zone

/-! ## Operators on two days -/

/-- Whether a value is a date filter for a day. -/
def Clock.NamesDay (c : Clock) (v : Json) (d : Date) : Prop :=
  ∃ f, DateFilter.decode v = .ok f ∧ f.mode.isDay = true
    ∧ f.days c.zone (c.zone.dateAt c.now) = .ok (d, d)

theorem Clock.NamesDay.isDayRange {c : Clock} {v : Json} {d : Date} {r : DateRange}
    (h : c.NamesDay v d) (hr : c.zone.HasDayRange d r) : c.IsDayRange v r := by
  obtain ⟨f, hdecode, hday, hdays⟩ := h
  exact ⟨f, hdecode, hday, DateFilter.resolve_eq_ok_iff.mpr ⟨d, d, hdays, hr.start, hr.stop⟩⟩

/-- A day ends before a later one starts exactly if the clock is not set back, between the start of
the later and the end of the earlier one, over the midnight that begins the later one. Then, in
either dialect, no instant is on both days, and one that is on the earlier is before the later. -/
theorem days_disjoint_iff {z : Zone} {first second : Date} {r r' : DateRange}
    (h : first < second) (hr : z.HasDayRange first r) (hr' : z.HasDayRange second r') :
    (r.stop.instant < r'.start.instant ↔ ∀ u ∈ z.transitions, z.SetsBackOver u second →
      ¬ (r'.start.instant.seconds < u.second ∧ u.second ≤ r.stop.instant.seconds + 1))
    ∧ (r.stop.instant < r'.start.instant →
      ∀ (t : Target) (now : Instant) (v v' : Json), t.clock = ⟨z, now⟩ →
        t.column.kind = .datetime → t.column.cardinality = .single → t.clock.NamesDay v first →
        t.clock.NamesDay v' second →
        ∃ on on' before' : Predicate, t.predicate .equals v = .ok on
          ∧ t.predicate .equals v' = .ok on' ∧ t.predicate .before v' = .ok before'
          ∧ ∀ (e : Engine) (s : Scope) (cell : Instant), e.ComparesInstants →
            s.row t.table t.column.dbName = some (.timestamp cell) → on.eval t.dialect e s = .yes →
            on'.eval t.dialect e s ≠ .yes ∧ before'.eval t.dialect e s = .yes) := by
  refine ⟨⟨fun hlt u _ _ hbetween => ?_, fun hnone => ?_⟩, ?_⟩
  · simp only [Instant.lt_def] at hlt
    have hnanos := (Zone.seconds_endOfDay hr.stop).1
    have hnanos' := (Zone.seconds_startOfDay hr'.start).2.2
    omega
  · by_contra hlt
    obtain ⟨u, hu, hback, hbetween⟩ := Zone.exists_setsBackOver h hr hr' (Instant.not_lt.mp hlt)
    exact hnone u hu hback hbetween
  · intro hlt t now v v' hclock hkind hsingle hv hv'
    have hzone : t.clock.zone = z := by rw [hclock]
    have hrange := hv.isDayRange (hzone ▸ hr)
    have hrange' := hv'.isDayRange (hzone ▸ hr')
    refine ⟨_, _, _, t.predicate_of_isDayRange hkind hrange .equals,
      t.predicate_of_isDayRange hkind hrange' .equals,
      t.predicate_of_isDayRange hkind hrange' .before, fun e s cell he hcell hon => ?_⟩
    have hholds (o : DayRelation) (r : DateRange) :=
      t.eval_dateTest hsingle (o.bounds_test_ne_nil r) he hcell
    rw [hholds .equals r] at hon
    rw [ne_eq, hholds .equals r', hholds .before r']
    simp only [DayRelation.test, ValueTest.admits, Instant.lt_def] at *
    omega

/-- Two days in São Paulo, where the clocks were set back at the midnight between them: the hour
before it came twice, and both are on the earlier day. -/
theorem days_disjoint_repeatedHour :
    let z := Zone.America.saoPaulo
    let t : Target := ⟨.postgres, dueColumn, none, ⟨z, ⟨1710504000, 0⟩⟩⟩
    ∃ r r', z.HasDayRange ⟨17943⟩ r ∧ z.HasDayRange ⟨17944⟩ r' ∧ r.stop.instant < r'.start.instant
      ∧ t.clock.NamesDay (.onDate "2019-02-16") ⟨17943⟩
      ∧ t.clock.NamesDay (.onDate "2019-02-17") ⟨17944⟩
      ∧ ∃ on on' : Predicate, t.predicate .equals (.onDate "2019-02-16") = .ok on
        ∧ t.predicate .equals (.onDate "2019-02-17") = .ok on'
        ∧ ∀ cell : Instant, on.eval .postgres instantDatabase (.ofInstant cell) = .yes →
          on'.eval .postgres instantDatabase (.ofInstant cell) ≠ .yes := by
  intro z t
  have hr : z.HasDayRange ⟨17943⟩
      ⟨⟨⟨1550282400, 0⟩, -7200⟩, ⟨⟨1550372399, 999_000_000⟩, -10800⟩⟩ :=
    ⟨by decide +kernel, by decide +kernel⟩
  have hr' : z.HasDayRange ⟨17944⟩
      ⟨⟨⟨1550372400, 0⟩, -10800⟩, ⟨⟨1550458799, 999_000_000⟩, -10800⟩⟩ :=
    ⟨by decide +kernel, by decide +kernel⟩
  have hv : t.clock.NamesDay (.onDate "2019-02-16") ⟨17943⟩ :=
    ⟨⟨.exactDate, none, some "2019-02-16"⟩, rfl, rfl, by decide +kernel⟩
  have hv' : t.clock.NamesDay (.onDate "2019-02-17") ⟨17944⟩ :=
    ⟨⟨.exactDate, none, some "2019-02-17"⟩, rfl, rfl, by decide +kernel⟩
  obtain ⟨hiff, hpredicates⟩ := days_disjoint_iff (by decide) hr hr'
  have hlt := hiff.mpr (by decide +kernel)
  obtain ⟨on, on', _, hon, hon', -, hholds⟩ :=
    hpredicates hlt t _ (.onDate "2019-02-16") (.onDate "2019-02-17") rfl rfl rfl hv hv'
  exact ⟨_, _, hr, hr', hlt, hv, hv', on, on', hon, hon', fun cell h =>
    (hholds instantDatabase (.ofInstant cell) cell comparesInstants_instantDatabase rfl h).1⟩

/-- In St. John's the clocks were set back by an hour at one minute past midnight, so that the
evening before came again, and the first minute of the day is on the day before as well. -/
theorem not_days_disjoint :
    let z := Zone.America.stJohns
    let t : Target := ⟨.sqlite, dueColumn, none, ⟨z, ⟨1710504000, 0⟩⟩⟩
    let cell : Instant := ⟨562127430, 0⟩
    ∃ r r' on on', z.HasDayRange ⟨6505⟩ r ∧ z.HasDayRange ⟨6506⟩ r'
      ∧ r'.start.instant < r.stop.instant
      ∧ t.predicate .equals (.onDate "1987-10-24") = .ok on
      ∧ t.predicate .equals (.onDate "1987-10-25") = .ok on'
      ∧ on.eval .sqlite instantDatabase (.ofInstant cell) = .yes
      ∧ on'.eval .sqlite instantDatabase (.ofInstant cell) = .yes := by
  intro z t cell
  have hr : z.HasDayRange ⟨6505⟩
      ⟨⟨⟨562041000, 0⟩, -9000⟩, ⟨⟨562130999, 999_000_000⟩, -12600⟩⟩ :=
    ⟨by decide +kernel, by decide +kernel⟩
  have hr' : z.HasDayRange ⟨6506⟩
      ⟨⟨⟨562127400, 0⟩, -9000⟩, ⟨⟨562217399, 999_000_000⟩, -12600⟩⟩ :=
    ⟨by decide +kernel, by decide +kernel⟩
  have hv : t.clock.NamesDay (.onDate "1987-10-24") ⟨6505⟩ :=
    ⟨⟨.exactDate, none, some "1987-10-24"⟩, rfl, rfl, by decide +kernel⟩
  have hv' : t.clock.NamesDay (.onDate "1987-10-25") ⟨6506⟩ :=
    ⟨⟨.exactDate, none, some "1987-10-25"⟩, rfl, rfl, by decide +kernel⟩
  refine ⟨_, _, _, _, hr, hr', by decide, t.predicate_of_isDayRange rfl (hv.isDayRange hr) .equals,
    t.predicate_of_isDayRange rfl (hv'.isDayRange hr') .equals, ?_, ?_⟩
  all_goals
    refine (t.eval_dateTest rfl (DayRelation.equals.bounds_test_ne_nil _)
      comparesInstants_instantDatabase rfl).mpr ?_
    exact ⟨by decide, by decide⟩

end RowFilter
