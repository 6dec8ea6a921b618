import RowFilter.Calendar.Zone.America
import RowFilter.Calendar.Zone.Pacific
import RowFilter.Proofs.Days
/-!
# Days that are skipped

Of a day that the clock skips none of the quarter hours is shown at which its start is looked for,
and a date filter that begins with it has no range, although its dates are supported. The end of
such a day is found, since it is that of the day before the next start. A clock that is never set
forward by more than three hours skips no day and no first three hours of one.

Results:
* `Zone.SetsShortly.showsStart`: a clock set forward by three hours at most shows every day's start.
* `resolve_ok_iff_shows`: which date filters have a range.
* `not_resolve_skippedDay`: a week that begins with a day that was skipped.
-/
namespace RowFilter

namespace Zone

variable {z : Zone} {d : Date}

/-- Whether the clock shows a quarter hour at which a day may start. -/
def ShowsStart (z : Zone) (d : Date) : Prop := ∃ s ∈ dayStarts, z.Shows (.atSecond d s 0)

/-- Whether the clock shows the last millisecond of a day. -/
def ShowsEnd (z : Zone) (d : Date) : Prop := z.Shows (.atSecond d 86399 999_000_000)

theorem exists_startOfDay_iff_shows (h : z.Covers d) :
    (∃ r, z.startOfDay d = .ok r) ↔ z.ShowsStart d := by
  rw [exists_startOfDay_iff]
  refine exists_congr fun s => and_congr_right fun hs => ?_
  have hsecond := (mem_dayStarts.mp hs).1
  rw [ne_eq, readings_eq_nil_iff_of_covers h (by omega), not_not]

theorem exists_endOfDay_iff_shows (h : z.Covers d) (h' : z.Covers (d.plusDays 1))
    (hnext : (d.plusDays 1).isSupported = true) :
    (∃ r, z.endOfDay d = .ok r) ↔ z.ShowsEnd d ∨ z.ShowsStart (d.plusDays 1) := by
  rw [exists_endOfDay_iff, exists_startOfDay_iff_shows h', ne_eq,
    readings_eq_nil_iff_of_covers h (by decide), not_not]
  simp only [hnext, true_and]
  rfl

/-- A clock that is set forward by three hours at most, and then not again within a quarter of an
hour. -/
structure SetsShortly (z : Zone) : Prop where
  forward : ∀ u ∈ z.transitions, z.shown u.second ≤ z.shown (u.second - 1) + 1 + 10800
  apart : ∀ u ∈ z.transitions, ∀ u' ∈ z.transitions, u.second < u'.second →
    u.second + 900 ≤ u'.second

/-- Such a clock shows the start of every day: it comes past midnight by three hours at most, and
then it goes on to the next quarter hour. -/
theorem SetsShortly.showsStart (hz : z.SetsShortly) (d : Date) : z.ShowsStart d := by
  obtain ⟨x, hbefore, hafter⟩ := z.exists_passing (d.dayNumber * 86400)
  have hshows (e : Int) (n : Nat) (hn : n ≤ 10800 ∧ n % 900 = 0)
      (h : z.shown e = d.dayNumber * 86400 + n) : z.ShowsStart d :=
    ⟨n, mem_dayStarts.mpr hn, ⟨e, 0⟩, by rw [clock_eq, h]; rfl⟩
  by_cases hset : ∃ u ∈ z.transitions, u.second = x + 1
  · obtain ⟨u, hu, hux⟩ := hset
    have hforward := hz.forward u hu
    rw [hux, Int.add_sub_cancel] at hforward
    -- how far past midnight the clock is set, and how long it takes to the next quarter hour
    obtain ⟨late, hlate⟩ := Int.eq_ofNat_of_zero_le (Int.sub_nonneg_of_le hafter)
    obtain ⟨wait, hwait, hquarter⟩ : ∃ wait, wait < 900 ∧ (late + wait) % 900 = 0 :=
      ⟨(900 - late % 900) % 900, by omega, by omega⟩
    have hgoes : z.shown (x + 1 + wait) = z.shown (x + 1) + wait := shown_add fun u' hu' hin => by
      have := hz.apart u hu u' hu' (by omega)
      omega
    exact hshows (x + 1 + wait) (late + wait) ⟨by omega, hquarter⟩ (by omega)
  · push Not at hset
    have hgoes := shown_succ hset
    exact hshows (x + 1) 0 (by decide) (by omega)

end Zone

/-- A date filter has a range if its first day has a start and its last day an end. -/
theorem DateFilter.exists_resolve_iff {f : DateFilter} {z : Zone} {now : Instant}
    {first last : Date} (h : f.days z (z.dateAt now) = .ok (first, last)) :
    (∃ r, f.resolve z now = .ok r)
      ↔ (∃ start, z.startOfDay first = .ok start) ∧ ∃ stop, z.endOfDay last = .ok stop := by
  constructor
  · rintro ⟨r, hr⟩
    obtain ⟨_, _, hdays, hstart, hstop⟩ := resolve_eq_ok_iff.mp hr
    cases h.symm.trans hdays
    exact ⟨⟨_, hstart⟩, _, hstop⟩
  · rintro ⟨⟨start, hstart⟩, stop, hstop⟩
    exact ⟨⟨start, stop⟩, resolve_eq_ok_iff.mpr ⟨first, last, h, hstart, hstop⟩⟩

/-- Past the search for its days a filter has one reason to fail. -/
theorem DateFilter.resolve_eq_error {f : DateFilter} {z : Zone} {now : Instant}
    {first last : Date} (h : f.days z (z.dateAt now) = .ok (first, last)) {e : DateRangeError}
    (he : f.resolve z now = .error e) : e = .outOfRange := by
  obtain hdays | ⟨days, -, he⟩ := error_of_bind he
  · cases h.symm.trans hdays
  · obtain hstart | ⟨start, -, he⟩ := error_of_bind he
    · exact Zone.startOfDay_eq_error hstart
    · obtain hstop | ⟨stop, -, he⟩ := error_of_bind he
      · exact Zone.endOfDay_eq_error hstop
      · cases he

/-- A well-formed date filter between the years 1 and 9999 has a range exactly if the clock shows
one of the first quarter hours of its first day, and the last millisecond of its last day or one of
the first quarter hours of the day after; else it is out of range. It always has one if the clock
is never set forward by more than three hours and then not again within a quarter of an hour. -/
theorem resolve_ok_iff_shows {z : Zone} (hz : z.WithinDay) {f : DateFilter} {now : Instant}
    {first last : Date} (hspan : f.span? z (z.dateAt now) = some (first, last))
    (hfirst : 1 ≤ first.year) (hlast : last.year ≤ 9999) :
    ((∃ r, f.resolve z now = .ok r)
      ↔ z.ShowsStart first ∧ (z.ShowsEnd last ∨ z.ShowsStart (last.plusDays 1)))
    ∧ (∀ e, f.resolve z now = .error e → e = .outOfRange)
    ∧ (z.SetsShortly → ∃ r, f.resolve z now = .ok r) := by
  have hyears := Date.year_mono (DateFilter.span?_le hspan)
  have hnext := Date.year_mono (last.le_plusDays (show (0 : Int) ≤ 1 by decide))
  have hnext' := last.year_tomorrow_le
  have hsupported : first.isSupported = true := Date.isSupported_of_year (by omega) (by omega)
  have hsupported' : last.isSupported = true := Date.isSupported_of_year (by omega) (by omega)
  have hdays := DateFilter.days_of_span? hspan ⟨hsupported, hsupported'⟩
  have hiff : (∃ r, f.resolve z now = .ok r)
      ↔ z.ShowsStart first ∧ (z.ShowsEnd last ∨ z.ShowsStart (last.plusDays 1)) := by
    rw [DateFilter.exists_resolve_iff hdays,
      Zone.exists_startOfDay_iff_shows (Zone.covers_of_year hz (by omega) (by omega)),
      Zone.exists_endOfDay_iff_shows (Zone.covers_of_year hz (by omega) (by omega))
        (Zone.covers_of_year hz (by omega) (by omega))
        (Date.isSupported_of_year (by omega) (by omega))]
  exact ⟨hiff, fun e => DateFilter.resolve_eq_error hdays,
    fun hshortly => hiff.mpr ⟨hshortly.showsStart first, .inr (hshortly.showsStart _)⟩⟩

/-- Today has a range where its midnight was skipped by an hour. -/
theorem resolve_ok_skippedMidnight :
    let z := Zone.America.saoPaulo
    let now : Instant := ⟨1541300400, 0⟩
    let f : DateFilter := ⟨.today, none, none⟩
    z.WithinDay ∧ f.span? z (z.dateAt now) = some (⟨17839⟩, ⟨17839⟩) ∧ 1 ≤ (Date.mk 17839).year
    ∧ (Date.mk 17839).year ≤ 9999 ∧ ¬ z.Shows (.atSecond ⟨17839⟩ 0 0) ∧ z.SetsShortly
    ∧ ∃ r, f.resolve z now = .ok r := by
  intro z now f
  have hz : z.WithinDay := Zone.withinDay_of_offsets (by decide +kernel)
  have hspan : f.span? z (z.dateAt now) = some (⟨17839⟩, ⟨17839⟩) := by decide +kernel
  have hfirst : 1 ≤ (Date.mk 17839).year := by decide +kernel
  have hlast : (Date.mk 17839).year ≤ 9999 := by decide +kernel
  have hskipped : ¬ z.Shows (.atSecond ⟨17839⟩ 0 0) := by decide +kernel
  have hshortly : z.SetsShortly := ⟨by decide +kernel, by decide +kernel⟩
  exact ⟨hz, hspan, hfirst, hlast, hskipped, hshortly,
    (resolve_ok_iff_shows hz hspan hfirst hlast).2.2 hshortly⟩

/-- Samoa left out 30 December 2011. A week later the week that begins with it is out of range. -/
theorem not_resolve_skippedDay :
    let z := Zone.Pacific.apia
    let now : Instant := ⟨1325808000, 0⟩
    let f : DateFilter := ⟨.pastWeek, none, none⟩
    f.span? z (z.dateAt now) = some (⟨15338⟩, ⟨15345⟩) ∧ 1 ≤ (Date.mk 15338).year
    ∧ (Date.mk 15345).year ≤ 9999 ∧ f.resolve z now = .error .outOfRange := by
  decide +kernel

end RowFilter
