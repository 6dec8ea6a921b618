import RowFilter.Calendar.Zone.America
import RowFilter.Proofs.Days
/-!
# Where a day starts

The start of a day is looked for at its midnight and at the quarter hours after it. Where the clock
skips midnight and goes on between two of them, the day has begun when its start is found. So the
start is the first instant of the day exactly if the clock has not been set into the day earlier.

Results:
* `Zone.startOfDay_le_or_set`: before its start a day is only where the clock was set into it.
* `Zone.startOfDay_first_iff`: what the start of a day is, and when it is the first instant.
* `not_today_contains_now`: a day of which the first minutes are before its start.
-/
namespace RowFilter

namespace Zone

variable {z : Zone} {d : Date} {r : Zoned} {t : Instant}

theorem dateAt_startOfDay (h : z.startOfDay d = .ok r) : z.dateAt r.instant = d := by
  obtain ⟨hearly, hlate, -⟩ := seconds_startOfDay h
  refine Date.eq_of_dayNumber ?_
  rw [dayNumber_dateAt]
  omega

/-- A day does not start after a midnight that the clock shows. -/
theorem startOfDay_le_midnight (h : z.startOfDay d = .ok r) (hd : z.Covers d)
    (ht : z.clock t = .atSecond d 0 0) : r.instant ≤ t := by
  obtain ⟨s, -, hr, hskipped⟩ := of_startOfDay h
  rcases Nat.eq_zero_or_pos s with rfl | hs
  · exact (of_earliest? hr).2 t ht
  · have hnil := hskipped 0 (by decide) hs
    exact absurd ⟨t, ht⟩ ((readings_eq_nil_iff_of_covers hd (by decide)).mp hnil)

/-- An instant is not before the start of its day, unless the clock had been set into the day
already. -/
theorem startOfDay_le_or_set (h : z.startOfDay d = .ok r) (hd : z.Covers d)
    (ht : z.dateAt t = d) :
    r.instant ≤ t ∨ ∃ u ∈ z.transitions, u.second ≤ t.seconds ∧ u.second < r.instant.seconds
      ∧ z.dateAt ⟨u.second, 0⟩ = d := by
  have hday : z.shown t.seconds / 86400 = d.dayNumber := by rw [← dayNumber_dateAt, ht]
  obtain ⟨e, he, hdate, hmidnight | ⟨u, hu, rfl⟩⟩ := exists_entrance hday
  · have hshown : z.clock ⟨e, 0⟩ = .atSecond d 0 0 := by
      simp [clock_eq, hmidnight, LocalTime.atSecond]
    have hle := startOfDay_le_midnight h hd hshown
    refine .inl ?_
    simp only [Instant.le_def] at *
    omega
  · by_cases hlt : u.second < r.instant.seconds
    · exact .inr ⟨u, hu, he, hlt, Date.eq_of_dayNumber hdate⟩
    · have hnanos := (seconds_startOfDay h).2.2
      refine .inl ?_
      rw [Instant.le_def]
      omega

/-- The start of a day is on that day: the first instant at which the clock shows the first of its
quarter hours that it shows at all. It is the first instant of the day exactly if the clock has not
been set into the day earlier, and that is the one reason for which the range of today may start
after now. -/
theorem startOfDay_first_iff (h : z.startOfDay d = .ok r) :
    z.dateAt r.instant = d
    ∧ (∃ s ∈ dayStarts, z.clock r.instant = .atSecond d s 0
        ∧ (∀ i, z.clock i = .atSecond d s 0 → r.instant ≤ i)
        ∧ ∀ s' ∈ dayStarts, s' < s → z.readings (.atSecond d s' 0) = [])
    ∧ (z.Covers d →
        ((∀ t, z.dateAt t = d → r.instant ≤ t)
          ↔ ∀ u ∈ z.transitions, z.dateAt ⟨u.second, 0⟩ = d → r.instant.seconds ≤ u.second)
        ∧ ∀ (f : DateFilter) (now : Instant) (range : DateRange), f.mode = .today →
          z.dateAt now = d → f.resolve z now = .ok range → range.start = r
            ∧ (r.instant ≤ now ∨ ∃ u ∈ z.transitions, u.second ≤ now.seconds
              ∧ u.second < r.instant.seconds ∧ z.dateAt ⟨u.second, 0⟩ = d)) := by
  refine ⟨dateAt_startOfDay h, ?_, fun hd => ⟨⟨fun hfirst u hu hud => ?_, fun hset t ht => ?_⟩, ?_⟩⟩
  · obtain ⟨s, hs, hr, hskipped⟩ := of_startOfDay h
    obtain ⟨hshown, hleast⟩ := of_earliest? hr
    exact ⟨s, hs, hshown, hleast, hskipped⟩
  · have hle := hfirst _ hud
    simp only [Instant.le_def] at hle
    omega
  · rcases startOfDay_le_or_set h hd ht with hle | ⟨u, hu, -, hlt, hud⟩
    · exact hle
    · exact absurd hlt (Int.not_lt.mpr (hset u hu hud))
  · intro f now range hmode hnow hrange
    obtain ⟨first, last, hdays, hstart, -⟩ := DateFilter.resolve_eq_ok_iff.mp hrange
    have htoday : f.days z (z.dateAt now) = .ok (z.dateAt now, z.dateAt now) := by
      rw [DateFilter.days, hmode]
    cases htoday.symm.trans hdays
    rw [hnow] at hstart
    cases h.symm.trans hstart
    exact ⟨rfl, startOfDay_le_or_set h hd hnow⟩

/-- A day whose midnight is skipped by an hour starts with its first instant. -/
theorem startOfDay_first_skippedHour :
    let z := America.saoPaulo
    z.startOfDay ⟨17839⟩ = .ok ⟨⟨1541300400, 0⟩, -7200⟩ ∧ z.Covers ⟨17839⟩
    ∧ ∀ t, z.dateAt t = ⟨17839⟩ → ⟨1541300400, 0⟩ ≤ t := by
  intro z
  have hstart : z.startOfDay ⟨17839⟩ = .ok ⟨⟨1541300400, 0⟩, -7200⟩ := by decide +kernel
  have hz : z.WithinDay := withinDay_of_offsets (by decide +kernel)
  have hcovers : z.Covers ⟨17839⟩ := covers_of_year hz (by decide +kernel) (by decide +kernel)
  obtain ⟨-, -, hfirst⟩ := startOfDay_first_iff hstart
  exact ⟨hstart, hcovers, (hfirst hcovers).1.mpr (by decide +kernel)⟩

/-- The clocks of São Paulo were set forward from midnight to 00:06:28 when 1914 began. The first
quarter hour they showed that day was 00:15, so that what came before it is not in the range of
today, on the very day. -/
theorem not_today_contains_now :
    let z := America.saoPaulo
    let now : Instant := ⟨-1767214320, 0⟩
    ∃ range, DateFilter.resolve ⟨.today, none, none⟩ z now = .ok range
      ∧ z.startOfDay (z.dateAt now) = .ok range.start
      ∧ z.dateAt range.start.instant = z.dateAt now ∧ now < range.start.instant := by
  refine ⟨⟨⟨⟨-1767213900, 0⟩, -10800⟩, ⟨⟨-1767128401, 999_000_000⟩, -10800⟩⟩, ?_⟩
  decide +kernel

end Zone

end RowFilter
