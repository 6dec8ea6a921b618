import RowFilter.Calendar.Zone.Clock
import RowFilter.DateRange
import RowFilter.Proofs.Requirement
/-!
# The days of date filters

A date filter names a first and a last day, and its range goes from where the one starts to where
the other ends. `DateFilter.span?` gives these two days on a calendar without end; a filter that is
well-formed has no other reason to fail before the days are looked up than that it leaves the
supported dates.

Results:
* `DateFilter.reaches_days`: the days of a filter are those of its span, if these are supported.
* `DateFilter.resolve_eq_ok_iff`: a range goes from the start of the one day to the end of the
  other.
* `Zone.of_startOfDay`: a day starts at the first of its quarter hours that the clock shows.
* `Zone.of_endOfDay`: a day ends with its last millisecond, or before the start of the next.
-/
namespace RowFilter

/-! ## The days a filter names -/

namespace DateFilter

/-- The day that a filter names besides today. There is none if its mode needs a number of days or
a date and has none that suits it. -/
def anchor? (f : DateFilter) (z : Zone) (today : Date) : Option Date :=
  match f.mode with
  | .today => some today
  | .tomorrow => some (today.plusDays 1)
  | .yesterday => some (today.plusDays (-1))
  | .oneWeekAgo | .pastWeek => some (today.plusDays (-7))
  | .oneWeekFromNow | .nextWeek => some (today.plusDays 7)
  | .oneMonthAgo | .pastMonth => some (today.plusMonths (-1))
  | .oneMonthFromNow | .nextMonth => some (today.plusMonths 1)
  | .pastYear => some (today.plusMonths (-12))
  | .nextYear => some (today.plusMonths 12)
  | .daysAgo => (f.numberOfDays.filter (1 ≤ ·)).map fun n => today.plusDays (-n)
  | .daysFromNow => (f.numberOfDays.filter (1 ≤ ·)).map today.plusDays
  | .pastNumberOfDays => (f.numberOfDays.filter (0 ≤ ·)).map fun n => today.plusDays (-n)
  | .nextNumberOfDays => (f.numberOfDays.filter (0 ≤ ·)).map today.plusDays
  | .exactDate => (f.dateIn z).toOption

/-- The first and the last day of a well-formed filter: a day mode has the one it names, and a
window reaches from there to today or from today to there. -/
def span? (f : DateFilter) (z : Zone) (today : Date) : Option (Date × Date) :=
  (f.anchor? z today).map fun d =>
    if f.mode.isDay then (d, d) else if d ≤ today then (d, today) else (today, d)

variable {f : DateFilter} {z : Zone} {today first last : Date}

theorem span?_le (h : f.span? z today = some (first, last)) : first ≤ last := by
  obtain ⟨d, -, hd⟩ := Option.map_eq_some_iff.mp h
  simp only [Date.le_def] at *
  split at hd
  · cases hd
    exact Int.le_refl _
  · split at hd <;> cases hd <;> omega

/-! ## Days that are reached -/

/-- A search that finds what it looks for if that is supported, and says so if it is not. It has
another reason to fail if nothing is looked for. -/
inductive Reaches {α : Type} (supported : α → Prop) : Option α → Except DateRangeError α → Prop
  | ok (a : α) : Reaches supported (some a) (.ok a)
  | outOfRange {a : α} (h : ¬ supported a) : Reaches supported (some a) (.error .outOfRange)
  | error {e : DateRangeError} (h : e ≠ .outOfRange) : Reaches supported none (.error e)

namespace Reaches

variable {α β : Type} {P : α → Prop} {Q : β → Prop} {x : Option α} {y : Except DateRangeError α}

theorem map (h : Reaches P x y) {f g : α → β} (hfg : ∀ a ∈ x, f a = g a)
    (hQ : ∀ a, Q (f a) → P a) : Reaches Q (x.map f) (y.map g) := by
  cases h with
  | ok a =>
    rw [Option.map_some, hfg a rfl]
    exact .ok (g a)
  | outOfRange ha => exact .outOfRange fun hq => ha (hQ _ hq)
  | error he => exact .error he

theorem of_ok (h : Reaches P x y) {a : α} (hy : y = .ok a) : x = some a := by
  subst hy
  cases h
  rfl

theorem of_supported (h : Reaches P x y) {a : α} (hx : x = some a) (ha : P a) : y = .ok a := by
  subst hx
  cases h with
  | ok => rfl
  | outOfRange hna => exact absurd ha hna

end Reaches

/-- A date that is looked up where only supported ones are found. -/
theorem Reaches.supported {d : Date} {x : Option Date} :
    (∀ e, x = some e ↔ d.isSupported = true ∧ d = e) →
      Reaches (·.isSupported = true) (some d) (match x with
        | some d => .ok d
        | none => .error .outOfRange) := by
  intro h
  cases x with
  | some e =>
    obtain ⟨-, rfl⟩ := (h e).mp rfl
    exact .ok d
  | none => exact .outOfRange fun hd => nomatch (h d).mpr ⟨hd, rfl⟩

theorem reaches_addDays (d : Date) (n : Int) :
    Reaches (·.isSupported = true) (some (d.plusDays n)) (addDays d n) :=
  .supported fun _ => Date.addDays?_eq_some_iff

theorem reaches_addMonths (d : Date) (n : Int) :
    Reaches (·.isSupported = true) (some (d.plusMonths n)) (addMonths d n) :=
  .supported fun _ => Date.addMonths?_eq_some_iff

/-- A date that is as many days away as a filter says. -/
theorem reaches_daysFrom (f : DateFilter) (least : Int) (d : Date) (g : Int → Int) :
    Reaches (·.isSupported = true)
      ((f.numberOfDays.filter (least ≤ ·)).map fun n => d.plusDays (g n))
      (do addDays d (g (← f.daysFrom least))) := by
  unfold daysFrom
  cases f.numberOfDays with
  | none => exact .error nofun
  | some n =>
    by_cases h : n < least
    · have hfilter : (some n).filter (least ≤ ·) = none := by simpa using h
      simp only [hfilter, if_pos h]
      exact .error nofun
    · have hfilter : (some n).filter (least ≤ ·) = some n := by simpa using h
      simp only [hfilter, if_neg h]
      exact reaches_addDays d (g n)

theorem reaches_dateIn (f : DateFilter) (z : Zone) :
    Reaches (fun _ => True) (f.dateIn z).toOption (f.dateIn z) := by
  unfold dateIn
  split
  · exact .error nofun
  · exact .error nofun
  · split
    · exact .ok _
    · split
      · exact .ok _
      · exact .error nofun

/-- Whether both days are supported. -/
def BothSupported (p : Date × Date) : Prop := p.1.isSupported = true ∧ p.2.isSupported = true

variable {x : Option Date} {y : Except DateRangeError Date}

theorem Reaches.day (h : Reaches (·.isSupported = true) x y) :
    Reaches BothSupported (x.map fun d => (d, d)) (y.map fun d => (d, d)) :=
  h.map (fun _ _ => rfl) fun _ hp => hp.1

theorem Reaches.since (h : Reaches (·.isSupported = true) x y) (hx : ∀ d ∈ x, d ≤ today) :
    Reaches BothSupported (x.map fun d => if d ≤ today then (d, today) else (today, d))
      (y.map fun d => (d, today)) := by
  refine h.map (fun d hd => if_pos (hx d hd)) fun d hp => ?_
  split at hp
  · exact hp.1
  · exact hp.2

theorem Reaches.till (h : Reaches (·.isSupported = true) x y) (hx : ∀ d ∈ x, today ≤ d) :
    Reaches BothSupported (x.map fun d => if d ≤ today then (d, today) else (today, d))
      (y.map fun d => (today, d)) := by
  refine h.map (fun d hd => ?_) fun d hp => ?_
  · have htill := hx d hd
    split
    · rename_i hsince
      have hsame : d = today := Date.eq_of_dayNumber (by rw [Date.le_def] at *; omega)
      rw [hsame]
    · rfl
  · split at hp
    · exact hp.1
    · exact hp.2

/-- The days of a filter are those of its span, if these are supported. -/
theorem reaches_days (f : DateFilter) (z : Zone) (today : Date) :
    Reaches BothSupported (f.span? z today) (f.days z today) := by
  unfold span? days anchor?
  cases hm : f.mode with
  | today => exact .ok _
  | tomorrow => exact (reaches_addDays today 1).day
  | yesterday => exact (reaches_addDays today (-1)).day
  | oneWeekAgo => exact (reaches_addDays today (-7)).day
  | oneWeekFromNow => exact (reaches_addDays today 7).day
  | oneMonthAgo => exact (reaches_addMonths today (-1)).day
  | oneMonthFromNow => exact (reaches_addMonths today 1).day
  | daysAgo => exact (f.reaches_daysFrom 1 today (- ·)).day
  | daysFromNow => exact (f.reaches_daysFrom 1 today id).day
  | exactDate => exact (f.reaches_dateIn z).map (fun _ _ => rfl) fun _ _ => trivial
  | pastWeek =>
    exact (reaches_addDays today (-7)).since fun | _, rfl => today.plusDays_le (by decide)
  | pastMonth =>
    exact (reaches_addMonths today (-1)).since fun | _, rfl => today.plusMonths_le (by decide)
  | pastYear =>
    exact (reaches_addMonths today (-12)).since fun | _, rfl => today.plusMonths_le (by decide)
  | nextWeek =>
    exact (reaches_addDays today 7).till fun | _, rfl => today.le_plusDays (by decide)
  | nextMonth =>
    exact (reaches_addMonths today 1).till fun | _, rfl => today.le_plusMonths (by decide)
  | nextYear =>
    exact (reaches_addMonths today 12).till fun | _, rfl => today.le_plusMonths (by decide)
  | pastNumberOfDays =>
    refine (f.reaches_daysFrom 0 today (- ·)).since fun d hd => ?_
    obtain ⟨n, hn, rfl⟩ := Option.map_eq_some_iff.mp hd
    have hpos : 0 ≤ n := by simpa using (Option.filter_eq_some_iff.mp hn).2
    exact today.plusDays_le (by omega)
  | nextNumberOfDays =>
    refine (f.reaches_daysFrom 0 today id).till fun d hd => ?_
    obtain ⟨n, hn, rfl⟩ := Option.map_eq_some_iff.mp hd
    have hpos : 0 ≤ n := by simpa using (Option.filter_eq_some_iff.mp hn).2
    exact today.le_plusDays hpos

theorem span?_of_days {p : Date × Date} (h : f.days z today = .ok p) : f.span? z today = some p :=
  (f.reaches_days z today).of_ok h

theorem days_of_span? {p : Date × Date} (h : f.span? z today = some p) (hp : BothSupported p) :
    f.days z today = .ok p :=
  (f.reaches_days z today).of_supported h hp

/-- A range goes from the start of the one day to the end of the other. -/
theorem resolve_eq_ok_iff {now : Instant} {r : DateRange} :
    f.resolve z now = .ok r ↔ ∃ first last, f.days z (z.dateAt now) = .ok (first, last)
      ∧ z.startOfDay first = .ok r.start ∧ z.endOfDay last = .ok r.stop := by
  constructor
  · intro h
    obtain ⟨⟨first, last⟩, hdays, h⟩ := ok_of_bind h
    obtain ⟨start, hstart, h⟩ := ok_of_bind h
    obtain ⟨stop, hstop, h⟩ := ok_of_bind h
    cases h
    exact ⟨first, last, hdays, hstart, hstop⟩
  · rintro ⟨first, last, hdays, hstart, hstop⟩
    unfold resolve
    rw [hdays]
    show (do
      let start ← z.startOfDay first
      let stop ← z.endOfDay last
      return DateRange.mk start stop) = _
    rw [hstart, hstop]
    rfl

end DateFilter

/-! ## Where a day starts and ends -/

namespace Zone

variable {z : Zone} {d : Date} {r : Zoned}

theorem mem_dayStarts {s : Nat} : s ∈ dayStarts ↔ s ≤ 10800 ∧ s % 900 = 0 := by
  simp only [dayStarts, List.mem_map, List.mem_range]
  constructor
  · rintro ⟨k, hk, rfl⟩
    omega
  · intro h
    exact ⟨s / 900, by omega, by omega⟩

theorem pairwise_dayStarts : dayStarts.Pairwise (· < ·) := by decide

/-- A day starts at the first of its quarter hours that the clock shows. -/
theorem of_startOfDay (h : z.startOfDay d = .ok r) :
    ∃ s ∈ dayStarts, z.earliest? (.atSecond d s 0) = some r
      ∧ ∀ s' ∈ dayStarts, s' < s → z.readings (.atSecond d s' 0) = [] := by
  unfold startOfDay at h
  split at h
  · rename_i t ht
    cases h
    obtain ⟨before, s, after, hsplit, hs, hbefore⟩ := List.findSome?_eq_some_iff.mp ht
    have hsorted := pairwise_dayStarts
    refine ⟨s, by rw [hsplit]; simp, hs, fun s' hs' hlt => ?_⟩
    rw [hsplit] at hs' hsorted
    have hlater := (List.pairwise_append.mp hsorted).2.1
    rcases List.mem_append.mp hs' with hmem | hmem
    · exact List.head?_eq_none_iff.mp (hbefore s' hmem)
    · rcases List.mem_cons.mp hmem with rfl | hmem
      · exact absurd hlt (Nat.lt_irrefl _)
      · exact absurd hlt (Nat.lt_asymm (List.rel_of_pairwise_cons hlater hmem))
  · cases h

/-- A day has a start if the clock shows one of its quarter hours. -/
theorem exists_startOfDay_iff :
    (∃ r, z.startOfDay d = .ok r) ↔ ∃ s ∈ dayStarts, z.readings (.atSecond d s 0) ≠ [] := by
  constructor
  · rintro ⟨r, hr⟩
    obtain ⟨s, hs, hr, -⟩ := of_startOfDay hr
    exact ⟨s, hs, fun hnil => by simp [earliest?, hnil] at hr⟩
  · rintro ⟨s, hs, hne⟩
    unfold startOfDay
    split
    · exact ⟨_, rfl⟩
    · rename_i hnone
      exact absurd (List.head?_eq_none_iff.mp (List.findSome?_eq_none_iff.mp hnone s hs)) hne

theorem startOfDay_eq_error {e : DateRangeError} (h : z.startOfDay d = .error e) :
    e = .outOfRange := by
  unfold startOfDay at h
  split at h <;> cases h
  rfl

/-- A day ends with its last millisecond, or before the start of the next. -/
theorem of_endOfDay (h : z.endOfDay d = .ok r) :
    z.latest? (.atSecond d 86399 999_000_000) = some r
    ∨ z.readings (.atSecond d 86399 999_000_000) = []
      ∧ ∃ t, z.startOfDay (d.plusDays 1) = .ok t ∧ r = ⟨t.instant.pred, t.offset⟩ := by
  unfold endOfDay at h
  split at h
  · rename_i t ht
    cases h
    exact .inl ht
  · rename_i hnone
    split at h
    · rename_i next hnext
      obtain ⟨-, rfl⟩ := Date.addDays?_eq_some_iff.mp hnext
      obtain ⟨t, ht, rfl⟩ := ok_of_map h
      exact .inr ⟨List.getLast?_eq_none_iff.mp hnone, t, ht, rfl⟩
    · cases h

/-- A day starts within three hours of its midnight. -/
theorem seconds_startOfDay (h : z.startOfDay d = .ok r) :
    d.dayNumber * 86400 ≤ z.shown r.instant.seconds
      ∧ z.shown r.instant.seconds ≤ d.dayNumber * 86400 + 10800 ∧ r.instant.nanos = 0 := by
  obtain ⟨s, hs, hr, -⟩ := of_startOfDay h
  have hshown := (of_earliest? hr).1
  have hbound := (mem_dayStarts.mp hs).1
  rw [clock_eq] at hshown
  obtain ⟨hseconds, hnanos⟩ := LocalTime.mk.inj hshown
  exact ⟨by omega, by omega, hnanos⟩

/-- A day ends in its last second, or in the one before the start of the next. -/
theorem seconds_endOfDay (h : z.endOfDay d = .ok r) : r.instant.nanos = 999_000_000 ∧
    (z.shown r.instant.seconds = d.dayNumber * 86400 + 86399
      ∨ ∃ t, z.startOfDay (d.plusDays 1) = .ok t ∧ t.instant.seconds = r.instant.seconds + 1) := by
  rcases of_endOfDay h with hr | ⟨-, t, ht, rfl⟩
  · have hshown := (of_latest? hr).1
    rw [clock_eq] at hshown
    obtain ⟨hseconds, hnanos⟩ := LocalTime.mk.inj hshown
    exact ⟨hnanos, .inl hseconds⟩
  · have hnanos := (seconds_startOfDay ht).2.2
    refine ⟨by simp [Instant.pred, hnanos], .inr ⟨t, ht, ?_⟩⟩
    simp [Instant.pred, hnanos]

/-- A day has an end if the clock shows its last millisecond or the next day has a start. -/
theorem exists_endOfDay_iff :
    (∃ r, z.endOfDay d = .ok r) ↔ z.readings (.atSecond d 86399 999_000_000) ≠ []
      ∨ (d.plusDays 1).isSupported = true ∧ ∃ r, z.startOfDay (d.plusDays 1) = .ok r := by
  unfold endOfDay
  cases hlast : z.latest? (.atSecond d 86399 999_000_000) with
  | some t =>
    exact iff_of_true ⟨t, rfl⟩ (.inl fun hnil => by simp [latest?, hnil] at hlast)
  | none =>
    rw [or_iff_right (not_not.mpr (List.getLast?_eq_none_iff.mp hlast))]
    cases hnext : d.addDays? 1 with
    | none =>
      refine iff_of_false ?_ ?_
      · rintro ⟨r, hr⟩
        cases hr
      · rintro ⟨hsupported, -⟩
        rw [Date.addDays?_eq_some_iff.mpr ⟨hsupported, rfl⟩] at hnext
        cases hnext
    | some next =>
      obtain ⟨hsupported, rfl⟩ := Date.addDays?_eq_some_iff.mp hnext
      constructor
      · rintro ⟨r, hr⟩
        obtain ⟨t, ht, -⟩ := ok_of_map hr
        exact ⟨hsupported, t, ht⟩
      · rintro ⟨-, t, ht⟩
        exact ⟨⟨t.instant.pred, t.offset⟩, congrArg (Except.map _) ht⟩

theorem endOfDay_eq_error {e : DateRangeError} (h : z.endOfDay d = .error e) :
    e = .outOfRange := by
  unfold endOfDay at h
  split at h
  · cases h
  · split at h
    · exact startOfDay_eq_error (error_of_map h)
    · cases h
      rfl

end Zone

end RowFilter
