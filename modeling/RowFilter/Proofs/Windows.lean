import RowFilter.Calendar.Zone.America
import RowFilter.Proofs.Days
/-!
# Windows of date filters

A later day neither starts nor ends earlier, since a day takes longer than the clock can be set
back. So the range of a filter whose days lie between those of another lies in the range of the
other, and filters that name the same days have the same range.

Results:
* `Zone.startOfDay_mono`, `Zone.endOfDay_mono`: days start and end in the order of the calendar.
* `DateFilter.resolve_inside`: a window between the days of another is inside its range.
* `windows_nest`: which windows are inside which, and which modes are only other names.
-/
namespace RowFilter

/-! ## Days in order -/

namespace Zone

variable {z : Zone} {first second : Date} {r r' : Zoned}

/-- A later day does not start earlier: a start is three hours late at most, and the offsets differ
by less than what is left of the day. -/
theorem startOfDay_mono (hz : z.SpreadBelow 72000) (h : first ≤ second)
    (hr : z.startOfDay first = .ok r) (hr' : z.startOfDay second = .ok r') :
    r.instant ≤ r'.instant := by
  rw [Date.le_def] at h
  by_cases hsame : first.dayNumber = second.dayNumber
  · cases Date.eq_of_dayNumber hsame
    cases hr.symm.trans hr'
    exact .inr ⟨rfl, Nat.le_refl _⟩
  · obtain ⟨-, hlate, -⟩ := seconds_startOfDay hr
    obtain ⟨hearly, -, -⟩ := seconds_startOfDay hr'
    have hoffset := hz r'.instant r.instant
    refine .inl ?_
    unfold shown offsetAt at *
    omega

/-- A later day does not end earlier. -/
theorem endOfDay_mono (hz : z.SpreadBelow 72000) (h : first ≤ second)
    (hr : z.endOfDay first = .ok r) (hr' : z.endOfDay second = .ok r') :
    r.instant ≤ r'.instant := by
  rw [Date.le_def] at h
  by_cases hsame : first.dayNumber = second.dayNumber
  · cases Date.eq_of_dayNumber hsame
    cases hr.symm.trans hr'
    exact .inr ⟨rfl, Nat.le_refl _⟩
  · obtain ⟨hnanos, hlast⟩ := seconds_endOfDay hr
    obtain ⟨hnanos', hlast'⟩ := seconds_endOfDay hr'
    rw [Instant.le_def, hnanos, hnanos']
    -- each day ends at its last second or right before the start of the next one
    rcases hlast with hlast | ⟨next, hnext, hseconds⟩ <;>
      rcases hlast' with hlast' | ⟨next', hnext', hseconds'⟩
    · have hoffset := hz r'.instant r.instant
      unfold shown offsetAt at *
      omega
    · obtain ⟨hearly, -, -⟩ := seconds_startOfDay hnext'
      have hoffset := hz next'.instant r.instant
      rw [Date.dayNumber_plusDays] at hearly
      unfold shown offsetAt at *
      omega
    · obtain ⟨-, hlate, -⟩ := seconds_startOfDay hnext
      have hoffset := hz r'.instant next.instant
      rw [Date.dayNumber_plusDays] at hlate
      unfold shown offsetAt at *
      omega
    · have hnexts : first.plusDays 1 ≤ second.plusDays 1 := by
        rw [Date.le_def, Date.dayNumber_plusDays, Date.dayNumber_plusDays]
        omega
      have hle := startOfDay_mono hz hnexts hnext hnext'
      rw [Instant.le_def] at hle
      omega

end Zone

/-- Whether a range starts no earlier than another and ends no later. -/
def DateRange.Inside (r r' : DateRange) : Prop :=
  r'.start.instant ≤ r.start.instant ∧ r.stop.instant ≤ r'.stop.instant

instance (r r' : DateRange) : Decidable (r.Inside r') :=
  inferInstanceAs (Decidable (_ ∧ _))

/-! ## Windows -/

namespace DateFilter

variable {f g : DateFilter} {z : Zone} {now : Instant} {today d e : Date}

/-- Whether a filter is a window that begins or ends with a day. -/
def IsWindow (f : DateFilter) (z : Zone) (today d : Date) : Prop :=
  f.mode.isRolling = true ∧ f.anchor? z today = some d

/-- A window with an earlier day goes up to today. -/
theorem IsWindow.span?_since (h : f.IsWindow z today d) (hd : d ≤ today) :
    f.span? z today = some (d, today) := by
  rw [span?, h.2, Option.map_some, DateMode.isDay, h.1, if_neg (by decide), if_pos hd]

/-- A window with a later day begins today. -/
theorem IsWindow.span?_till (h : f.IsWindow z today d) (hd : today ≤ d) :
    f.span? z today = some (today, d) := by
  rw [span?, h.2, Option.map_some, DateMode.isDay, h.1, if_neg (by decide)]
  split
  · rename_i hle
    rw [Date.le_def] at hd hle
    rw [Date.eq_of_dayNumber (Int.le_antisymm hle hd)]
  · rfl

/-- A filter whose days lie between those of another has its range inside that of the other. -/
theorem resolve_inside (hz : z.SpreadBelow 72000) {p q : Date × Date}
    (hf : f.span? z (z.dateAt now) = some p) (hg : g.span? z (z.dateAt now) = some q)
    (hfirst : q.1 ≤ p.1) (hlast : p.2 ≤ q.2) {r r' : DateRange} (hr : f.resolve z now = .ok r)
    (hr' : g.resolve z now = .ok r') : r.Inside r' := by
  obtain ⟨first, last, hdays, hstart, hstop⟩ := resolve_eq_ok_iff.mp hr
  obtain ⟨first', last', hdays', hstart', hstop'⟩ := resolve_eq_ok_iff.mp hr'
  cases hf.symm.trans (span?_of_days hdays)
  cases hg.symm.trans (span?_of_days hdays')
  exact ⟨Zone.startOfDay_mono hz hfirst hstart' hstart, Zone.endOfDay_mono hz hlast hstop hstop'⟩

/-- The ends of a range whose days come from one date. -/
theorem ends_of_map {x : Except DateRangeError Date} {days : Date → Date × Date} {r : DateRange}
    (h : f.days z (z.dateAt now) = x.map days) (hr : f.resolve z now = .ok r) :
    ∃ d, x = .ok d ∧ z.startOfDay (days d).1 = .ok r.start ∧ z.endOfDay (days d).2 = .ok r.stop := by
  obtain ⟨first, last, hdays, hstart, hstop⟩ := resolve_eq_ok_iff.mp hr
  obtain ⟨d, hd, hpair⟩ := ok_of_map (h.symm.trans hdays)
  exact ⟨d, hd, by rw [hpair]; exact hstart, by rw [hpair]; exact hstop⟩

end DateFilter

/-- The filters of a mode, whatever their other fields are. -/
def DateMode.filters (mode : DateMode) : Set DateFilter := {f | f.mode = mode}

/-- The filters of a mode with a number of days. -/
def DateMode.counting (mode : DateMode) (n : Int) : Set DateFilter :=
  {f | f.mode = mode ∧ f.numberOfDays = some n}

/-- The mode and the number of days that a mode is another name for. -/
def DateMode.asDays? : DateMode → Option (DateMode × Int)
  | .yesterday => some (.daysAgo, 1)
  | .tomorrow => some (.daysFromNow, 1)
  | .oneWeekAgo => some (.daysAgo, 7)
  | .oneWeekFromNow => some (.daysFromNow, 7)
  | .pastWeek => some (.pastNumberOfDays, 7)
  | .nextWeek => some (.nextNumberOfDays, 7)
  | _ => none

/-- Whether the ranges of some filters are inside those of others. -/
def Zone.Nested (z : Zone) (now : Instant) (F G : Set DateFilter) : Prop :=
  ∀ f ∈ F, ∀ g ∈ G, ∀ r r', f.resolve z now = .ok r → g.resolve z now = .ok r' → r.Inside r'

/-- Whether some filters have the same outcome as others. -/
def Zone.Agree (z : Zone) (now : Instant) (F G : Set DateFilter) : Prop :=
  ∀ f ∈ F, ∀ g ∈ G, f.resolve z now = g.resolve z now

namespace Zone

open DateMode

variable {z : Zone} {now : Instant} {F G : Set DateFilter} {d e : Date} {n m : Int}

/-- Of two windows up to today the one that begins later is inside the other. -/
theorem nested_since (hz : z.SpreadBelow 72000) (hF : ∀ f ∈ F, f.IsWindow z (z.dateAt now) d)
    (hG : ∀ g ∈ G, g.IsWindow z (z.dateAt now) e) (h : e ≤ d) (hd : d ≤ z.dateAt now) :
    z.Nested now F G := by
  intro f hf g hg r r' hr hr'
  have he : e ≤ z.dateAt now := Int.le_trans h hd
  exact f.resolve_inside hz ((hF f hf).span?_since hd) ((hG g hg).span?_since he) h
    (Int.le_refl _) hr hr'

/-- Of two windows from today on the one that ends earlier is inside the other. -/
theorem nested_till (hz : z.SpreadBelow 72000) (hF : ∀ f ∈ F, f.IsWindow z (z.dateAt now) d)
    (hG : ∀ g ∈ G, g.IsWindow z (z.dateAt now) e) (h : d ≤ e) (hd : z.dateAt now ≤ d) :
    z.Nested now F G := by
  intro f hf g hg r r' hr hr'
  have he : z.dateAt now ≤ e := Int.le_trans hd h
  exact f.resolve_inside hz ((hF f hf).span?_till hd) ((hG g hg).span?_till he) (Int.le_refl _)
    h hr hr'

/-- A window of a mode that counts no days. -/
theorem isWindow_filters {mode : DateMode} (hmode : mode.isRolling = true) {f : DateFilter}
    (h : f ∈ mode.filters) {today : Date}
    (hd : DateFilter.anchor? ⟨mode, f.numberOfDays, f.exactDate⟩ z today = some d) :
    f.IsWindow z today d := by
  obtain ⟨m, n, e⟩ := f
  cases h
  exact ⟨hmode, hd⟩

theorem isWindow_pastNumberOfDays (hn : 0 ≤ n) {f : DateFilter}
    (h : f ∈ pastNumberOfDays.counting n) (today : Date) :
    f.IsWindow z today (today.plusDays (-n)) :=
  ⟨by rw [h.1]; rfl, by rw [DateFilter.anchor?, h.1, h.2]; simp [hn]⟩

theorem isWindow_nextNumberOfDays (hn : 0 ≤ n) {f : DateFilter}
    (h : f ∈ nextNumberOfDays.counting n) (today : Date) :
    f.IsWindow z today (today.plusDays n) :=
  ⟨by rw [h.1]; rfl, by rw [DateFilter.anchor?, h.1, h.2]; simp [hn]⟩

/-- More days are a greater window. -/
theorem nested_pastNumberOfDays (hz : z.SpreadBelow 72000) (now : Instant) (hn : 0 ≤ n)
    (h : n ≤ m) : z.Nested now (pastNumberOfDays.counting n) (pastNumberOfDays.counting m) := by
  have hm : 0 ≤ m := Int.le_trans hn h
  refine nested_since hz (fun f hf => isWindow_pastNumberOfDays hn hf _)
    (fun g hg => isWindow_pastNumberOfDays hm hg _) ?_ (Date.plusDays_le _ (by omega))
  rw [Date.le_def, Date.dayNumber_plusDays, Date.dayNumber_plusDays]
  omega

theorem nested_nextNumberOfDays (hz : z.SpreadBelow 72000) (now : Instant) (hn : 0 ≤ n)
    (h : n ≤ m) : z.Nested now (nextNumberOfDays.counting n) (nextNumberOfDays.counting m) := by
  have hm : 0 ≤ m := Int.le_trans hn h
  refine nested_till hz (fun f hf => isWindow_nextNumberOfDays hn hf _)
    (fun g hg => isWindow_nextNumberOfDays hm hg _) ?_ (Date.le_plusDays _ hn)
  rw [Date.le_def, Date.dayNumber_plusDays, Date.dayNumber_plusDays]
  omega

/-- A week is less than a month, whatever the day of the month. -/
theorem nested_pastWeek (hz : z.SpreadBelow 72000) (now : Instant) :
    z.Nested now pastWeek.filters pastMonth.filters := by
  refine nested_since hz (fun f hf => isWindow_filters rfl hf rfl)
    (fun g hg => isWindow_filters rfl hg rfl) ?_ (Date.plusDays_le _ (by decide))
  have hmonth := (z.dateAt now).plusMonths_neg_one_le
  rw [Date.le_def, Date.dayNumber_plusDays] at *
  omega

theorem nested_nextWeek (hz : z.SpreadBelow 72000) (now : Instant) :
    z.Nested now nextWeek.filters nextMonth.filters := by
  refine nested_till hz (fun f hf => isWindow_filters rfl hf rfl)
    (fun g hg => isWindow_filters rfl hg rfl) ?_ (Date.le_plusDays _ (by decide))
  have hmonth := (z.dateAt now).plusDays_le_plusMonths_one
  rw [Date.le_def, Date.dayNumber_plusDays] at *
  omega

theorem nested_pastMonth (hz : z.SpreadBelow 72000) (now : Instant) :
    z.Nested now pastMonth.filters pastYear.filters :=
  nested_since hz (fun f hf => isWindow_filters rfl hf rfl)
    (fun g hg => isWindow_filters rfl hg rfl) (Date.plusMonths_mono _ (by decide))
    (Date.plusMonths_le _ (by decide))

theorem nested_nextMonth (hz : z.SpreadBelow 72000) (now : Instant) :
    z.Nested now nextMonth.filters nextYear.filters :=
  nested_till hz (fun f hf => isWindow_filters rfl hf rfl)
    (fun g hg => isWindow_filters rfl hg rfl) (Date.plusMonths_mono _ (by decide))
    (Date.le_plusMonths _ (by decide))

/-! ## Modes with the same days -/

/-- Another name for a number of days has the outcome of that number. -/
theorem agree_of_asDays? {mode mode' : DateMode} (h : mode.asDays? = some (mode', n)) :
    z.Agree now mode.filters (mode'.counting n) := by
  intro f hf g hg
  have hdays : f.days z (z.dateAt now) = g.days z (z.dateAt now) := by
    cases mode <;> cases h <;>
      · rw [DateFilter.days, DateFilter.days, hf, hg.1]
        simp only [DateFilter.daysFrom, hg.2]
        rfl
  rw [DateFilter.resolve, DateFilter.resolve, hdays]

/-- A window of no days is today, if today is supported. -/
theorem resolve_noDays {f g : DateFilter} (hf : f ∈ today.filters)
    (hg : g ∈ pastNumberOfDays.counting 0 ∪ nextNumberOfDays.counting 0) :
    g.resolve z now
      = if (z.dateAt now).isSupported then f.resolve z now else .error .outOfRange := by
  have hzero (d : Date) : DateFilter.addDays d 0
      = if d.isSupported then .ok d else .error .outOfRange := by
    rw [DateFilter.addDays, Date.addDays?, Int.add_zero]
    by_cases h : d.isSupported = true <;> simp [Date.supported?, h]
  have hdays (d : Date) : g.days z d = if d.isSupported then f.days z d else .error .outOfRange := by
    rcases hg with hg | hg <;>
      · rw [DateFilter.days, DateFilter.days, hf, hg.1]
        simp only [DateFilter.daysFrom, hg.2]
        show Except.map _ (DateFilter.addDays d 0) = _
        rw [hzero]
        split <;> rfl
  rw [DateFilter.resolve, DateFilter.resolve, hdays]
  split <;> rfl

/-- A day that is a month away is the far end of the window of a month. -/
theorem start_oneMonthAgo {f g : DateFilter} {r r' : DateRange} (hf : f ∈ oneMonthAgo.filters)
    (hg : g ∈ pastMonth.filters) (hr : f.resolve z now = .ok r) (hr' : g.resolve z now = .ok r') :
    r.start = r'.start := by
  have hday : f.days z (z.dateAt now)
      = (DateFilter.addMonths (z.dateAt now) (-1)).map fun d => (d, d) := by
    rw [DateFilter.days, hf]
  have hwindow : g.days z (z.dateAt now)
      = (DateFilter.addMonths (z.dateAt now) (-1)).map fun d => (d, z.dateAt now) := by
    rw [DateFilter.days, hg]
  obtain ⟨d, hd, hstart, -⟩ := DateFilter.ends_of_map hday hr
  obtain ⟨d', hd', hstart', -⟩ := DateFilter.ends_of_map hwindow hr'
  cases hd.symm.trans hd'
  exact Except.ok.inj (hstart.symm.trans hstart')

theorem stop_oneMonthFromNow {f g : DateFilter} {r r' : DateRange}
    (hf : f ∈ oneMonthFromNow.filters) (hg : g ∈ nextMonth.filters)
    (hr : f.resolve z now = .ok r) (hr' : g.resolve z now = .ok r') : r.stop = r'.stop := by
  have hday : f.days z (z.dateAt now)
      = (DateFilter.addMonths (z.dateAt now) 1).map fun d => (d, d) := by
    rw [DateFilter.days, hf]
  have hwindow : g.days z (z.dateAt now)
      = (DateFilter.addMonths (z.dateAt now) 1).map fun d => (z.dateAt now, d) := by
    rw [DateFilter.days, hg]
  obtain ⟨d, hd, -, hstop⟩ := DateFilter.ends_of_map hday hr
  obtain ⟨d', hd', -, hstop'⟩ := DateFilter.ends_of_map hwindow hr'
  cases hd.symm.trans hd'
  exact Except.ok.inj (hstop.symm.trans hstop')

end Zone

open DateMode in
/-- Where the offsets differ by less than twenty hours, greater windows hold smaller ones: those of
more days, and a year a month and a month a week. A week is seven days, and the other modes for one
day are those that count the days to it; today is a window of no days, as long as it is supported.
The day a month away is where the window of a month begins or ends. -/
theorem windows_nest {z : Zone} (hz : z.SpreadBelow 72000) (now : Instant) :
    (∀ n m : Int, 0 ≤ n → n ≤ m →
      z.Nested now (pastNumberOfDays.counting n) (pastNumberOfDays.counting m)
      ∧ z.Nested now (nextNumberOfDays.counting n) (nextNumberOfDays.counting m))
    ∧ z.Nested now pastWeek.filters pastMonth.filters
    ∧ z.Nested now pastMonth.filters pastYear.filters
    ∧ z.Nested now nextWeek.filters nextMonth.filters
    ∧ z.Nested now nextMonth.filters nextYear.filters
    ∧ z.Agree now pastWeek.filters (pastNumberOfDays.counting 7)
    ∧ z.Agree now nextWeek.filters (nextNumberOfDays.counting 7)
    ∧ z.Agree now yesterday.filters (daysAgo.counting 1)
    ∧ z.Agree now tomorrow.filters (daysFromNow.counting 1)
    ∧ z.Agree now oneWeekAgo.filters (daysAgo.counting 7)
    ∧ z.Agree now oneWeekFromNow.filters (daysFromNow.counting 7)
    ∧ (∀ f ∈ today.filters, ∀ g ∈ pastNumberOfDays.counting 0 ∪ nextNumberOfDays.counting 0,
      g.resolve z now
        = if (z.dateAt now).isSupported then f.resolve z now else .error .outOfRange)
    ∧ (∀ f ∈ oneMonthAgo.filters, ∀ g ∈ pastMonth.filters, ∀ r r', f.resolve z now = .ok r →
      g.resolve z now = .ok r' → r.start = r'.start)
    ∧ ∀ f ∈ oneMonthFromNow.filters, ∀ g ∈ nextMonth.filters, ∀ r r', f.resolve z now = .ok r →
      g.resolve z now = .ok r' → r.stop = r'.stop := by
  exact ⟨fun n m hn h => ⟨Zone.nested_pastNumberOfDays hz now hn h,
    Zone.nested_nextNumberOfDays hz now hn h⟩, Zone.nested_pastWeek hz now,
    Zone.nested_pastMonth hz now, Zone.nested_nextWeek hz now, Zone.nested_nextMonth hz now,
    Zone.agree_of_asDays? rfl, Zone.agree_of_asDays? rfl, Zone.agree_of_asDays? rfl,
    Zone.agree_of_asDays? rfl, Zone.agree_of_asDays? rfl, Zone.agree_of_asDays? rfl,
    fun f hf g hg => Zone.resolve_noDays hf hg, fun f hf g hg r r' => Zone.start_oneMonthAgo hf hg,
    fun f hf g hg r r' => Zone.stop_oneMonthFromNow hf hg⟩

/-- The week that begins on a day whose midnight was skipped, as seven days, inside thirty-one days
and inside a month. -/
theorem windows_nest_skippedMidnight :
    let z := Zone.America.saoPaulo
    let now : Instant := ⟨1541948400, 0⟩
    z.SpreadBelow 72000
    ∧ ∃ week days month : DateRange,
      DateFilter.resolve ⟨.pastNumberOfDays, some 7, none⟩ z now = .ok week
      ∧ DateFilter.resolve ⟨.pastNumberOfDays, some 31, none⟩ z now = .ok days
      ∧ DateFilter.resolve ⟨.pastMonth, none, none⟩ z now = .ok month
      ∧ DateFilter.resolve ⟨.pastWeek, none, none⟩ z now = .ok week
      ∧ week.Inside days ∧ week.Inside month := by
  intro z now
  have hz : z.SpreadBelow 72000 := Zone.spreadBelow_of_offsets (by decide +kernel)
  have hweek : DateFilter.resolve ⟨.pastNumberOfDays, some 7, none⟩ z now
      = .ok ⟨⟨⟨1541300400, 0⟩, -7200⟩, ⟨⟨1541987999, 999_000_000⟩, -7200⟩⟩ := by decide +kernel
  have hdays : DateFilter.resolve ⟨.pastNumberOfDays, some 31, none⟩ z now
      = .ok ⟨⟨⟨1539226800, 0⟩, -10800⟩, ⟨⟨1541987999, 999_000_000⟩, -7200⟩⟩ := by decide +kernel
  have hmonth : DateFilter.resolve ⟨.pastMonth, none, none⟩ z now
      = .ok ⟨⟨⟨1539226800, 0⟩, -10800⟩, ⟨⟨1541987999, 999_000_000⟩, -7200⟩⟩ := by decide +kernel
  obtain ⟨hcounts, hmonths, -, -, -, hnames, -⟩ := windows_nest hz now
  have hname := hnames ⟨.pastWeek, none, none⟩ rfl ⟨.pastNumberOfDays, some 7, none⟩ ⟨rfl, rfl⟩
  rw [hweek] at hname
  exact ⟨hz, _, _, _, hweek, hdays, hmonth, hname,
    (hcounts 7 31 (by decide) (by decide)).1 _ ⟨rfl, rfl⟩ _ ⟨rfl, rfl⟩ _ _ hweek hdays,
    hmonths _ rfl _ rfl _ _ hname hmonth⟩

end RowFilter
