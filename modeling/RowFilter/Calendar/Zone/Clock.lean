import RowFilter.Calendar.Date.Shift
import RowFilter.Calendar.Instant.Lemmas
import RowFilter.Calendar.Zone.Lemmas
/-!
# What the clock shows

A zone's clock goes on by a second with every second, but where its offset changes. So what it
shows cannot pass a time without showing it unless the clock is set, and it cannot go back unless
the clock is set back. The readings of a local time are the instants at which the clock shows it,
in the order of time.

* `clock_eq_iff`: when the clock shows a time.
* `of_earliest?`, `of_latest?`: the first and the last instant at which it does.
* `shown_succ`: the clock goes on by a second where its offset stays.
* `exists_passing`: the clock comes past every time.
* `exists_setBack`: between a later and an earlier time shown the clock is set back.
* `exists_entrance`: a day is entered at midnight or where the clock is set.
-/
namespace RowFilter

/-- Whether the date of an instant in universal time is supported. -/
def Instant.IsSupported (t : Instant) : Prop := (t.toLocal 0).date.isSupported = true

instance (t : Instant) : Decidable t.IsSupported :=
  inferInstanceAs (Decidable ((t.toLocal 0).date.isSupported = true))

theorem LocalTime.date_atSecond (d : Date) {s : Nat} (n : Nat) (h : s < 86400) :
    (atSecond d s n).date = d := by
  refine Date.eq_of_dayNumber ?_
  simp only [date, atSecond]
  omega

namespace Zone

variable {z : Zone}

/-- The second the clock shows at a second of universal time. -/
def shown (z : Zone) (s : Int) : Int := s + offsetFrom s z.baseOffset z.transitions

/-- What the clock shows at an instant. -/
def clock (z : Zone) (t : Instant) : LocalTime := t.toLocal (z.offsetAt t)

/-- Whether the clock ever shows a time. -/
def Shows (z : Zone) (t : LocalTime) : Prop := ∃ i, z.clock i = t

theorem clock_eq (z : Zone) (t : Instant) : z.clock t = ⟨z.shown t.seconds, t.nanos⟩ := rfl

theorem date_clock (z : Zone) (t : Instant) : (z.clock t).date = z.dateAt t := rfl

theorem dayNumber_dateAt (z : Zone) (t : Instant) :
    (z.dateAt t).dayNumber = z.shown t.seconds / 86400 := rfl

/-! ## Readings -/

/-- The reading of a local time under an offset. -/
def reading (t : LocalTime) (offset : Int) : Zoned := ⟨⟨t.seconds - offset, t.nanos⟩, offset⟩

/-- The clock shows a time at its readings under the offsets of its spans. -/
theorem clock_eq_iff {i : Instant} {t : LocalTime} :
    z.clock i = t ↔ ∃ o ∈ z.offsetsOf t, i = (reading t o).instant := by
  simp only [mem_offsetsOf, reading]
  constructor
  · rintro rfl
    refine ⟨z.offsetAt i, ?_, ?_⟩ <;> simp [clock, Instant.toLocal]
  · rintro ⟨o, ho, rfl⟩
    simp [clock, Instant.toLocal, ho]

theorem pairwise_offsetsFrom {second offset : Int} {since : Option Int} {ts : List Transition}
    (hts : Transition.ascend ts = true) :
    (offsetsFrom second since offset ts).Pairwise (· > ·) := by
  induction ts generalizing since offset with
  | nil =>
    rw [offsetsFrom]
    split <;> simp
  | cons t ts ih =>
    obtain ⟨htail, hhead⟩ := ascend_tail hts
    have hrest : (offsetsFrom second (some t.second) t.offset ts).Pairwise (· > ·) := ih htail
    rw [offsetsFrom]
    split
    · rename_i hin
      refine List.Pairwise.cons (fun o ho => ?_) hrest
      -- the time is shown before the transition under the first offset, and after it under the rest
      have hafter := (mem_offsetsFrom htail fun a ha => by cases ha; exact hhead).mp ho
      have := hafter.1 t.second rfl
      simp only [Bool.and_eq_true, decide_eq_true_eq] at hin
      omega
    · exact hrest

/-- Later readings stand under smaller offsets. -/
theorem pairwise_offsetsOf (z : Zone) (t : LocalTime) : (z.offsetsOf t).Pairwise (· > ·) :=
  pairwise_offsetsFrom z.ascending

theorem mapM_ofLocal? (t : LocalTime) (os : List Int) :
    (os.mapM fun offset => (Instant.ofLocal? t offset).map fun i => Zoned.mk i offset)
      = if ∀ o ∈ os, (reading t o).instant.IsSupported then some (os.map (reading t))
        else none := by
  induction os with
  | nil => simp
  | cons o os ih =>
    have ho : (Instant.ofLocal? t o).map (fun i => Zoned.mk i o)
        = if (reading t o).instant.IsSupported then some (reading t o) else none := by
      simp only [Instant.ofLocal?, reading, Instant.IsSupported, Instant.toLocal, Int.add_zero]
      split <;> rfl
    rw [List.mapM_cons, ih, ho]
    simp only [List.forall_mem_cons]
    by_cases hs : (reading t o).instant.IsSupported
    · by_cases hall : ∀ o ∈ os, (reading t o).instant.IsSupported
      · simp only [hs, if_true, if_pos hall, true_and]
        rfl
      · simp only [hs, if_true, if_neg hall, true_and]
        rfl
    · simp only [hs, if_false, false_and]
      rfl

/-- A local time is read under all of its offsets or under none. -/
theorem readings_eq (z : Zone) (t : LocalTime) :
    z.readings t = if ∀ o ∈ z.offsetsOf t, (reading t o).instant.IsSupported
      then (z.offsetsOf t).map (reading t) else [] := by
  rw [readings, mapM_ofLocal?]
  split <;> rfl

variable {t : LocalTime} {r : Zoned}

/-- The first instant at which the clock shows a time. -/
theorem of_earliest? (h : z.earliest? t = some r) :
    z.clock r.instant = t ∧ ∀ i, z.clock i = t → r.instant ≤ i := by
  have hmem := List.mem_of_mem_head? h
  refine ⟨?_, fun i hi => ?_⟩
  · rw [clock, offsetAt_of_mem_readings hmem]
    exact localTime_of_mem_readings hmem
  · rw [earliest?, readings_eq] at h
    split at h
    · obtain ⟨o, ho, rfl⟩ := clock_eq_iff.mp hi
      have hsorted := pairwise_offsetsOf z t
      cases hos : z.offsetsOf t with
      | nil => rw [hos] at ho; cases ho
      | cons first os =>
        rw [hos] at h ho hsorted
        cases h
        rcases List.mem_cons.mp ho with rfl | ho
        · exact .inr ⟨rfl, Nat.le_refl _⟩
        · have := List.rel_of_pairwise_cons hsorted ho
          simp only [reading, Instant.le_def]
          omega
    · cases h

/-- The last instant at which the clock shows a time. -/
theorem of_latest? (h : z.latest? t = some r) :
    z.clock r.instant = t ∧ ∀ i, z.clock i = t → i ≤ r.instant := by
  have hmem := List.mem_of_mem_getLast? h
  refine ⟨?_, fun i hi => ?_⟩
  · rw [clock, offsetAt_of_mem_readings hmem]
    exact localTime_of_mem_readings hmem
  · rw [latest?, readings_eq] at h
    split at h
    · obtain ⟨o, ho, rfl⟩ := clock_eq_iff.mp hi
      have hsorted := pairwise_offsetsOf z t
      rw [List.getLast?_map, Option.map_eq_some_iff] at h
      obtain ⟨last, hlast, rfl⟩ := h
      obtain ⟨os, hos⟩ := List.getLast?_eq_some_iff.mp hlast
      rw [hos] at ho hsorted
      rcases List.mem_append.mp ho with ho | ho
      · have := (List.pairwise_append.mp hsorted).2.2 o ho last List.mem_cons_self
        simp only [reading, Instant.le_def]
        omega
      · rw [List.mem_singleton.mp ho]
        exact .inr ⟨rfl, Nat.le_refl _⟩
    · cases h

/-- The clock shows a time if it is in the span of one of the offsets. -/
theorem shows_iff : z.Shows t ↔ z.offsetsOf t ≠ [] := by
  constructor
  · rintro ⟨i, hi⟩
    obtain ⟨o, ho, -⟩ := clock_eq_iff.mp hi
    exact List.ne_nil_of_mem ho
  · intro hne
    obtain ⟨o, ho⟩ := List.exists_mem_of_ne_nil _ hne
    exact ⟨_, clock_eq_iff.mpr ⟨o, ho, rfl⟩⟩

instance (z : Zone) (t : LocalTime) : Decidable (z.Shows t) := decidable_of_iff' _ shows_iff

/-- A time has no readings if the clock never shows it, or shows it where time is not
supported. -/
theorem readings_eq_nil_iff :
    z.readings t = [] ↔ ¬ z.Shows t ∨ ∃ i, z.clock i = t ∧ ¬ i.IsSupported := by
  rw [readings_eq]
  split
  · rename_i hall
    rw [List.map_eq_nil_iff, shows_iff, not_not]
    refine (or_iff_left ?_).symm
    rintro ⟨i, hi, hns⟩
    obtain ⟨o, ho, rfl⟩ := clock_eq_iff.mp hi
    exact hns (hall o ho)
  · rename_i hall
    simp only [not_forall] at hall
    obtain ⟨o, ho, hns⟩ := hall
    exact iff_of_true rfl (.inr ⟨_, clock_eq_iff.mpr ⟨o, ho, rfl⟩, hns⟩)

/-! ## Offsets -/

/-- The offsets that are ever in force. -/
def offsets (z : Zone) : List Int := z.baseOffset :: z.transitions.map Transition.offset

theorem offsetFrom_mem (s o : Int) (ts : List Transition) :
    offsetFrom s o ts ∈ o :: ts.map Transition.offset := by
  induction ts generalizing o with
  | nil => exact List.mem_cons_self
  | cons t ts ih =>
    rw [offsetFrom]
    split
    · exact List.mem_cons_self
    · exact List.mem_cons_of_mem _ (ih t.offset)

theorem offsetAt_mem (z : Zone) (t : Instant) : z.offsetAt t ∈ z.offsets := offsetFrom_mem _ _ _

/-- Any two offsets ever in force differ by less than some seconds. -/
def SpreadBelow (z : Zone) (n : Int) : Prop := ∀ s t, z.offsetAt s - z.offsetAt t < n

theorem spreadBelow_of_offsets {n : Int} (h : ∀ a ∈ z.offsets, ∀ b ∈ z.offsets, a - b < n) :
    z.SpreadBelow n := fun s t => h _ (z.offsetAt_mem s) _ (z.offsetAt_mem t)

/-- No offset ever in force is a day or more. -/
def WithinDay (z : Zone) : Prop := ∀ t, -86400 < z.offsetAt t ∧ z.offsetAt t < 86400

theorem withinDay_of_offsets (h : ∀ o ∈ z.offsets, -86400 < o ∧ o < 86400) : z.WithinDay :=
  fun t => h _ (z.offsetAt_mem t)

theorem exists_natAbs_le (os : List Int) : ∃ n, ∀ o ∈ os, o.natAbs ≤ n := by
  induction os with
  | nil => exact ⟨0, fun o ho => nomatch ho⟩
  | cons o os ih =>
    obtain ⟨n, hn⟩ := ih
    refine ⟨max o.natAbs n, fun p hp => ?_⟩
    rcases List.mem_cons.mp hp with rfl | hp
    · exact Nat.le_max_left _ _
    · exact Nat.le_trans (hn p hp) (Nat.le_max_right _ _)

/-- The clock is never further from universal time than its greatest offset. -/
theorem exists_shown_bounds (z : Zone) : ∃ n : Nat, ∀ s, s - n ≤ z.shown s ∧ z.shown s ≤ s + n := by
  obtain ⟨n, hn⟩ := exists_natAbs_le z.offsets
  refine ⟨n, fun s => ?_⟩
  have := hn _ (offsetFrom_mem s z.baseOffset z.transitions)
  rw [shown]
  omega

/-! ## From second to second -/

theorem offsetFrom_succ {s o : Int} {ts : List Transition} (h : ∀ u ∈ ts, u.second ≠ s + 1) :
    offsetFrom (s + 1) o ts = offsetFrom s o ts := by
  induction ts generalizing o with
  | nil => rfl
  | cons t ts ih =>
    have ht := h t List.mem_cons_self
    rw [offsetFrom, offsetFrom, ih fun u hu => h u (List.mem_cons_of_mem _ hu)]
    by_cases hs : s < t.second
    · rw [if_pos hs, if_pos (by omega)]
    · rw [if_neg hs, if_neg (by omega)]

/-- The clock goes on by a second where its offset stays. -/
theorem shown_succ {s : Int} (h : ∀ u ∈ z.transitions, u.second ≠ s + 1) :
    z.shown (s + 1) = z.shown s + 1 := by
  rw [shown, shown, offsetFrom_succ h]
  omega

/-- The clock goes on with time where its offset stays. -/
theorem shown_add {s : Int} {n : Nat}
    (h : ∀ u ∈ z.transitions, ¬ (s < u.second ∧ u.second ≤ s + n)) :
    z.shown (s + n) = z.shown s + n := by
  induction n with
  | zero => simp
  | succ n ih =>
    have hinit := ih fun u hu hin => h u hu ⟨hin.1, by omega⟩
    have hlast : z.shown (s + n + 1) = z.shown (s + n) + 1 :=
      shown_succ fun u hu hux => h u hu ⟨by omega, by omega⟩
    rw [Int.natCast_succ, ← Int.add_assoc, hlast, hinit]
    omega

/-- What holds at one second and no longer at a later one ends with some second between. -/
theorem exists_step {P : Int → Prop} {s e : Int} (h : s ≤ e) (hs : P s) (he : ¬ P e) :
    ∃ x, s ≤ x ∧ x < e ∧ P x ∧ ¬ P (x + 1) := by
  by_contra hno
  push Not at hno
  have hall (n : Nat) : s + n ≤ e → P (s + n) := by
    induction n with
    | zero => exact fun _ => by simpa using hs
    | succ n ih =>
      intro hn
      have hnext := hno (s + n) (by omega) (by omega) (ih (by omega))
      rwa [Int.add_assoc] at hnext
  have hend : s + (e - s).toNat = e := by omega
  exact he (hend ▸ hall (e - s).toNat (Int.le_of_eq hend))

/-- Between a second at which the clock shows a time or a later one, and a later second at which it
shows an earlier one, the clock is set back over that time. -/
theorem exists_setBack {m s e : Int} (h : s ≤ e) (hs : m ≤ z.shown s) (he : z.shown e < m) :
    ∃ u ∈ z.transitions, s < u.second ∧ u.second ≤ e ∧ m ≤ z.shown (u.second - 1)
      ∧ z.shown u.second < m := by
  obtain ⟨x, hsx, hxe, hx, hx'⟩ :=
    exists_step (P := fun x => m ≤ z.shown x) h hs (Int.not_le.mpr he)
  by_contra hno
  have hgoes : z.shown (x + 1) = z.shown x + 1 := shown_succ fun u hu hux =>
    hno ⟨u, hu, by omega, by omega, by rw [hux, Int.add_sub_cancel]; exact hx,
      by rw [hux]; exact Int.not_le.mp hx'⟩
  omega

/-- The clock comes past every time. -/
theorem exists_passing (z : Zone) (m : Int) : ∃ x, z.shown x < m ∧ m ≤ z.shown (x + 1) := by
  obtain ⟨n, hn⟩ := z.exists_shown_bounds
  have hpast := hn (m - n - 1)
  have hfuture := hn (m + n)
  obtain ⟨x, -, -, hx, hx'⟩ := exists_step (P := fun x => z.shown x < m)
    (show m - n - 1 ≤ m + n by omega) (by omega) (by omega)
  exact ⟨x, hx, Int.not_lt.mp hx'⟩

/-- A day is entered at midnight or where the clock is set. -/
theorem exists_entrance {d s : Int} (h : z.shown s / 86400 = d) :
    ∃ e ≤ s, z.shown e / 86400 = d
      ∧ (z.shown e = d * 86400 ∨ ∃ u ∈ z.transitions, u.second = e) := by
  obtain ⟨n, hn⟩ := z.exists_shown_bounds
  -- the clock has not always shown the day
  have hpast := hn (min s (d * 86400 - n - 1))
  obtain ⟨x, -, hxs, hx, hx'⟩ := exists_step (P := fun x => z.shown x / 86400 ≠ d)
    (Int.min_le_left s (d * 86400 - n - 1)) (by omega) (not_not.mpr h)
  refine ⟨x + 1, by omega, not_not.mp hx', ?_⟩
  by_contra hno
  push Not at hno
  have hgoes := shown_succ fun u hu hux => hno.2 u hu hux
  omega

/-! ## Days that are supported -/

/-- Whether every instant at which the clock shows a date is supported. -/
def Covers (z : Zone) (d : Date) : Prop := ∀ t, z.dateAt t = d → t.IsSupported

/-- Only days at either end of the calendar are not supported as a whole. -/
theorem covers_of_year (hz : z.WithinDay) {d : Date} (h : -262143 < d.year) (h' : d.year < 262142) :
    z.Covers d := by
  rintro t rfl
  have hoffset := hz t
  have hfirst := Date.yearStart_mono (show -262142 ≤ (z.dateAt t).year by omega)
  have hlast := Date.yearStart_mono (show (z.dateAt t).year + 1 ≤ 262142 by omega)
  have hstart := Date.yearStart_year_le (z.dateAt t)
  have hend := Date.lt_yearStart_year_succ (z.dateAt t)
  have hday : (z.dateAt t).dayNumber = (t.seconds + z.offsetAt t) / 86400 := rfl
  show ((t.toLocal 0).date).isSupported = true
  simp only [Date.isSupported_iff, Instant.toLocal, LocalTime.date]
  unfold Date.yearStart at *
  omega

/-- On a day that is supported as a whole, the times that are read are those that are shown. -/
theorem readings_eq_nil_iff_of_covers {d : Date} {s n : Nat} (h : z.Covers d) (hs : s < 86400) :
    z.readings (.atSecond d s n) = [] ↔ ¬ z.Shows (.atSecond d s n) := by
  rw [readings_eq_nil_iff]
  refine or_iff_left ?_
  rintro ⟨i, hi, hns⟩
  refine hns (h i ?_)
  rw [← date_clock, hi, LocalTime.date_atSecond d n hs]

end Zone

end RowFilter
