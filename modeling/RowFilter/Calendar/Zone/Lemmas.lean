import RowFilter.Calendar.Zone
/-!
# Local times and offsets

The clock shows a local time under exactly those offsets that are in force at the instant
they lead to.

* `mem_offsetsOf`: the offsets of a local time.
* `offsetAt_of_mem_readings`: a reading stands under the offset in force.
* `localTime_of_mem_readings`: a reading shows the local time it is of.
-/
namespace RowFilter.Zone

theorem ascend_tail {t : Transition} {ts : List Transition}
    (h : Transition.ascend (t :: ts) = true) :
    Transition.ascend ts = true ∧ ∀ u ∈ ts.head?, t.second < u.second := by
  cases ts with
  | nil => exact ⟨rfl, fun u hu => nomatch hu⟩
  | cons u ts =>
    simp only [Transition.ascend, Bool.and_eq_true, decide_eq_true_eq] at h
    refine ⟨h.2, fun v hv => ?_⟩
    cases hv
    exact h.1

/-- The first span adds its offset, if the second lies in it. -/
theorem mem_offsetsFrom_cons {second offset o : Int} {since : Option Int} {t : Transition}
    {ts : List Transition} :
    o ∈ offsetsFrom second since offset (t :: ts) ↔
      (o = offset ∧ (∀ a ∈ since, a + offset ≤ second) ∧ second < t.second + offset) ∨
        o ∈ offsetsFrom second (some t.second) t.offset ts := by
  have hsince : since.all (· + offset ≤ second) = true ↔ ∀ a ∈ since, a + offset ≤ second := by
    cases since <;> simp
  rw [offsetsFrom, ← hsince]
  by_cases h : since.all (· + offset ≤ second) = true ∧ second < t.second + offset
  · simp [h.1, h.2]
  · have hif :
        (since.all (· + offset ≤ second) && decide (second < t.second + offset)) = false := by
      rw [Bool.eq_false_iff]
      simpa using h
    simp only [hif]
    constructor
    · exact Or.inr
    · rintro (⟨_, ha, hb⟩ | hrest)
      · exact absurd ⟨ha, hb⟩ h
      · exact hrest

/-- What the spans from an instant on list: the offsets in force where they lead to. -/
theorem mem_offsetsFrom {second offset o : Int} {since : Option Int} {ts : List Transition}
    (hts : Transition.ascend ts = true) (hs : ∀ a ∈ since, ∀ t ∈ ts.head?, a < t.second) :
    o ∈ offsetsFrom second since offset ts ↔
      (∀ a ∈ since, a ≤ second - o) ∧ offsetFrom (second - o) offset ts = o := by
  induction ts generalizing since offset with
  | nil =>
    rw [offsetsFrom, offsetFrom]
    cases since with
    | none => simp [eq_comm]
    | some a =>
      by_cases ha : a + offset ≤ second
      · simp only [Option.all_some, ha, decide_true, if_true, List.mem_singleton,
          Option.mem_some, forall_eq']
        omega
      · simp only [Option.all_some, ha, decide_false, Bool.false_eq_true, if_false,
          List.not_mem_nil, Option.mem_some, forall_eq', false_iff]
        omega
  | cons t ts ih =>
    obtain ⟨htail, hhead⟩ := ascend_tail hts
    have hrest : o ∈ offsetsFrom second (some t.second) t.offset ts ↔
        (∀ a ∈ some t.second, a ≤ second - o) ∧ offsetFrom (second - o) t.offset ts = o :=
      ih htail fun a ha u hu => by
        cases ha
        exact hhead u hu
    rw [mem_offsetsFrom_cons, hrest, offsetFrom]
    have hst : ∀ a ∈ since, a < t.second := fun a ha => hs a ha t rfl
    by_cases ht : second - o < t.second
    · rw [if_pos ht]
      constructor
      · rintro (⟨rfl, ha, _⟩ | ⟨ha, _⟩)
        · exact ⟨fun a h => by have := ha a h; omega, rfl⟩
        · have := ha t.second rfl
          omega
      · rintro ⟨ha, rfl⟩
        exact Or.inl ⟨rfl, fun a h => by have := ha a h; omega, by omega⟩
    · rw [if_neg ht]
      constructor
      · rintro (⟨rfl, _, hlt⟩ | ⟨_, ho⟩)
        · omega
        · exact ⟨fun a h => by have := hst a h; omega, ho⟩
      · rintro ⟨_, ho⟩
        exact Or.inr ⟨fun a h => by cases h; omega, ho⟩

/-- The clock shows a local time under exactly the offsets that are in force at the
instants they lead to. -/
theorem mem_offsetsOf {z : Zone} {t : LocalTime} {o : Int} :
    o ∈ z.offsetsOf t ↔ z.offsetAt ⟨t.seconds - o, t.nanos⟩ = o := by
  rw [offsetsOf, mem_offsetsFrom z.ascending (by simp), offsetAt]
  exact and_iff_right (by simp)

theorem exists_of_mem_mapM {f : α → Option β} {l : List α} {bs : List β} {b : β}
    (h : l.mapM f = some bs) (hb : b ∈ bs) : ∃ a ∈ l, f a = some b := by
  induction l generalizing bs with
  | nil =>
    cases h
    cases hb
  | cons a l ih =>
    rw [List.mapM_cons] at h
    cases ha : f a with
    | none => simp [ha] at h
    | some c =>
      cases hl : l.mapM f with
      | none => simp [ha, hl] at h
      | some cs =>
        simp only [ha, hl, Option.bind_eq_bind, Option.bind_some, Option.pure_def,
          Option.some.injEq] at h
        subst h
        rcases List.mem_cons.1 hb with rfl | hb
        · exact ⟨a, List.mem_cons_self, ha⟩
        · obtain ⟨d, hd, hf⟩ := ih hl hb
          exact ⟨d, List.mem_cons_of_mem _ hd, hf⟩

theorem of_ofLocal? {t : LocalTime} {o : Int} {i : Instant}
    (h : Instant.ofLocal? t o = some i) : i = ⟨t.seconds - o, t.nanos⟩ := by
  unfold Instant.ofLocal? at h
  dsimp only at h
  split at h
  · exact (Option.some.inj h).symm
  · cases h

theorem of_mem_readings {z : Zone} {t : LocalTime} {r : Zoned} (h : r ∈ z.readings t) :
    r.offset ∈ z.offsetsOf t ∧ r.instant = ⟨t.seconds - r.offset, t.nanos⟩ := by
  unfold readings at h
  cases hm : (z.offsetsOf t).mapM fun offset =>
      (Instant.ofLocal? t offset).map fun i => Zoned.mk i offset with
  | none => simp [hm] at h
  | some rs =>
    rw [hm, Option.getD_some] at h
    obtain ⟨o, ho, hr⟩ := exists_of_mem_mapM hm h
    obtain ⟨i, hi, rfl⟩ := Option.map_eq_some_iff.1 hr
    exact ⟨ho, of_ofLocal? hi⟩

/-- A reading stands under the offset in force at its instant. -/
theorem offsetAt_of_mem_readings {z : Zone} {t : LocalTime} {r : Zoned}
    (h : r ∈ z.readings t) : z.offsetAt r.instant = r.offset := by
  rw [(of_mem_readings h).2]
  exact mem_offsetsOf.1 (of_mem_readings h).1

/-- A reading of a local time shows that time. -/
theorem localTime_of_mem_readings {z : Zone} {t : LocalTime} {r : Zoned}
    (h : r ∈ z.readings t) : r.localTime = t := by
  simp [Zoned.localTime, Instant.toLocal, (of_mem_readings h).2]

end RowFilter.Zone
