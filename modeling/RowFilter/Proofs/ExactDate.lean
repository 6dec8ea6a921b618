import RowFilter.Calendar.Instant.Written
import RowFilter.DateRange
/-!
# Exact dates

An exact date is to be given as `YYYY-MM-DD` or as an instant of RFC 3339. The reader of dates
that is tried first takes much more: a year of one digit or with a sign, a month and a day of one
digit, blanks before them. So `24-1-2` is a day of the year 24. The reader of instants takes the
minus sign of typography and a second 60 in every minute beside what the standard allows. Every
other text is refused, and what is in one of the two forms is the date it says.

Results:
* `exactDate_iff`: what becomes of a text, from the forms that are taken.
* `exactDate_forms`: which texts are taken though they are in neither of the two forms.
* `not_exactDate_shortYear`: a year of two digits.
-/
namespace RowFilter

open Text

/-! ## The two forms -/

/-- A date that the calendar has, as `YYYY-MM-DD`. -/
def IsIsoDate (d : Date) (cs : List Char) : Prop :=
  ∃ c, IsoForm c cs ∧ Date.isCivil c = true ∧ Date.ofCivil c = d

/-- A supported date that the calendar has, in the loose form. -/
def IsLooseDate (d : Date) (cs : List Char) : Prop := ∃ c, LooseForm c cs ∧ Date.ofCivil? c = some d

/-- An instant of RFC 3339, `leap` being the seconds on which a leap second follows. -/
abbrev IsRfc3339 (leap : Int → Prop) : Zoned → List Char → Prop := InstantForm (· = '-') leap

/-- An instant as the reader takes it. -/
abbrev IsLooseInstant : Zoned → List Char → Prop := InstantForm Zoned.IsMinus fun _ => True

theorem IsIsoDate.loose {d : Date} {cs : List Char} (h : IsIsoDate d cs) : IsLooseDate d cs := by
  obtain ⟨c, hform, hc, rfl⟩ := h
  exact ⟨c, hform.loose, Date.ofCivil?_of_iso hform hc⟩

theorem OffsetForm.loose {o : Int} {cs : List Char} (h : OffsetForm (· = '-') o cs) :
    OffsetForm Zoned.IsMinus o cs := by
  cases h with
  | universal hc => exact .universal hc
  | clock hsign hh hm hhour hminute =>
    exact .clock (hsign.imp_right (And.imp_left .inl)) hh hm hhour hminute

theorem IsRfc3339.loose {leap : Int → Prop} {t : Zoned} {cs : List Char} (h : IsRfc3339 leap t cs) :
    IsLooseInstant t cs := by
  obtain ⟨hdate, hc, hseparator, hh, hm, hs, hfraction, hzone, hhour, hminute, hsecond, -⟩ := h
  exact .mk hdate hc hseparator hh hm hs hfraction hzone.loose hhour hminute hsecond
    fun _ => trivial

/-! ## What becomes of a text -/

/-- What a text given as an exact date comes to, if its forms are these. -/
inductive ExactDate (isDate : Date → List Char → Prop) (isInstant : Zoned → List Char → Prop)
    (z : Zone) (s : String) : Except DateRangeError Date → Prop
  | blank (h : IsGap s.toList) : ExactDate isDate isInstant z s (.error .missingExactDate)
  | date {d : Date} (h : isDate d (trimChars s.toList)) : ExactDate isDate isInstant z s (.ok d)
  | instant {t : Zoned} (h : isInstant t (trimChars s.toList)) :
    ExactDate isDate isInstant z s (.ok (z.dateAt t.instant))
  | other (hblank : ¬ IsGap s.toList) (hdate : ∀ d, ¬ isDate d (trimChars s.toList))
    (hinstant : ∀ t, ¬ isInstant t (trimChars s.toList)) :
    ExactDate isDate isInstant z s (.error (.invalidExactDate (trim s)))

theorem isLooseDate_iff {d : Date} {s : String} :
    IsLooseDate d (trimChars s.toList) ↔ Date.ofIsoText? (trim s) = some d := by
  rw [Date.ofIsoText?, trim, String.toList_ofList, trimChars_trimChars]
  exact (Date.ofIsoChars?_eq_some_iff (isTrimmed_trimChars _).1).symm

theorem isLooseInstant_iff {t : Zoned} {s : String} :
    IsLooseInstant t (trimChars s.toList) ↔ Zoned.ofRfc3339? (trim s) = some t := by
  rw [Zoned.ofRfc3339?, trim, String.toList_ofList, trimChars_trimChars]
  exact Zoned.ofRfc3339Chars?_eq_some_iff.symm

/-- No text is both a date and an instant. -/
theorem IsLooseDate.not_instant {d : Date} {t : Zoned} {cs : List Char} (h : IsLooseDate d cs)
    (ht : IsLooseInstant t cs) : False := by
  obtain ⟨c, hform, hc⟩ := h
  have hread := ht.ofIsoChars?
  rw [Date.ofIsoChars?_of_form hform, hc] at hread
  cases hread

section

variable {z : Zone} {s : String} {mode : DateMode} {n : Option Int}

theorem dateIn_blank (h : trim s = "") :
    (⟨mode, n, some s⟩ : DateFilter).dateIn z = .error .missingExactDate := by
  rw [DateFilter.dateIn, Option.map_some, h]
  rfl

theorem dateIn_of_ne (h : trim s ≠ "") : (⟨mode, n, some s⟩ : DateFilter).dateIn z
    = match Date.ofIsoText? (trim s) with
      | some d => .ok d
      | none =>
        match Zoned.ofRfc3339? (trim s) with
        | some t => .ok (z.dateAt t.instant)
        | none => .error (.invalidExactDate (trim s)) := by
  rw [DateFilter.dateIn, Option.map_some]
  split
  · rename_i heq
    cases heq
  · rename_i heq
    exact absurd (Option.some_inj.mp heq) h
  · rename_i heq
    obtain rfl := Option.some_inj.mp heq
    cases Date.ofIsoText? (trim s) with
    | some d => rfl
    | none => cases Zoned.ofRfc3339? (trim s) <;> rfl

end

/-- A text that is given as an exact date comes to what the forms say that the readers take, and
to nothing else. -/
theorem exactDate_iff (z : Zone) (s : String) (mode : DateMode) (n : Option Int)
    (r : Except DateRangeError Date) :
    ExactDate IsLooseDate IsLooseInstant z s r
      ↔ (⟨mode, n, some s⟩ : DateFilter).dateIn z = r := by
  constructor
  · intro h
    cases h with
    | blank h => exact dateIn_blank (trim_eq_empty_iff.mpr h)
    | date h =>
      have hread := isLooseDate_iff.mp h
      have hne : trim s ≠ "" := fun hs => by rw [hs] at hread; cases hread
      rw [dateIn_of_ne hne, hread]
    | instant h =>
      have hread := isLooseInstant_iff.mp h
      have hne : trim s ≠ "" := fun hs => by rw [hs] at hread; cases hread
      have hdate : Date.ofIsoText? (trim s) = none :=
        Option.eq_none_iff_forall_ne_some.mpr fun d hd => (isLooseDate_iff.mpr hd).not_instant h
      rw [dateIn_of_ne hne, hdate, hread]
    | other hblank hdate hinstant =>
      have hdate' : Date.ofIsoText? (trim s) = none :=
        Option.eq_none_iff_forall_ne_some.mpr fun d hd => hdate d (isLooseDate_iff.mpr hd)
      have hinstant' : Zoned.ofRfc3339? (trim s) = none :=
        Option.eq_none_iff_forall_ne_some.mpr fun t ht => hinstant t (isLooseInstant_iff.mpr ht)
      rw [dateIn_of_ne (fun hs => hblank (trim_eq_empty_iff.mp hs)), hdate', hinstant']
  · rintro rfl
    by_cases hs : trim s = ""
    · rw [dateIn_blank hs]
      exact .blank (trim_eq_empty_iff.mp hs)
    · rw [dateIn_of_ne hs]
      cases hdate : Date.ofIsoText? (trim s) with
      | some d => exact .date (isLooseDate_iff.mpr hdate)
      | none =>
        cases hinstant : Zoned.ofRfc3339? (trim s) with
        | some t => exact .instant (isLooseInstant_iff.mpr hinstant)
        | none =>
          refine .other (fun h => hs (trim_eq_empty_iff.mpr h)) (fun d hd => ?_) (fun t ht => ?_)
          · rw [isLooseDate_iff, hdate] at hd
            cases hd
          · rw [isLooseInstant_iff, hinstant] at ht
            cases ht

/-- Whether a text is taken though it is in neither of the two forms: as a date in the loose form
only, or as an instant that is none by the standard. -/
def IsStray (leap : Int → Prop) (s : String) : Prop :=
  (∃ d, IsLooseDate d (trimChars s.toList) ∧ ¬ IsIsoDate d (trimChars s.toList))
    ∨ ∃ t, IsLooseInstant t (trimChars s.toList) ∧ ¬ IsRfc3339 leap t (trimChars s.toList)

theorem documented_iff_not_stray {leap : Int → Prop} {z : Zone} {s : String}
    {r : Except DateRangeError Date} (h : ExactDate IsLooseDate IsLooseInstant z s r) :
    ExactDate IsIsoDate (IsRfc3339 leap) z s r ↔ ¬ IsStray leap s := by
  have hunique {r' : Except DateRangeError Date}
      (h' : ExactDate IsLooseDate IsLooseInstant z s r') : r = r' :=
    ((exactDate_iff z s .exactDate none r).mp h).symm.trans
      ((exactDate_iff z s .exactDate none r').mp h')
  constructor
  · rintro hdoc (⟨d, hd, hiso⟩ | ⟨t, ht, hrfc⟩)
    · obtain rfl := hunique (.date hd)
      cases hdoc with
      | date h' => exact hiso h'
      | instant h' => exact hd.not_instant h'.loose
    · have hr := hunique (.instant ht)
      cases hdoc with
      | date h' => exact h'.loose.not_instant ht
      | instant h' =>
        have hsame := (isLooseInstant_iff.mp ht).symm.trans (isLooseInstant_iff.mp h'.loose)
        exact hrfc (Option.some_inj.mp hsame ▸ h')
      | _ => cases hr
  · intro hstray
    cases h with
    | blank h => exact .blank h
    | date h => exact .date (not_not.mp fun hiso => hstray (.inl ⟨_, h, hiso⟩))
    | instant h => exact .instant (not_not.mp fun hrfc => hstray (.inr ⟨_, h, hrfc⟩))
    | other hblank hdate hinstant =>
      exact .other hblank (fun d hd => hdate d hd.loose) fun t ht => hinstant t ht.loose

/-- A text is an exact date on its own and as a field. It comes to what the forms say that the
readers take; that is what the two documented forms say exactly if the text is not a stray one. -/
theorem exactDate_forms (leap : Int → Prop) (z : Zone) (s : String) :
    DateFilter.decode (.str s) = .ok ⟨.exactDate, none, some s⟩
      ∧ DateFilter.decode (.obj [("mode", .str "exactDate"), ("exactDate", .str s)])
        = .ok ⟨.exactDate, none, some s⟩
      ∧ ∀ (mode : DateMode) (n : Option Int),
        (∀ r, ExactDate IsLooseDate IsLooseInstant z s r
          ↔ (⟨mode, n, some s⟩ : DateFilter).dateIn z = r)
        ∧ (ExactDate IsIsoDate (IsRfc3339 leap) z s ((⟨mode, n, some s⟩ : DateFilter).dateIn z)
          ↔ ¬ IsStray leap s) :=
  ⟨rfl, rfl, fun mode n => ⟨exactDate_iff z s mode n,
    documented_iff_not_stray ((exactDate_iff z s mode n _).mpr rfl)⟩⟩

theorem length_of_isoForm {c : Civil} {cs : List Char} (h : IsoForm c cs) : cs.length = 10 := by
  obtain ⟨⟨hy⟩, hm, hd⟩ := h
  simp [hy.width_length, hm.width_length, hd.width_length]

theorem le_length_of_instantForm {minus : Char → Prop} {leap : Int → Prop} {t : Zoned}
    {cs : List Char} (h : InstantForm minus leap t cs) : 10 ≤ cs.length := by
  obtain ⟨hdate⟩ := h
  rw [List.length_append, length_of_isoForm hdate]
  exact Nat.le_add_right 10 _

/-- A year of two digits is the year 24, where the two forms have the text refused. -/
theorem not_exactDate_shortYear :
    (⟨.exactDate, none, some "24-1-2"⟩ : DateFilter).dateIn .utc = .ok (Date.ofCivil ⟨24, 1, 2⟩)
      ∧ ∀ leap, ExactDate IsIsoDate (IsRfc3339 leap) .utc "24-1-2"
        (.error (.invalidExactDate "24-1-2")) := by
  refine ⟨by decide +kernel, fun leap => .other ?_ ?_ ?_⟩
  · intro h
    cases h '2' (by decide)
  · rintro d ⟨c, hform, -⟩
    cases length_of_isoForm hform
  · intro t ht
    exact absurd (le_length_of_instantForm ht) (by decide)

end RowFilter
