import Mathlib.Algebra.Group.Nat.Defs
import Mathlib.Data.List.Induction
import RowFilter.Calendar.Date.Shift
import RowFilter.Calendar.Instant
import RowFilter.Text.Blank.Lemmas
/-!
# Dates and instants as texts write them

The grammar of the texts that are read as dates and as instants, apart from the readers. A date is
a year, a month and a day with hyphens between them; in the ISO form they have four, two and two
digits, in the loose one blanks may stand before the month and the day, which need one digit, and
the year has a sign or up to four digits. An instant is an ISO date, a time of day, a fraction of
a second and an offset. Which signs count as a minus and which minutes have a second 60 are left
open: `InstantForm` has them as parameters.

Results:
* `Date.ofIsoChars?_eq_some_iff`: the reader of dates takes the loose form, and nothing else.
* `Zoned.ofRfc3339Chars?_eq_some_iff`: the reader of instants takes two signs as a minus and a
  second 60 in every minute.
* `InstantForm.ofIsoChars?`: what writes an instant is not read as a date.
-/
namespace RowFilter

open Text

/-! ## Numbers -/

/-- The characters are digits that write a number, as many as `width` allows. -/
structure IsNumber (width : Nat → Prop) (n : Nat) (ds : List Char) : Prop where
  isDigit : ∀ c ∈ ds, c.isDigit = true
  width_length : width ds.length
  value : Decimal.digitsValue ds = n

/-- The characters do not go on with a digit. -/
def EndsDigits (cs : List Char) : Prop := ∀ c ∈ cs.head?, c.isDigit = false

variable {width : Nat → Prop} {n : Nat} {ds rest cs : List Char}

theorem toNat_of_isDigit {c : Char} (h : c.isDigit = true) : 48 ≤ c.toNat ∧ c.toNat ≤ 57 := by
  simp only [Char.isDigit, Bool.and_eq_true, decide_eq_true_eq, UInt32.le_iff_toNat_le] at h
  exact h

theorem isBlank_of_isDigit {c : Char} (h : c.isDigit = true) : isBlank c = false := by
  obtain ⟨h48, h57⟩ := toNat_of_isDigit h
  simp only [isBlank, Bool.or_eq_false_iff, Bool.and_eq_false_iff, decide_eq_false_iff_not]
  omega

theorem digitsValue_lt {ds : List Char} (h : ∀ c ∈ ds, c.isDigit = true) :
    Decimal.digitsValue ds < 10 ^ ds.length := by
  induction ds using List.reverseRecOn with
  | nil => simp [Decimal.digitsValue]
  | append_singleton ds c ih =>
    have hc := toNat_of_isDigit (h c (by simp))
    have hlt := ih fun d hd => h d (by simp [hd])
    have hlast : Decimal.digitsValue (ds ++ [c]) = 10 * Decimal.digitsValue ds + (c.toNat - 48) := by
      simp [Decimal.digitsValue, Decimal.digitValue]
    rw [hlast, List.length_append, List.length_singleton, Nat.pow_succ]
    omega

theorem IsNumber.exists_cons (h : IsNumber width n ds) (h0 : ¬ width 0) :
    ∃ c cs, ds = c :: cs ∧ c.isDigit = true := by
  cases ds with
  | nil => exact absurd h.width_length h0
  | cons c cs => exact ⟨c, cs, rfl, h.isDigit c List.mem_cons_self⟩

theorem IsNumber.skipBlanks_append (h : IsNumber width n ds) (h0 : ¬ width 0) (rest : List Char) :
    skipBlanks (ds ++ rest) = ds ++ rest := by
  obtain ⟨c, cs, rfl, hc⟩ := h.exists_cons h0
  exact skipBlanks_of_head (by rintro _ ⟨⟩; exact isBlank_of_isDigit hc)

theorem IsNumber.mono {width' : Nat → Prop} (h : IsNumber width n ds)
    (hw : width ds.length → width' ds.length) : IsNumber width' n ds :=
  ⟨h.isDigit, hw h.width_length, h.value⟩

/-! ## The forms of a date -/

/-- A year, a month and a day with hyphens between them, the year as `year` has it and the others
as `part` has them. -/
inductive DateForm (year : Int → List Char → Prop) (part : Nat → List Char → Prop) :
    Civil → List Char → Prop
  | mk {y : Int} {m d : Nat} {ys ms ds : List Char} (hy : year y ys) (hm : part m ms)
    (hd : part d ds) : DateForm year part ⟨y, m, d⟩ (ys ++ '-' :: (ms ++ '-' :: ds))

/-- A number of two digits. -/
def TwoDigits : Nat → List Char → Prop := IsNumber (· = 2)

/-- A year of four digits. -/
inductive FourDigits : Int → List Char → Prop
  | mk {n : Nat} {ds : List Char} (h : IsNumber (· = 4) n ds) : FourDigits n ds

/-- A year of up to four digits, or of any number of them after a sign. -/
inductive LooseYear : Int → List Char → Prop
  | plain {n : Nat} {ds : List Char} (h : IsNumber (fun w => 1 ≤ w ∧ w ≤ 4) n ds) : LooseYear n ds
  | plus {n : Nat} {ds : List Char} (h : IsNumber (1 ≤ ·) n ds) : LooseYear n ('+' :: ds)
  | minus {n : Nat} {ds : List Char} (h : IsNumber (1 ≤ ·) n ds) : LooseYear (-n) ('-' :: ds)

/-- One or two digits after blanks. -/
inductive LoosePart : Nat → List Char → Prop
  | mk {n : Nat} {g ds : List Char} (hg : IsGap g) (h : IsNumber (fun w => 1 ≤ w ∧ w ≤ 2) n ds) :
    LoosePart n (g ++ ds)

/-- The calendar date `YYYY-MM-DD`. -/
abbrev IsoForm : Civil → List Char → Prop := DateForm FourDigits TwoDigits

abbrev LooseForm : Civil → List Char → Prop := DateForm LooseYear LoosePart

theorem TwoDigits.loosePart (h : TwoDigits n ds) : LoosePart n ds :=
  .mk (g := []) nofun (h.mono fun hw => by omega)

theorem FourDigits.looseYear {y : Int} (h : FourDigits y ds) : LooseYear y ds := by
  obtain ⟨h⟩ := h
  exact .plain (h.mono fun hw => by omega)

/-- The loose form takes in the ISO form. -/
theorem DateForm.loose {c : Civil} (h : IsoForm c cs) : LooseForm c cs := by
  obtain ⟨hy, hm, hd⟩ := h
  exact .mk hy.looseYear hm.loosePart hd.loosePart

/-! ## Reading dates -/

namespace Date

theorem takeNumber?_append {k : Nat} (h : IsNumber (fun w => 1 ≤ w ∧ w ≤ k) n ds)
    (hrest : EndsDigits rest) : takeNumber? k (ds ++ rest) = some (n, rest) := by
  have hends : (rest.take (k - ds.length)).takeWhile Char.isDigit = [] := by
    cases rest with
    | nil => simp
    | cons c rest =>
      have hc : c.isDigit = false := hrest c rfl
      cases k - ds.length <;> simp [hc]
  have htake : ((ds ++ rest).take k).takeWhile Char.isDigit = ds := by
    rw [List.take_append, List.take_of_length_le h.width_length.2,
      List.takeWhile_append_of_pos h.isDigit, hends, List.append_nil]
  have hne : ds.isEmpty = false :=
    List.isEmpty_eq_false_iff.mpr (List.length_pos_iff.mp h.width_length.1)
  simp only [takeNumber?, htake, hne, h.value]
  simp

theorem exists_of_takeNumber? {k : Nat} (h : takeNumber? k cs = some (n, rest)) :
    ∃ ds, IsNumber (fun w => 1 ≤ w ∧ w ≤ k) n ds ∧ cs = ds ++ rest := by
  unfold takeNumber? at h
  dsimp only at h
  have hleading : (cs.take k).takeWhile Char.isDigit <+: cs.take k := List.takeWhile_prefix _
  generalize hds : (cs.take k).takeWhile Char.isDigit = ds at h hleading
  split at h
  · cases h
  · rename_i hne
    cases h
    refine ⟨ds, ⟨?_, ⟨?_, ?_⟩, rfl⟩, ?_⟩
    · subst hds
      exact List.all_eq_true.mp List.all_takeWhile
    · exact List.length_pos_iff.mpr (by simpa using hne)
    · exact hleading.length_le.trans (List.length_take_le k cs)
    · exact (List.prefix_iff_eq_append.mp (hleading.trans (List.take_prefix k cs))).symm

/-- After a sign all digits are the year's. -/
theorem takeNumber?_signed (h : IsNumber (1 ≤ ·) n ds) (hrest : EndsDigits rest) :
    takeNumber? (ds ++ rest).length (ds ++ rest) = some (n, rest) :=
  takeNumber?_append (h.mono fun hw => ⟨hw, by simp⟩) hrest

theorem takeYear?_append {y : Int} {ys : List Char} (h : LooseYear y ys) (hrest : EndsDigits rest) :
    takeYear? (ys ++ rest) = some (y, rest) := by
  cases h with
  | plain h =>
    have hread := takeNumber?_append h hrest
    rw [takeYear?, h.skipBlanks_append (by simp)]
    obtain ⟨c, cs, rfl, hc⟩ := h.exists_cons (by simp)
    split
    · rename_i heq
      cases heq
      cases hc
    · rename_i heq
      cases heq
      cases hc
    · rw [hread]
      rfl
  | plus h =>
    rw [takeYear?, List.cons_append, skipBlanks_of_head (by rintro _ ⟨⟩; decide)]
    simp only [takeNumber?_signed h hrest, Option.map_some]
  | minus h =>
    rw [takeYear?, List.cons_append, skipBlanks_of_head (by rintro _ ⟨⟩; decide)]
    simp only [takeNumber?_signed h hrest, Option.map_some]

theorem exists_of_takeYear? {y : Int} (h : takeYear? cs = some (y, rest)) :
    ∃ ys, LooseYear y ys ∧ skipBlanks cs = ys ++ rest := by
  unfold takeYear? at h
  split at h
  · rename_i hskip
    obtain ⟨⟨n, rest⟩, hnumber, ⟨⟩⟩ := Option.map_eq_some_iff.mp h
    obtain ⟨ds, hds, rfl⟩ := exists_of_takeNumber? hnumber
    exact ⟨'-' :: ds, .minus (hds.mono And.left), hskip⟩
  · rename_i hskip
    obtain ⟨⟨n, rest⟩, hnumber, ⟨⟩⟩ := Option.map_eq_some_iff.mp h
    obtain ⟨ds, hds, rfl⟩ := exists_of_takeNumber? hnumber
    exact ⟨'+' :: ds, .plus (hds.mono And.left), hskip⟩
  · obtain ⟨⟨n, rest⟩, hnumber, ⟨⟩⟩ := Option.map_eq_some_iff.mp h
    obtain ⟨ds, hds, hcs⟩ := exists_of_takeNumber? hnumber
    exact ⟨ds, .plain hds, hcs⟩

theorem takePart?_append {ps : List Char} (h : LoosePart n ps) (hrest : EndsDigits rest) :
    takePart? ('-' :: (ps ++ rest)) = some (n, rest) := by
  obtain ⟨hg, h⟩ := h
  rw [takePart?, List.append_assoc, skipBlanks_append hg, h.skipBlanks_append (by simp)]
  exact takeNumber?_append h hrest

theorem exists_of_takePart? (h : takePart? cs = some (n, rest)) :
    ∃ ps, LoosePart n ps ∧ cs = '-' :: (ps ++ rest) := by
  unfold takePart? at h
  split at h
  · rename_i cs
    obtain ⟨ds, hds, hskip⟩ := exists_of_takeNumber? h
    obtain ⟨g, hg, hcs⟩ := exists_skipBlanks cs
    exact ⟨g ++ ds, .mk hg hds, by rw [List.append_assoc, ← hskip, ← hcs]⟩
  · cases h

theorem endsDigits_hyphen (cs : List Char) : EndsDigits ('-' :: cs) := by
  rintro _ ⟨⟩
  rfl

/-- A date in the loose form that is all of the text is read. -/
theorem ofIsoChars?_of_form {c : Civil} (h : LooseForm c cs) : ofIsoChars? cs = ofCivil? c := by
  obtain ⟨hy, hm, hd⟩ := h
  rename_i y m d ys ms ds
  have hday : takePart? ('-' :: (ds ++ [])) = some (d, []) := takePart?_append hd nofun
  rw [List.append_nil] at hday
  rw [ofIsoChars?, takeYear?_append hy (endsDigits_hyphen _), Option.bind_eq_bind, Option.bind_some]
  simp only [Option.bind_eq_bind, Option.bind_some, takePart?_append hm (endsDigits_hyphen _), hday]
  rfl

/-- The reader of dates takes the loose form, blanks before it aside, and nothing else. -/
theorem ofIsoChars?_eq_some_iff {d : Date} (hcs : ∀ c ∈ cs.head?, isBlank c = false) :
    ofIsoChars? cs = some d ↔ ∃ c, LooseForm c cs ∧ ofCivil? c = some d := by
  constructor
  · intro h
    simp only [ofIsoChars?, Option.bind_eq_bind, Option.bind_eq_some_iff, Prod.exists] at h
    obtain ⟨y, cs₁, hyear, m, cs₂, hmonth, n, cs₃, hday, h⟩ := h
    obtain ⟨ys, hy, hcs₁⟩ := exists_of_takeYear? hyear
    obtain ⟨ms, hm, rfl⟩ := exists_of_takePart? hmonth
    obtain ⟨ds, hd, rfl⟩ := exists_of_takePart? hday
    split at h
    · rename_i hend
      obtain rfl := List.isEmpty_iff.mp hend
      rw [skipBlanks_of_head hcs, List.append_nil] at hcs₁
      exact ⟨⟨y, m, n⟩, hcs₁ ▸ .mk hy hm hd, h⟩
    · cases h
  · rintro ⟨c, hform, hc⟩
    rw [ofIsoChars?_of_form hform, hc]

/-- Of a year of four digits all dates are supported. -/
theorem year_of_iso {c : Civil} (h : IsoForm c cs) (hc : isCivil c = true) :
    0 ≤ (ofCivil c).year ∧ (ofCivil c).year ≤ 9999 := by
  have hyear : (ofCivil c).year = c.year := congrArg Civil.year (civil_ofCivil hc)
  rw [hyear]
  obtain ⟨@⟨n, ys, hn⟩, -, -⟩ := h
  have hlt := digitsValue_lt hn.isDigit
  rw [hn.value, hn.width_length] at hlt
  dsimp only
  omega

theorem ofCivil?_of_iso {c : Civil} (h : IsoForm c cs) (hc : isCivil c = true) :
    ofCivil? c = some (ofCivil c) := by
  obtain ⟨h0, h9⟩ := year_of_iso h hc
  rw [ofCivil?, if_pos hc, supported?, if_pos (isSupported_of_year (by omega) (by omega))]

end Date

/-! ## The form of an instant -/

/-- A point and digits, or nothing. -/
inductive FractionForm : Nat → List Char → Prop
  | none : FractionForm 0 []
  | point {ds : List Char} (hne : ds ≠ []) (hds : ∀ c ∈ ds, c.isDigit = true) :
    FractionForm (Zoned.fractionNanos ds) ('.' :: ds)

/-- A letter for universal time, or hours and minutes after a sign. -/
inductive OffsetForm (minus : Char → Prop) : Int → List Char → Prop
  | universal {c : Char} (hc : c = 'Z' ∨ c = 'z') : OffsetForm minus 0 [c]
  | clock {c : Char} {sign : Int} {h m : Nat} {hs ms : List Char}
    (hsign : c = '+' ∧ sign = 1 ∨ minus c ∧ sign = -1) (hh : TwoDigits h hs) (hm : TwoDigits m ms)
    (hhour : h ≤ 23) (hminute : m ≤ 59) :
    OffsetForm minus (sign * (h * 3600 + m * 60)) (c :: (hs ++ ':' :: ms))

/-- The instant at which a clock shows a time of a day. Second 60 goes on in the second before. -/
def Zoned.shown (c : Civil) (hour minute second nanos : Nat) (offset : Int) : Zoned :=
  ⟨⟨(Date.ofCivil c).dayNumber * 86400 + (hour * 3600 + minute * 60 + min second 59 : Nat) - offset,
    nanos + if second = 60 then 1_000_000_000 else 0⟩, offset⟩

/-- A calendar date, a time of day with or without a fraction, and an offset. A second 60 may
follow on the seconds for which `leap` holds. -/
inductive InstantForm (minus : Char → Prop) (leap : Int → Prop) : Zoned → List Char → Prop
  | mk {c : Civil} {hour minute second nanos : Nat} {offset : Int} {separator : Char}
    {date hourText minuteText secondText fraction zone : List Char}
    (hdate : IsoForm c date) (hc : Date.isCivil c = true)
    (hseparator : separator = 'T' ∨ separator = 't' ∨ separator = ' ')
    (hh : TwoDigits hour hourText) (hm : TwoDigits minute minuteText)
    (hs : TwoDigits second secondText)
    (hfraction : FractionForm nanos fraction) (hzone : OffsetForm minus offset zone)
    (hhour : hour ≤ 23) (hminute : minute ≤ 59) (hsecond : second ≤ 60)
    (hleap : second = 60 → leap (Zoned.shown c hour minute second nanos offset).instant.seconds) :
    InstantForm minus leap (.shown c hour minute second nanos offset)
      (date ++ separator :: (hourText ++ ':' :: (minuteText ++ ':' ::
        (secondText ++ (fraction ++ zone)))))

/-! ## Reading instants -/

namespace Zoned

theorem takeFixed?_eq_some_iff {w : Nat} :
    takeFixed? w cs = some (n, rest) ↔ ∃ ds, IsNumber (· = w) n ds ∧ cs = ds ++ rest := by
  unfold takeFixed?
  constructor
  · intro h
    dsimp only at h
    split at h
    · rename_i hall
      cases h
      exact ⟨cs.take w, ⟨List.all_eq_true.mp hall.2, hall.1, rfl⟩, (List.take_append_drop w cs).symm⟩
    · cases h
  · rintro ⟨ds, ⟨hdigits, rfl, rfl⟩, rfl⟩
    have hall : ds.all Char.isDigit = true := List.all_eq_true.mpr hdigits
    simp [hall]

theorem takeChar?_eq_some_iff {c : Char} : takeChar? c cs = some rest ↔ cs = c :: rest := by
  cases cs with
  | nil => simp [takeChar?]
  | cons d cs =>
    by_cases h : c = d
    · simp [takeChar?, h]
    · simp [takeChar?, h, Ne.symm h]

/-- What the reader takes as a minus: a hyphen or the minus sign of typography. -/
def IsMinus (c : Char) : Prop := c = '-' ∨ c = '\u2212'

/-- Reads hours and minutes, which `sign` is in front of. -/
def readClock? (sign : Int) (cs : List Char) : Option Int := do
  let (hours, cs) ← takeFixed? 2 cs
  let cs ← takeChar? ':' cs
  let (minutes, cs) ← takeFixed? 2 cs
  if cs.isEmpty ∧ hours ≤ 23 ∧ minutes ≤ 59 then some (sign * (hours * 3600 + minutes * 60))
  else none

theorem readClock?_eq_some_iff {sign o : Int} : readClock? sign cs = some o ↔
    ∃ h m hs ms, TwoDigits h hs ∧ TwoDigits m ms ∧ h ≤ 23 ∧ m ≤ 59 ∧ cs = hs ++ ':' :: ms
      ∧ sign * (h * 3600 + m * 60) = o := by
  simp only [readClock?, Option.bind_eq_bind, Option.bind_eq_some_iff, Prod.exists]
  constructor
  · rintro ⟨h, cs₁, hh, cs₂, hcolon, m, cs₃, hm, hread⟩
    obtain ⟨hs, hhs, rfl⟩ := takeFixed?_eq_some_iff.mp hh
    obtain rfl := takeChar?_eq_some_iff.mp hcolon
    obtain ⟨ms, hms, rfl⟩ := takeFixed?_eq_some_iff.mp hm
    obtain ⟨⟨hend, hhour, hminute⟩, ho⟩ := Option.ite_none_right_eq_some.mp hread
    obtain rfl := List.isEmpty_iff.mp hend
    exact ⟨h, m, hs, ms, hhs, hms, hhour, hminute, by rw [List.append_nil], Option.some_inj.mp ho⟩
  · rintro ⟨h, m, hs, ms, hhs, hms, hhour, hminute, rfl, rfl⟩
    refine ⟨h, ':' :: ms, takeFixed?_eq_some_iff.mpr ⟨hs, hhs, rfl⟩, ms,
      takeChar?_eq_some_iff.mpr rfl, m, [], takeFixed?_eq_some_iff.mpr ⟨ms, hms, ?_⟩, ?_⟩
    · rw [List.append_nil]
    · rw [if_pos ⟨rfl, hhour, hminute⟩]

theorem readOffset?_cons (c : Char) (cs : List Char) :
    readOffset? (c :: cs) = if cs = [] ∧ (c = 'Z' ∨ c = 'z') then some 0
      else if c = '+' then readClock? 1 cs
      else if c = '-' ∨ c = '\u2212' then readClock? (-1) cs else none := by
  rw [readOffset?.eq_def]
  split
  · rename_i heq
    cases heq
    rfl
  · rename_i heq
    cases heq
    rfl
  · rename_i hupper hlower heq
    cases heq
    have hletter : ¬ (cs = [] ∧ (c = 'Z' ∨ c = 'z')) :=
      fun ⟨hcs, hc⟩ => hc.elim (hupper · hcs) (hlower · hcs)
    rw [if_neg hletter]
    split
    · rfl
    · split <;> rfl
  · rename_i heq
    cases heq

theorem readOffset?_eq_some_iff {o : Int} : readOffset? cs = some o ↔ OffsetForm IsMinus o cs := by
  constructor
  · intro h
    cases cs with
    | nil => cases h
    | cons c cs =>
      rw [readOffset?_cons] at h
      split at h
      · rename_i hletter
        cases h
        exact hletter.1 ▸ .universal hletter.2
      · have hsign : ∃ sign : Int, (c = '+' ∧ sign = 1 ∨ IsMinus c ∧ sign = -1)
            ∧ readClock? sign cs = some o := by
          split at h
          · exact ⟨1, .inl ⟨‹_›, rfl⟩, h⟩
          · obtain ⟨hminus, h⟩ := Option.ite_none_right_eq_some.mp h
            exact ⟨-1, .inr ⟨hminus, rfl⟩, h⟩
        obtain ⟨sign, hsign, h⟩ := hsign
        obtain ⟨h, m, hs, ms, hhs, hms, hhour, hminute, rfl, rfl⟩ := readClock?_eq_some_iff.mp h
        exact .clock hsign hhs hms hhour hminute
  · rintro (⟨rfl | rfl⟩ | @⟨c, sign, h, m, hs, ms, hsign, hh, hm, hhour, hminute⟩)
    · rfl
    · rfl
    · have hread : readClock? sign (hs ++ ':' :: ms) = some (sign * (h * 3600 + m * 60)) :=
        readClock?_eq_some_iff.mpr ⟨h, m, hs, ms, hh, hm, hhour, hminute, rfl, rfl⟩
      rw [readOffset?_cons, if_neg (by simp)]
      obtain ⟨rfl, rfl⟩ | ⟨hminus, rfl⟩ := hsign
      · rw [if_pos rfl, hread]
      · have hplus : c ≠ '+' := by obtain rfl | rfl := hminus <;> decide
        exact (if_neg hplus).trans ((if_pos hminus).trans hread)

theorem lt_of_offsetForm {minus : Char → Prop} {o : Int} (h : OffsetForm minus o cs) :
    -86400 < o ∧ o < 86400 := by
  cases h with
  | universal => decide
  | clock hsign hh hm hhour hminute => obtain ⟨-, rfl⟩ | ⟨-, rfl⟩ := hsign <;> omega

/-- An offset goes on neither the digits of a fraction nor with a point. -/
theorem head_of_offsetForm {o : Int} (h : OffsetForm IsMinus o rest) :
    EndsDigits rest ∧ ∀ c ∈ rest.head?, c ≠ '.' := by
  have hhead : ∀ c ∈ rest.head?, c = 'Z' ∨ c = 'z' ∨ c = '+' ∨ IsMinus c := by
    cases h with
    | universal hc =>
      rintro _ ⟨⟩
      exact hc.imp_right .inl
    | clock hsign =>
      rintro _ ⟨⟩
      obtain ⟨rfl, -⟩ | ⟨hminus, -⟩ := hsign
      · exact .inr (.inr (.inl rfl))
      · exact .inr (.inr (.inr hminus))
  constructor
  · intro c hc
    obtain rfl | rfl | rfl | rfl | rfl := hhead c hc <;> rfl
  · intro c hc
    obtain rfl | rfl | rfl | rfl | rfl := hhead c hc <;> decide

theorem takeFraction?_append {nanos : Nat} {fs : List Char} (h : FractionForm nanos fs)
    (hrest : EndsDigits rest) (hpoint : ∀ c ∈ rest.head?, c ≠ '.') :
    takeFraction? (fs ++ rest) = some (nanos, rest) := by
  cases h with
  | none =>
    unfold takeFraction?
    split
    · exact absurd rfl (hpoint '.' (by simp_all))
    · rfl
  | @point ds hne hds =>
    rw [List.cons_append, takeFraction?, Decimal.takeDigits_append_of_isDigit hds hrest]
    cases ds with
    | nil => exact absurd rfl hne
    | cons d ds => rfl

theorem exists_of_takeFraction? {nanos : Nat} (h : takeFraction? cs = some (nanos, rest)) :
    ∃ fs, FractionForm nanos fs ∧ cs = fs ++ rest := by
  unfold takeFraction? at h
  split at h
  · rename_i cs
    split at h
    · cases h
    · rename_i ds _ hne htake
      cases h
      have happend := Decimal.takeDigits_append cs
      have hdigits := fun c => @Decimal.isDigit_of_mem_takeDigits cs c
      rw [htake] at happend hdigits
      exact ⟨'.' :: ds, .point hne hdigits, by rw [← happend]; rfl⟩
  · cases h
    exact ⟨[], .none, rfl⟩

/-! ### The parts of an instant -/

/-- Takes a calendar date of fixed width. -/
def takeDate? (cs : List Char) : Option (Civil × List Char) := do
  let (year, cs) ← takeFixed? 4 cs
  let cs ← takeChar? '-' cs
  let (month, cs) ← takeFixed? 2 cs
  let cs ← takeChar? '-' cs
  let (day, cs) ← takeFixed? 2 cs
  return (⟨year, month, day⟩, cs)

/-- Takes the letter or the blank between date and time. -/
def takeSeparator? : List Char → Option (List Char)
  | 'T' :: cs | 't' :: cs | ' ' :: cs => some cs
  | _ => none

/-- Takes hour, minute and second with colons between them. -/
def takeTime? (cs : List Char) : Option ((Nat × Nat × Nat) × List Char) := do
  let (hour, cs) ← takeFixed? 2 cs
  let cs ← takeChar? ':' cs
  let (minute, cs) ← takeFixed? 2 cs
  let cs ← takeChar? ':' cs
  let (second, cs) ← takeFixed? 2 cs
  return ((hour, minute, second), cs)

/-- The instant of a date, a time of day and an offset, if there are such. -/
def ofParts? (c : Civil) (hour minute second nanos : Nat) (offset : Int) : Option Zoned := do
  let date ← Date.ofCivil? c
  if hour ≤ 23 ∧ minute ≤ 59 ∧ second ≤ 60 then
    let shown := hour * 3600 + minute * 60 + min second 59
    let leap := if second = 60 then 1_000_000_000 else 0
    let instant ← Instant.ofLocal? (.atSecond date shown (nanos + leap)) offset
    return ⟨instant, offset⟩
  else none

theorem ofRfc3339Chars?_eq (cs : List Char) : ofRfc3339Chars? cs = (do
    let (c, cs) ← takeDate? cs
    let cs ← takeSeparator? cs
    let ((hour, minute, second), cs) ← takeTime? cs
    let (nanos, cs) ← takeFraction? cs
    let offset ← readOffset? cs
    ofParts? c hour minute second nanos offset) := by
  have htime (c : Civil) (cs : List Char) : (do
      let (hour, cs) ← takeFixed? 2 cs
      let cs ← takeChar? ':' cs
      let (minute, cs) ← takeFixed? 2 cs
      let cs ← takeChar? ':' cs
      let (second, cs) ← takeFixed? 2 cs
      let (nanos, cs) ← takeFraction? cs
      let offset ← readOffset? cs
      ofParts? c hour minute second nanos offset) = (do
      let ((hour, minute, second), cs) ← takeTime? cs
      let (nanos, cs) ← takeFraction? cs
      let offset ← readOffset? cs
      ofParts? c hour minute second nanos offset) := by
    simp only [takeTime?, bind_assoc, pure_bind]
  simp only [takeDate?, bind_assoc, pure_bind, ← htime]
  refine bind_congr fun (year, cs₁) => bind_congr fun cs₂ => bind_congr fun (month, cs₃) =>
    bind_congr fun cs₄ => bind_congr fun (day, cs₅) => ?_
  dsimp only
  split
  · rfl
  · rfl
  · rfl
  · rename_i hupper hlower hblank
    rw [takeSeparator?.eq_4 _ hupper hlower hblank]
    rfl

theorem takeDate?_eq_some_iff {c : Civil} :
    takeDate? cs = some (c, rest) ↔ ∃ ds, IsoForm c ds ∧ cs = ds ++ rest := by
  simp only [takeDate?, Option.bind_eq_bind, Option.bind_eq_some_iff, Prod.exists, Option.pure_def,
    Option.some_inj, Prod.mk.injEq]
  constructor
  · rintro ⟨y, cs₁, hy, cs₂, hhyphen, m, cs₃, hm, cs₄, hhyphen', d, cs₅, hd, rfl, rfl⟩
    obtain ⟨ys, hys, rfl⟩ := takeFixed?_eq_some_iff.mp hy
    obtain rfl := takeChar?_eq_some_iff.mp hhyphen
    obtain ⟨ms, hms, rfl⟩ := takeFixed?_eq_some_iff.mp hm
    obtain rfl := takeChar?_eq_some_iff.mp hhyphen'
    obtain ⟨ds, hds, rfl⟩ := takeFixed?_eq_some_iff.mp hd
    exact ⟨_, .mk (.mk hys) hms hds, by simp⟩
  · rintro ⟨_, @⟨y, m, d, ys, ms, ds, hy, hms, hds⟩, rfl⟩
    obtain @⟨n, ys, hys⟩ := hy
    simp only [List.append_assoc, List.cons_append]
    exact ⟨n, _, takeFixed?_eq_some_iff.mpr ⟨ys, hys, rfl⟩, _, takeChar?_eq_some_iff.mpr rfl, m, _,
      takeFixed?_eq_some_iff.mpr ⟨ms, hms, rfl⟩, _, takeChar?_eq_some_iff.mpr rfl, d, _,
      takeFixed?_eq_some_iff.mpr ⟨ds, hds, rfl⟩, rfl, rfl⟩

theorem takeSeparator?_eq_some_iff : takeSeparator? cs = some rest
    ↔ ∃ c, (c = 'T' ∨ c = 't' ∨ c = ' ') ∧ cs = c :: rest := by
  constructor
  · intro h
    unfold takeSeparator? at h
    split at h <;> cases h <;> simp
  · rintro ⟨c, rfl | rfl | rfl, rfl⟩ <;> rfl

theorem takeTime?_eq_some_iff {hour minute second : Nat} :
    takeTime? cs = some ((hour, minute, second), rest) ↔ ∃ hs ms ss, TwoDigits hour hs
      ∧ TwoDigits minute ms ∧ TwoDigits second ss
      ∧ cs = hs ++ ':' :: (ms ++ ':' :: (ss ++ rest)) := by
  simp only [takeTime?, Option.bind_eq_bind, Option.bind_eq_some_iff, Prod.exists, Option.pure_def,
    Option.some_inj, Prod.mk.injEq]
  constructor
  · rintro ⟨h, cs₁, hh, cs₂, hcolon, m, cs₃, hm, cs₄, hcolon', s, cs₅, hsecond, ⟨rfl, rfl, rfl⟩, rfl⟩
    obtain ⟨hs, hhs, rfl⟩ := takeFixed?_eq_some_iff.mp hh
    obtain rfl := takeChar?_eq_some_iff.mp hcolon
    obtain ⟨ms, hms, rfl⟩ := takeFixed?_eq_some_iff.mp hm
    obtain rfl := takeChar?_eq_some_iff.mp hcolon'
    obtain ⟨ss, hss, rfl⟩ := takeFixed?_eq_some_iff.mp hsecond
    exact ⟨hs, ms, ss, hhs, hms, hss, rfl⟩
  · rintro ⟨hs, ms, ss, hhs, hms, hss, rfl⟩
    exact ⟨hour, _, takeFixed?_eq_some_iff.mpr ⟨hs, hhs, rfl⟩, _, takeChar?_eq_some_iff.mpr rfl,
      minute, _, takeFixed?_eq_some_iff.mpr ⟨ms, hms, rfl⟩, _, takeChar?_eq_some_iff.mpr rfl,
      second, _, takeFixed?_eq_some_iff.mpr ⟨ss, hss, rfl⟩, ⟨rfl, rfl, rfl⟩, rfl⟩

/-- In the years of four digits every time of a day is an instant, whatever the offset. -/
theorem ofLocal?_atSecond {d : Date} {n nanos : Nat} {offset : Int} (h0 : 0 ≤ d.year)
    (h9 : d.year ≤ 9999) (hn : n < 86400) (hoffset : -86400 < offset ∧ offset < 86400) :
    Instant.ofLocal? (.atSecond d n nanos) offset
      = some ⟨d.dayNumber * 86400 + n - offset, nanos⟩ := by
  have hfirst := Date.yearStart_mono h0
  have hlast := Date.yearStart_mono (show d.year + 1 ≤ 10000 by omega)
  have hstart := Date.yearStart_year_le d
  have hend := Date.lt_yearStart_year_succ d
  have hsupported : (Date.mk ((d.dayNumber * 86400 + n - offset) / 86400)).isSupported = true := by
    rw [Date.isSupported_iff]
    have hlow : Date.yearStart (-262143) < Date.yearStart 0 - 1 := by decide
    have hhigh : Date.yearStart 10000 + 1 < Date.yearStart 262143 := by decide
    dsimp only
    omega
  exact if_pos hsupported

theorem ofParts?_eq_some_iff {c : Civil} {hour minute second nanos : Nat} {offset : Int} {z : Zoned}
    {date : List Char} (hdate : IsoForm c date) (hoffset : -86400 < offset ∧ offset < 86400) :
    ofParts? c hour minute second nanos offset = some z ↔ Date.isCivil c = true
      ∧ hour ≤ 23 ∧ minute ≤ 59 ∧ second ≤ 60 ∧ shown c hour minute second nanos offset = z := by
  unfold ofParts?
  by_cases hc : Date.isCivil c = true
  · obtain ⟨h0, h9⟩ := Date.year_of_iso hdate hc
    rw [Date.ofCivil?_of_iso hdate hc, Option.bind_eq_bind, Option.bind_some]
    by_cases hclock : hour ≤ 23 ∧ minute ≤ 59 ∧ second ≤ 60
    · have hn : hour * 3600 + minute * 60 + min second 59 < 86400 := by omega
      rw [if_pos hclock]
      dsimp only
      rw [ofLocal?_atSecond h0 h9 hn hoffset]
      simp [hc, hclock, shown]
    · rw [if_neg hclock]
      simp only [reduceCtorEq, false_iff]
      tauto
  · rw [Date.ofCivil?, if_neg hc]
    simp [hc]

/-- The reader of instants takes both signs as a minus and a second 60 anywhere. -/
theorem ofRfc3339Chars?_eq_some_iff {z : Zoned} :
    ofRfc3339Chars? cs = some z ↔ InstantForm IsMinus (fun _ => True) z cs := by
  simp only [ofRfc3339Chars?_eq, Option.bind_eq_bind, Option.bind_eq_some_iff, Prod.exists]
  constructor
  · rintro ⟨c, cs₁, hreadDate, cs₂, hreadSeparator, hour, minute, second, cs₃, hreadTime, nanos, cs₄,
      hreadFraction, offset, hreadZone, hparts⟩
    obtain ⟨date, hdate, rfl⟩ := takeDate?_eq_some_iff.mp hreadDate
    obtain ⟨separator, hseparator, rfl⟩ := takeSeparator?_eq_some_iff.mp hreadSeparator
    obtain ⟨hs, ms, ss, hhs, hms, hss, rfl⟩ := takeTime?_eq_some_iff.mp hreadTime
    obtain ⟨fraction, hfraction, rfl⟩ := exists_of_takeFraction? hreadFraction
    have hzone := readOffset?_eq_some_iff.mp hreadZone
    obtain ⟨hc, hhour, hminute, hsecond, rfl⟩ :=
      (ofParts?_eq_some_iff hdate (lt_of_offsetForm hzone)).mp hparts
    exact .mk hdate hc hseparator hhs hms hss hfraction hzone hhour hminute hsecond fun _ => trivial
  · rintro @⟨c, hour, minute, second, nanos, offset, separator, date, hs, ms, ss, fraction, zone,
      hdate, hc, hseparator, hhs, hms, hss, hfraction, hzone, hhour, hminute, hsecond, -⟩
    obtain ⟨hends, hpoint⟩ := head_of_offsetForm hzone
    exact ⟨c, _, takeDate?_eq_some_iff.mpr ⟨date, hdate, rfl⟩, _,
      takeSeparator?_eq_some_iff.mpr ⟨separator, hseparator, rfl⟩, hour, minute, second, _,
      takeTime?_eq_some_iff.mpr ⟨hs, ms, ss, hhs, hms, hss, rfl⟩, nanos, zone,
      takeFraction?_append hfraction hends hpoint, offset, readOffset?_eq_some_iff.mpr hzone,
      (ofParts?_eq_some_iff hdate (lt_of_offsetForm hzone)).mpr
        ⟨hc, hhour, hminute, hsecond, rfl⟩⟩

end Zoned

/-- What writes an instant goes on after its date, and is not read as one. -/
theorem InstantForm.ofIsoChars? {minus : Char → Prop} {leap : Int → Prop} {z : Zoned}
    (h : InstantForm minus leap z cs) : Date.ofIsoChars? cs = none := by
  obtain ⟨hdate, -, hseparator⟩ := h
  obtain ⟨hy, hm, hd⟩ := hdate
  have hends {c : Char} (hc : c = 'T' ∨ c = 't' ∨ c = ' ') (rest : List Char) :
      EndsDigits (c :: rest) := by
    rintro _ ⟨⟩
    obtain rfl | rfl | rfl := hc <;> rfl
  simp only [List.append_assoc, List.cons_append]
  rw [Date.ofIsoChars?, Date.takeYear?_append hy.looseYear (Date.endsDigits_hyphen _)]
  simp only [Option.bind_eq_bind, Option.bind_some,
    Date.takePart?_append hm.loosePart (Date.endsDigits_hyphen _),
    Date.takePart?_append hd.loosePart (hends hseparator _)]
  rfl

end RowFilter
