import RowFilter.Json.Reader
import RowFilter.Json.Writer
import RowFilter.Number.Shortest.Lemmas
import RowFilter.Number.Stepwise.Lemmas
/-!
# Numerals

A numeral is a number as it stands in a text. The writer puts integers and all three forms of the
other numbers down as numerals, and the reader takes a numeral whole: what follows a number
in a document cannot go on with it.

* `readNumber_append`: the reader takes a numeral from the front of a text.
* `readNumber_intChars`: an integer in range is read back.
* `readNumber_textChars`: every other finite number is read as one.
* `rereadNumber_eq_self`: and as itself, if it is written with few digits.
-/
namespace RowFilter.Json

/-- A number as it stands in a text. -/
structure Numeral where
  negative : Bool
  whole : List Char
  fraction : Option (List Char)
  exponent : Option Int

namespace Numeral

def signChars (negative : Bool) : List Char := if negative then ['-'] else []

def fractionChars : Option (List Char) → List Char
  | none => []
  | some ds => '.' :: ds

def exponentChars : Option Int → List Char
  | none => []
  | some e => 'e' :: (if 0 ≤ e then '+' else '-') :: Nat.toDigits 10 e.natAbs

def chars (n : Numeral) : List Char :=
  signChars n.negative ++ (n.whole ++ (fractionChars n.fraction ++ exponentChars n.exponent))

/-- Digits where digits belong, and no zero before another digit. -/
structure WellFormed (n : Numeral) : Prop where
  whole_digits : ∀ c ∈ n.whole, c.isDigit = true
  whole_start : n.whole = ['0'] ∨ ∃ d ds, n.whole = d :: ds ∧ d ≠ '0'
  fraction_ne : ∀ ds ∈ n.fraction, ds ≠ []
  fraction_digits : ∀ ds ∈ n.fraction, ∀ c ∈ ds, c.isDigit = true

/-- The document that the numeral is. -/
def document? (n : Numeral) : Option Json := ofParts? n.negative n.whole n.fraction n.exponent

end Numeral

/-- What cannot go on with a number. -/
def EndsNumber (rest : List Char) : Prop :=
  ∀ c ∈ rest.head?, c.isDigit = false ∧ c ≠ '.' ∧ c ≠ 'e' ∧ c ≠ 'E'

/-! ## Reading the parts -/

section

open Numeral

variable {rest : List Char}

theorem isDigit_of_mem_toDigits {n : Nat} {c : Char} (h : c ∈ Nat.toDigits 10 n) :
    c.isDigit = true :=
  Nat.isDigit_of_mem_toDigits (by decide) (by decide) h

theorem takeMinus_signChars (negative : Bool) {cs : List Char} (h : ∀ c ∈ cs.head?, c ≠ '-') :
    takeMinus (signChars negative ++ cs) = (negative, cs) := by
  cases negative with
  | true => rfl
  | false =>
    cases cs with
    | nil => rfl
    | cons c cs =>
      have hc := h c rfl
      simp [signChars, takeMinus, hc]

theorem readWhole?_append {ds : List Char} (hd : ∀ c ∈ ds, c.isDigit = true)
    (hstart : ds = ['0'] ∨ ∃ d ds', ds = d :: ds' ∧ d ≠ '0')
    (hrest : ∀ c ∈ rest.head?, c.isDigit = false) : readWhole? (ds ++ rest) = some (ds, rest) := by
  rw [readWhole?, Decimal.takeDigits_append_of_isDigit hd hrest]
  rcases hstart with rfl | ⟨d, ds', rfl, hne⟩
  · rfl
  · cases ds' <;> simp [hne]

theorem readFraction?_append {fraction : Option (List Char)} (hne : ∀ ds ∈ fraction, ds ≠ [])
    (hd : ∀ ds ∈ fraction, ∀ c ∈ ds, c.isDigit = true)
    (hrest : ∀ c ∈ rest.head?, c.isDigit = false ∧ c ≠ '.') :
    readFraction? (fractionChars fraction ++ rest) = some (fraction, rest) := by
  cases fraction with
  | none =>
    cases rest with
    | nil => rfl
    | cons c rest =>
      have hc := (hrest c rfl).2
      simp [fractionChars, readFraction?, hc]
  | some ds =>
    rw [fractionChars, List.cons_append, readFraction?,
      Decimal.takeDigits_append_of_isDigit (hd ds rfl) fun c hc => (hrest c hc).1]
    cases ds with
    | nil => exact absurd rfl (hne [] rfl)
    | cons d ds => rfl

theorem digitsValue_toDigits (n : Nat) : Decimal.digitsValue (Nat.toDigits 10 n) = n :=
  Nat.ofDigitChars_ten_toDigits

theorem takeSign_sign (e : Int) (cs : List Char) :
    Decimal.takeSign ((if 0 ≤ e then '+' else '-') :: cs) = (decide (e < 0), cs) := by
  by_cases he : 0 ≤ e
  · rw [if_pos he, decide_eq_false (by omega)]
    rfl
  · rw [if_neg he, decide_eq_true (by omega)]
    rfl

theorem sign_natAbs (i : Int) : (if i < 0 then -(i.natAbs : Int) else i.natAbs) = i := by
  split <;> omega

theorem readExponent?_append (exponent : Option Int) (hrest : EndsNumber rest) :
    Decimal.readExponent? (exponentChars exponent ++ rest) = some (exponent, rest) := by
  cases exponent with
  | none =>
    cases rest with
    | nil => rfl
    | cons c rest =>
      obtain ⟨-, -, he, hE⟩ := hrest c rfl
      simp [exponentChars, Decimal.readExponent?, he, hE]
  | some e =>
    have hdigits : Decimal.takeDigits (Nat.toDigits 10 e.natAbs ++ rest)
        = (Nat.toDigits 10 e.natAbs, rest) :=
      Decimal.takeDigits_append_of_isDigit (fun c hc => isDigit_of_mem_toDigits hc)
        fun c hc => (hrest c hc).1
    have hne := @Nat.toDigits_ne_nil e.natAbs 10
    have hvalue := digitsValue_toDigits e.natAbs
    rw [exponentChars, List.cons_append, List.cons_append, Decimal.readExponent?,
      if_pos (.inl rfl), takeSign_sign]
    dsimp only
    rw [hdigits]
    generalize Nat.toDigits 10 e.natAbs = ds at hne hvalue
    cases ds with
    | nil => exact absurd rfl hne
    | cons d ds =>
      dsimp only
      rw [hvalue]
      simp only [decide_eq_true_eq, sign_natAbs]

/-- The first character is a digit. -/
theorem Numeral.WellFormed.whole_eq_cons {n : Numeral} (h : n.WellFormed) :
    ∃ d ds, n.whole = d :: ds ∧ d.isDigit = true := by
  rcases h.whole_start with hw | ⟨d, ds, hw, -⟩
  · exact ⟨'0', [], hw, by decide⟩
  · exact ⟨d, ds, hw, h.whole_digits d (by simp [hw])⟩

/-- The first character of a numeral is a minus or a digit. -/
theorem Numeral.WellFormed.chars_eq_cons {n : Numeral} (h : n.WellFormed) :
    ∃ c cs, n.chars = c :: cs ∧ (c = '-' ∨ c.isDigit = true) := by
  obtain ⟨d, ds, hw, hd⟩ := h.whole_eq_cons
  unfold chars signChars
  split
  · exact ⟨'-', _, rfl, .inl rfl⟩
  · rw [hw]
    exact ⟨d, _, rfl, .inr hd⟩

theorem ne_of_isDigit {c d : Char} (hc : c.isDigit = true) (hd : d.isDigit = false) : c ≠ d := by
  rintro rfl
  simp_all

theorem head_exponentChars (exponent : Option Int) (hrest : EndsNumber rest) :
    ∀ c ∈ (exponentChars exponent ++ rest).head?, c.isDigit = false ∧ c ≠ '.' := by
  cases exponent with
  | none => exact fun c hc => ⟨(hrest c hc).1, (hrest c hc).2.1⟩
  | some e =>
    rintro c ⟨⟩
    decide

theorem head_fractionChars (fraction : Option (List Char)) (exponent : Option Int)
    (hrest : EndsNumber rest) :
    ∀ c ∈ (fractionChars fraction ++ (exponentChars exponent ++ rest)).head?,
      c.isDigit = false := by
  cases fraction with
  | none => exact fun c hc => (head_exponentChars exponent hrest c hc).1
  | some ds =>
    rintro c ⟨⟩
    decide

/-- The reader takes a numeral from the front of a text. -/
theorem readNumber_append {n : Numeral} (h : n.WellFormed) (hrest : EndsNumber rest) :
    readNumber (n.chars ++ rest) = n.document?.map (·, rest) := by
  have hminus : ∀ c ∈ (n.whole ++ (fractionChars n.fraction
      ++ (exponentChars n.exponent ++ rest))).head?, c ≠ '-' := by
    obtain ⟨d, ds, hw, hd⟩ := h.whole_eq_cons
    rw [hw]
    rintro c ⟨⟩
    exact ne_of_isDigit hd (by decide)
  simp only [readNumber, Numeral.chars, List.append_assoc]
  rw [takeMinus_signChars _ hminus]
  dsimp only
  rw [readWhole?_append h.whole_digits h.whole_start
    (head_fractionChars n.fraction n.exponent hrest)]
  simp only [Option.bind_eq_bind, Option.bind_some]
  rw [readFraction?_append h.fraction_ne h.fraction_digits (head_exponentChars n.exponent hrest)]
  simp only [Option.bind_some]
  rw [readExponent?_append n.exponent hrest]
  simp only [Option.bind_some, Numeral.document?]
  cases ofParts? n.negative n.whole n.fraction n.exponent <;> rfl

end

/-! ## Integers -/

theorem digitChar_ne_zero : ∀ n < 10, 0 < n → n.digitChar ≠ '0' := by decide

/-- No zero stands before the digits of a number. -/
theorem toDigits_eq_cons {n : Nat} (hn : 0 < n) :
    ∃ d ds, Nat.toDigits 10 n = d :: ds ∧ d ≠ '0' := by
  induction n using Nat.strongRecOn with
  | ind n ih =>
    by_cases hlt : n < 10
    · rw [Nat.toDigits_of_lt_base hlt]
      exact ⟨_, _, rfl, digitChar_ne_zero n hlt hn⟩
    · rw [Nat.toDigits_of_base_le (by decide) (by omega)]
      obtain ⟨d, ds, h, hne⟩ := ih (n / 10) (by omega) (by omega)
      exact ⟨d, ds ++ [(n % 10).digitChar], by rw [h, List.cons_append], hne⟩

theorem toDigits_start (n : Nat) :
    Nat.toDigits 10 n = ['0'] ∨ ∃ d ds, Nat.toDigits 10 n = d :: ds ∧ d ≠ '0' := by
  rcases Nat.eq_zero_or_pos n with rfl | hn
  · exact .inl (Nat.toDigits_zero 10)
  · exact .inr (toDigits_eq_cons hn)

/-- The numeral of an integer. -/
def intNumeral (i : Int) : Numeral := ⟨decide (i < 0), Nat.toDigits 10 i.natAbs, none, none⟩

theorem chars_intNumeral (i : Int) : (intNumeral i).chars = intChars i := by
  by_cases hi : i < 0 <;>
    simp [Numeral.chars, intNumeral, Numeral.signChars, Numeral.fractionChars,
      Numeral.exponentChars, intChars, hi]

theorem wellFormed_intNumeral (i : Int) : (intNumeral i).WellFormed where
  whole_digits _ h := isDigit_of_mem_toDigits h
  whole_start := toDigits_start i.natAbs
  fraction_ne := nofun
  fraction_digits := nofun

theorem document?_intNumeral {i : Int} (hi : inWordRange i = true) :
    (intNumeral i).document? = some (.int i) := by
  have hzero : (decide (i < 0) && decide (i.natAbs = 0)) = false := by
    rw [Bool.and_eq_false_iff, decide_eq_false_iff_not, decide_eq_false_iff_not]
    omega
  rw [Numeral.document?, intNumeral, ofParts?, digitsValue_toDigits]
  simp only [decide_eq_true_eq, sign_natAbs, hi, hzero]
  rfl

/-- An integer in range is read back. -/
theorem readNumber_intChars {i : Int} (hi : inWordRange i = true) {rest : List Char}
    (hrest : EndsNumber rest) : readNumber (intChars i ++ rest) = some (.int i, rest) := by
  rw [← chars_intNumeral, readNumber_append (wellFormed_intNumeral i) hrest,
    document?_intNumeral hi]
  rfl

/-! ## Other numbers -/

namespace Numeral

/-- The decimal that the numeral writes, sign aside. -/
def decimal (n : Numeral) : Decimal :=
  Decimal.ofParts n.whole (n.fraction.getD []) (n.exponent.getD 0)

/-- The number that the numeral is read as if it is no integer. -/
def number (n : Numeral) : Binary64 :=
  Binary64.ofDecimalStepwise n.negative
    (Decimal.ofPartsInWord n.whole (n.fraction.getD []) (n.exponent.getD 0))

/-- A numeral that is no integer writes a number with a fraction or an exponent. -/
structure Writes (n : Numeral) (x : Binary64) : Prop where
  wellFormed : n.WellFormed
  negative_eq : n.negative = x.isNegative
  not_int : (n.fraction.isNone && n.exponent.isNone) = false
  value_eq : x.isZero = true → n.decimal.value = 0
  rounds : x.isZero = false → x.Rounds n.decimal.value

namespace Writes

variable {n : Numeral} {x : Binary64}

theorem readNumber_append (h : n.Writes x) (hfinite : n.number.isFinite = true) {rest : List Char}
    (hrest : EndsNumber rest) : readNumber (n.chars ++ rest) = some (.float n.number, rest) := by
  have hdoc : n.document? = some (.float n.number) := by
    rw [document?, ofParts?, h.not_int]
    simp only [Bool.false_and]
    rw [if_neg Bool.false_ne_true, ← number, if_pos hfinite]
  rw [Json.readNumber_append h.wellFormed hrest, hdoc]
  rfl

/-- The number that is read is finite, if what is written is not among the greatest. -/
theorem isFinite_number (h : n.Writes x) (hx : x.magnitudeBits + 3 < Binary64.infinityBits) :
    n.number.isFinite = true := by
  have hword := (Decimal.ofPartsInWord_spec n.whole (n.fraction.getD []) (n.exponent.getD 0)).1
  have hle := Decimal.value_ofPartsInWord_le n.whole (n.fraction.getD []) (n.exponent.getD 0)
  refine Binary64.isFinite_ofDecimalStepwise n.negative hword (hle.trans ?_)
  show n.decimal.value ≤ _
  cases hzero : x.isZero with
  | true =>
    rw [h.value_eq hzero]
    exact mul_nonneg (by norm_num) (zpow_nonneg (by norm_num) _)
  | false => exact (h.rounds hzero).le_of_magnitudeBits hx

/-- A number that is written with few digits is read as itself. -/
theorem number_eq (h : n.Writes x) (hx : x.isFinite = true) (hzero : x.isZero = false)
    (hdigits : n.decimal.digits < 2 ^ 53) (hexp : n.decimal.exponent.natAbs ≤ 22) :
    n.number = x := by
  have hword : Decimal.digitsValue (n.whole ++ n.fraction.getD []) < Decimal.wordSize :=
    hdigits.trans (by decide)
  rw [number, Decimal.ofPartsInWord_eq hword, h.negative_eq]
  exact Binary64.ofDecimalStepwise_eq_of_rounds hx hzero hdigits hexp (h.rounds hzero)

end Writes

end Numeral

/-! ### The value of the digits -/

theorem digitsValue_append_zeros (ds : List Char) (k : Nat) :
    Decimal.digitsValue (ds ++ List.replicate k '0') = 10 ^ k * Decimal.digitsValue ds :=
  (Nat.ofDigitChars_append 0).trans Nat.ofDigitChars_replicate_zero

theorem digitsValue_zeros_append (k : Nat) (ds : List Char) :
    Decimal.digitsValue (List.replicate k '0' ++ ds) = Decimal.digitsValue ds := by
  have h := @Nat.ofDigitChars_append 10 (List.replicate k '0') ds 0
  rw [Nat.ofDigitChars_replicate_zero, Nat.mul_zero] at h
  exact h

theorem value_ofParts (whole fraction : List Char) (e : Int) :
    (Decimal.ofParts whole fraction e).value
      = Decimal.digitsValue (whole ++ fraction) * 10 ^ (e - fraction.length) := rfl

/-! ### Three forms of a decimal -/

namespace Numeral

/-- The exponent of the first digit. -/
def topExponent (d : Decimal) : Int := (Nat.toDigits 10 d.digits).length - 1 + d.exponent

/-- All digits after the point, and zeros before them. -/
def belowOne (negative : Bool) (d : Decimal) : Numeral :=
  ⟨negative, ['0'],
    some (List.replicate (-topExponent d - 1).toNat '0' ++ Nat.toDigits 10 d.digits), none⟩

/-- The point behind as many digits, or zeros after them, as there are from the exponent of the
first digit down to zero. -/
def positional (negative : Bool) (d : Decimal) : Numeral :=
  let ds := Nat.toDigits 10 d.digits
  let point := (topExponent d).toNat + 1
  let fraction := ds.drop point
  ⟨negative, ds.take point ++ List.replicate (point - ds.length) '0',
    some (if fraction.isEmpty then ['0'] else fraction), none⟩

/-- The point behind the first digit, and its exponent. -/
def scientific (negative : Bool) (d : Decimal) : Numeral :=
  let ds := Nat.toDigits 10 d.digits
  let fraction := ds.drop 1
  ⟨negative, ds.take 1, if fraction.isEmpty then none else some fraction, some (topExponent d)⟩

variable {d : Decimal}

theorem isDigit_of_mem_zeros_append {k : Nat} {ds : List Char} (hd : ∀ c ∈ ds, c.isDigit = true)
    {c : Char} (h : c ∈ List.replicate k '0' ++ ds) : c.isDigit = true := by
  rcases List.mem_append.mp h with h | h
  · rw [(List.mem_replicate.mp h).2]
    decide
  · exact hd c h

theorem wellFormed_belowOne (negative : Bool) (d : Decimal) : (belowOne negative d).WellFormed where
  whole_digits := List.forall_mem_singleton.mpr (by decide)
  whole_start := .inl rfl
  fraction_ne := by
    rintro ds ⟨⟩
    exact List.append_ne_nil_of_right_ne_nil _ Nat.toDigits_ne_nil
  fraction_digits := by
    rintro ds ⟨⟩ c hc
    exact isDigit_of_mem_zeros_append (fun c h => isDigit_of_mem_toDigits h) hc

theorem value_belowOne (negative : Bool) (h : topExponent d < 0) :
    (belowOne negative d).decimal.value = d.value := by
  have hdigits : Decimal.digitsValue (['0'] ++ (List.replicate (-topExponent d - 1).toNat '0'
      ++ Nat.toDigits 10 d.digits)) = d.digits := by
    rw [← List.append_assoc]
    exact (digitsValue_zeros_append ((-topExponent d - 1).toNat + 1) _).trans
      (digitsValue_toDigits d.digits)
  rw [decimal, belowOne, Option.getD_some, Option.getD_none, value_ofParts, hdigits,
    Decimal.value, List.length_append, List.length_replicate]
  congr 2
  unfold topExponent at *
  omega

theorem wellFormed_positional (negative : Bool) (hd : 0 < d.digits) :
    (positional negative d).WellFormed where
  whole_digits c hc := by
    rcases List.mem_append.mp hc with hc | hc
    · exact isDigit_of_mem_toDigits (List.mem_of_mem_take hc)
    · rw [(List.mem_replicate.mp hc).2]
      decide
  whole_start := by
    obtain ⟨c, cs, hcs, hne⟩ := toDigits_eq_cons hd
    dsimp only [positional]
    rw [hcs, List.take_succ_cons, List.cons_append]
    exact .inr ⟨c, _, rfl, hne⟩
  fraction_ne := by
    rintro ds ⟨⟩
    split
    · exact List.cons_ne_nil _ _
    · rename_i h
      exact mt List.isEmpty_iff.mpr h
  fraction_digits := by
    rintro ds ⟨⟩ c hc
    split at hc
    · rw [List.mem_singleton.mp hc]
      decide
    · exact isDigit_of_mem_toDigits (List.mem_of_mem_drop hc)

theorem value_positional (negative : Bool) (h : 0 ≤ topExponent d) :
    (positional negative d).decimal.value = d.value := by
  rw [decimal, positional]
  dsimp only
  rw [Option.getD_some, Option.getD_none, value_ofParts]
  by_cases hdrop : (Nat.toDigits 10 d.digits).drop ((topExponent d).toNat + 1) = []
  · have hle := List.drop_eq_nil_iff.mp hdrop
    have hzeros (k : Nat) : Decimal.digitsValue (Nat.toDigits 10 d.digits
        ++ List.replicate k '0' ++ ['0']) = 10 ^ (k + 1) * d.digits := by
      rw [List.append_assoc, ← List.replicate_succ', digitsValue_append_zeros, digitsValue_toDigits]
    rw [hdrop, List.isEmpty_nil, if_pos rfl, List.take_of_length_le hle, hzeros, Decimal.value]
    have hexp : d.exponent
        = ((topExponent d).toNat + 1 - (Nat.toDigits 10 d.digits).length : Nat) := by
      unfold topExponent at *
      omega
    rw [hexp]
    generalize (topExponent d).toNat + 1 - (Nat.toDigits 10 d.digits).length = k
    push_cast
    rw [pow_succ]
    norm_num
    ring
  · rw [if_neg (mt List.isEmpty_iff.mp hdrop)]
    have hlt := Nat.lt_of_not_le (mt List.drop_eq_nil_iff.mpr hdrop)
    rw [Nat.sub_eq_zero_of_le hlt.le, List.replicate_zero, List.append_nil,
      List.take_append_drop, digitsValue_toDigits, List.length_drop, Decimal.value]
    congr 2
    unfold topExponent at *
    omega

theorem wellFormed_scientific (negative : Bool) (hd : 0 < d.digits) :
    (scientific negative d).WellFormed where
  whole_digits c hc := isDigit_of_mem_toDigits (List.mem_of_mem_take hc)
  whole_start := by
    obtain ⟨c, cs, hcs, hne⟩ := toDigits_eq_cons hd
    dsimp only [scientific]
    rw [hcs]
    exact .inr ⟨c, [], rfl, hne⟩
  fraction_ne := by
    dsimp only [scientific]
    split
    · nofun
    · rename_i h
      rintro ds ⟨⟩
      exact mt List.isEmpty_iff.mpr h
  fraction_digits := by
    dsimp only [scientific]
    split
    · nofun
    · rintro ds ⟨⟩ c hc
      exact isDigit_of_mem_toDigits (List.mem_of_mem_drop hc)

theorem value_scientific (negative : Bool) (d : Decimal) :
    (scientific negative d).decimal.value = d.value := by
  have hfraction : (scientific negative d).fraction.getD []
      = (Nat.toDigits 10 d.digits).drop 1 := by
    dsimp only [scientific]
    split
    · rename_i h
      exact (List.isEmpty_iff.mp h).symm
    · rfl
  rw [decimal, hfraction, value_ofParts]
  dsimp only [scientific]
  rw [List.take_append_drop, digitsValue_toDigits, List.length_drop, Option.getD_some,
    Decimal.value]
  have hpos := @Nat.length_toDigits_pos 10 d.digits
  congr 2
  unfold topExponent
  omega

end Numeral

/-! ### The three forms in use -/

/-- The numeral of a number: one of the three forms of its shortest decimal. -/
def floatNumeral (x : Binary64) : Numeral :=
  if x.isZero then ⟨x.isNegative, ['0'], some ['0'], none⟩
  else
    let e := Numeral.topExponent x.shortest
    if -5 ≤ e ∧ e < 0 then .belowOne x.isNegative x.shortest
    else if 0 ≤ e ∧ e < 16 then .positional x.isNegative x.shortest
    else .scientific x.isNegative x.shortest

theorem chars_floatNumeral (x : Binary64) : (floatNumeral x).chars = x.textChars := by
  unfold floatNumeral Binary64.textChars
  dsimp only
  by_cases hzero : x.isZero = true
  · simp [hzero, Numeral.chars, Numeral.signChars, Numeral.fractionChars, Numeral.exponentChars]
  rw [if_neg hzero, if_neg hzero, ← Numeral.topExponent]
  by_cases hbelow : -5 ≤ Numeral.topExponent x.shortest ∧ Numeral.topExponent x.shortest < 0
  · rw [if_pos hbelow, if_pos hbelow]
    simp [Numeral.chars, Numeral.belowOne, Numeral.signChars, Numeral.fractionChars,
      Numeral.exponentChars]
  rw [if_neg hbelow, if_neg hbelow]
  by_cases hpositional : 0 ≤ Numeral.topExponent x.shortest ∧ Numeral.topExponent x.shortest < 16
  · rw [if_pos hpositional, if_pos hpositional]
    simp [Numeral.chars, Numeral.positional, Numeral.signChars, Numeral.fractionChars,
      Numeral.exponentChars]
  · rw [if_neg hpositional, if_neg hpositional, Numeral.chars, Numeral.scientific]
    dsimp only
    by_cases hfraction : ((Nat.toDigits 10 x.shortest.digits).drop 1).isEmpty = true
    · rw [if_pos hfraction, if_pos hfraction]
      simp [Numeral.signChars, Numeral.fractionChars, Numeral.exponentChars]
    · rw [if_neg hfraction, if_neg hfraction]
      simp [Numeral.signChars, Numeral.fractionChars, Numeral.exponentChars]

theorem writes_zero {x : Binary64} (hx : x.isZero = true) :
    Numeral.Writes ⟨x.isNegative, ['0'], some ['0'], none⟩ x where
  wellFormed :=
    { whole_digits := List.forall_mem_singleton.mpr (by decide)
      whole_start := .inl rfl
      fraction_ne := by
        rintro ds ⟨⟩
        exact List.cons_ne_nil _ _
      fraction_digits := by
        rintro ds ⟨⟩
        exact List.forall_mem_singleton.mpr (by decide) }
  negative_eq := rfl
  not_int := rfl
  value_eq _ := by
    have hdigits : Decimal.digitsValue (['0'] ++ ['0']) = 0 := by decide
    rw [Numeral.decimal, Option.getD_some, value_ofParts, hdigits, Nat.cast_zero, zero_mul]
  rounds h := by
    rw [hx] at h
    cases h

/-- A number is what every numeral writes that has its sign and the value of its shortest
decimal. -/
theorem writes_of_value_eq {x : Binary64} (hx : x.isFinite = true) (hzero : x.isZero = false)
    {n : Numeral} (h : n.WellFormed) (hneg : n.negative = x.isNegative)
    (hint : (n.fraction.isNone && n.exponent.isNone) = false)
    (hvalue : n.decimal.value = x.shortest.value) : n.Writes x where
  wellFormed := h
  negative_eq := hneg
  not_int := hint
  value_eq h' := by
    rw [hzero] at h'
    cases h'
  rounds _ := hvalue ▸ Binary64.rounds_shortest hx hzero

theorem writes_floatNumeral {x : Binary64} (hx : x.isFinite = true) :
    (floatNumeral x).Writes x := by
  unfold floatNumeral
  by_cases hzero : x.isZero = true
  · rw [if_pos hzero]
    exact writes_zero hzero
  rw [if_neg hzero]
  rw [Bool.not_eq_true] at hzero
  have hdigits := (Binary64.rounds_shortest hx hzero).digits_pos hzero
  dsimp only
  split_ifs with hbelow hpositional
  · exact writes_of_value_eq hx hzero (Numeral.wellFormed_belowOne _ _) rfl rfl
      (Numeral.value_belowOne _ hbelow.2)
  · exact writes_of_value_eq hx hzero (Numeral.wellFormed_positional _ hdigits) rfl rfl
      (Numeral.value_positional _ hpositional.1)
  · exact writes_of_value_eq hx hzero (Numeral.wellFormed_scientific _ hdigits) rfl
      (Bool.and_false _) (Numeral.value_scientific _ _)

/-! ### What is read back -/

/-- The number that the written form of a number is read as. -/
def rereadNumber (x : Binary64) : Binary64 := (floatNumeral x).number

theorem isFinite_rereadNumber_greatest : ∀ (negative : Bool) (i : Fin 3),
    (rereadNumber (.ofMagnitudeBits negative (Binary64.infinityBits - 1 - i))).isFinite
      = true := by
  decide +kernel

/-- No finite number is read back as too large. -/
theorem isFinite_rereadNumber {x : Binary64} (hx : x.isFinite = true) :
    (rereadNumber x).isFinite = true := by
  have hlt := Binary64.magnitudeBits_lt hx
  by_cases hsmall : x.magnitudeBits + 3 < Binary64.infinityBits
  · exact (writes_floatNumeral hx).isFinite_number hsmall
  · have hi : Binary64.infinityBits - 1 - x.magnitudeBits < 3 := by omega
    have hgreatest := isFinite_rereadNumber_greatest x.isNegative ⟨_, hi⟩
    rwa [show Binary64.infinityBits - 1 - (Binary64.infinityBits - 1 - x.magnitudeBits)
      = x.magnitudeBits by omega, Binary64.ofMagnitudeBits_magnitudeBits] at hgreatest

/-- The written form of a finite number is read as a number. -/
theorem readNumber_textChars {x : Binary64} (hx : x.isFinite = true) {rest : List Char}
    (hrest : EndsNumber rest) :
    readNumber (x.textChars ++ rest) = some (.float (rereadNumber x), rest) := by
  rw [← chars_floatNumeral]
  exact (writes_floatNumeral hx).readNumber_append (isFinite_rereadNumber hx) hrest

/-- And as the same, if it is written with few digits. -/
theorem rereadNumber_eq_self {x : Binary64} (hx : x.isFinite = true) (hzero : x.isZero = false)
    (hdigits : (floatNumeral x).decimal.digits < 2 ^ 53)
    (hexp : (floatNumeral x).decimal.exponent.natAbs ≤ 22) : rereadNumber x = x :=
  (writes_floatNumeral hx).number_eq hx hzero hdigits hexp

/-- Of a number with seventeen digits the last need not come back. -/
example : rereadNumber ⟨0x40499fc44f1b2f60⟩ = ⟨0x40499fc44f1b2f61⟩ := by decide +kernel

end RowFilter.Json
