import RowFilter.Compiler
import RowFilter.Json.Writer.Numeral
import RowFilter.Number.Binary64.Nearest
/-!
# Integers as operands

An integer is bound as the number of the binary64 format that is nearest to it, of two that are
equally near the one with an even significand. It is the same number whether the integer is given
as a number or as a text, for either dialect and for one value or a list of them.

So an integer of more than 53 significant bits is bound as another one, and two integers that one
number is nearest to are bound alike. Else they are bound in order.

Results:
* `GivesInteger.exists_numberOperand`: an integer is read as a number that is nearest to it.
* `boundAs_of_numberOperand`: what `equals` binds is the number that was read.
* `integers_bound`: which integers are bound exactly, apart and in order.
-/
namespace RowFilter

open Sql

/-! ## Reading integers -/

/-- The document is an integer, or a text with digits, an optional sign before them and blanks
around. -/
inductive GivesInteger : Json → Int → Prop
  | number (a : Int) : GivesInteger (.int a) a
  | unsigned {s : String} {ds : List Char} (hne : ds ≠ []) (hd : ∀ c ∈ ds, c.isDigit = true)
    (hs : Text.trimChars s.toList = ds) : GivesInteger (.str s) (Decimal.digitsValue ds)
  | plus {s : String} {ds : List Char} (hne : ds ≠ []) (hd : ∀ c ∈ ds, c.isDigit = true)
    (hs : Text.trimChars s.toList = '+' :: ds) : GivesInteger (.str s) (Decimal.digitsValue ds)
  | minus {s : String} {ds : List Char} (hne : ds ≠ []) (hd : ∀ c ∈ ds, c.isDigit = true)
    (hs : Text.trimChars s.toList = '-' :: ds) : GivesInteger (.str s) (-Decimal.digitsValue ds)

/-- Before a digit there is no sign. -/
theorem Decimal.takeSign_of_isDigit {c : Char} (hc : c.isDigit = true) (cs : List Char) :
    takeSign (c :: cs) = (false, c :: cs) := by
  unfold takeSign
  split
  next heq =>
    cases heq
    cases hc
  next heq =>
    cases heq
    cases hc
  next => rfl

namespace Binary64

theorem toLower_of_isDigit {c : Char} (hc : c.isDigit = true) : c.toLower = c := by
  have h : c.toNat ≤ 57 := by
    simp only [Char.isDigit, Bool.and_eq_true, decide_eq_true_eq] at hc
    exact UInt32.le_iff_toNat_le.mp hc.2
  unfold Char.toLower
  split
  next hu =>
    have h65 : (65 : Nat) ≤ c.toNat := UInt32.le_iff_toNat_le.mp hu.1
    omega
  next => rfl

/-- No name of a number begins with a digit. -/
theorem ofName?_of_isDigit (negative : Bool) {c : Char} (hc : c.isDigit = true) (cs : List Char) :
    ofName? negative (String.ofList ((c :: cs).map Char.toLower)) = none := by
  rw [List.map_cons, toLower_of_isDigit hc]
  unfold ofName?
  have hne (d : Char) (ds : List Char) (hd : d.isDigit = false) :
      String.ofList (c :: cs.map Char.toLower) ≠ String.ofList (d :: ds) := by
    intro h
    have hlist := String.ofList_injective h
    rw [List.cons.injEq] at hlist
    rw [← hlist.1, hc] at hd
    cases hd
  rw [if_neg, if_neg]
  · exact hne 'n' ['a', 'n'] rfl
  · rintro (h | h)
    · exact hne 'i' ['n', 'f'] rfl h
    · exact hne 'i' "nfinity".toList rfl h

/-- Digits are read as the integer they write. -/
theorem ofUnsignedText?_digits (negative : Bool) {ds : List Char} (hne : ds ≠ [])
    (hd : ∀ c ∈ ds, c.isDigit = true) :
    ofUnsignedText? negative ds = some (ofDecimal negative ⟨Decimal.digitsValue ds, 0⟩) := by
  have htake : Decimal.takeDigits (ds ++ []) = (ds, []) :=
    Decimal.takeDigits_append_of_isDigit hd nofun
  rw [List.append_nil] at htake
  have hempty : ds.isEmpty = false := by simpa using hne
  simp [ofUnsignedText?, htake, hempty, Decimal.readExponent?, Decimal.ofParts]

theorem ofText?_of_takeSign {s : String} {negative : Bool} {ds : List Char}
    (hs : Decimal.takeSign s.toList = (negative, ds)) (hne : ds ≠ [])
    (hd : ∀ c ∈ ds, c.isDigit = true) :
    ofText? s = some (ofDecimal negative ⟨Decimal.digitsValue ds, 0⟩) := by
  obtain ⟨c, cs, rfl⟩ := List.exists_cons_of_ne_nil hne
  rw [ofText?, hs]
  dsimp only
  rw [ofName?_of_isDigit negative (hd c List.mem_cons_self), ofUnsignedText?_digits negative hne hd]

end Binary64

theorem natAbs_lt_of_inWordRange {a : Int} (h : Json.inWordRange a = true) : a.natAbs < 2 ^ 64 := by
  simp only [Json.inWordRange, Bool.and_eq_true, decide_eq_true_eq] at h
  omega

namespace GivesInteger

/-- A text of digits is read as the number that the integer is rounded to. -/
theorem exists_of_takeSign {s : String} {negative : Bool} {ds : List Char} {a : Int}
    (hs : Decimal.takeSign (Text.trimChars s.toList) = (negative, ds)) (hne : ds ≠ [])
    (hd : ∀ c ∈ ds, c.isDigit = true) (habs : a.natAbs = Decimal.digitsValue ds)
    (hsign : a ≠ 0 → negative = decide (a < 0)) (hsmall : a.natAbs < 2 ^ 64) :
    ∃ x, (Json.str s).numberOperand = .ok x ∧ x.IsNearest a := by
  have hnear := Binary64.isNearest_ofRatio_natAbs hsmall hsign
  have hread : Binary64.ofText? (Text.trim s) = some (.ofRatio negative a.natAbs 1) := by
    rw [Text.trim, Binary64.ofText?_of_takeSign (by rwa [String.toList_ofList]) hne hd, ← habs,
      Binary64.ofDecimal_integer negative hsmall]
  refine ⟨_, ?_, hnear⟩
  simp [Json.numberOperand, hread, hnear.isFinite]

/-- An integer of 64 bits is read as a number that is nearest to it, however it is given. -/
theorem exists_numberOperand {v : Json} {a : Int} (h : GivesInteger v a)
    (ha : Json.inWordRange a = true) : ∃ x, v.numberOperand = .ok x ∧ x.IsNearest a := by
  have hsmall := natAbs_lt_of_inWordRange ha
  cases h with
  | number =>
    have hnear : (Binary64.ofInt a).IsNearest a :=
      Binary64.isNearest_ofRatio_natAbs hsmall fun _ => rfl
    refine ⟨_, ?_, hnear⟩
    simp [Json.numberOperand, Json.number?, hnear.isFinite]
  | @unsigned s ds hne hd hs =>
    have hsign : Decimal.takeSign (Text.trimChars s.toList) = (false, ds) := by
      obtain ⟨c, cs, rfl⟩ := List.exists_cons_of_ne_nil hne
      rw [hs]
      exact Decimal.takeSign_of_isDigit (hd c List.mem_cons_self) cs
    refine exists_of_takeSign hsign hne hd (Int.natAbs_natCast _) ?_ hsmall
    exact fun _ => (decide_eq_false (by omega)).symm
  | @plus s ds hne hd hs =>
    have hsign : Decimal.takeSign (Text.trimChars s.toList) = (false, ds) := by
      rw [hs]
      rfl
    refine exists_of_takeSign hsign hne hd (Int.natAbs_natCast _) ?_ hsmall
    exact fun _ => (decide_eq_false (by omega)).symm
  | @minus s ds hne hd hs =>
    have hsign : Decimal.takeSign (Text.trimChars s.toList) = (true, ds) := by
      rw [hs]
      rfl
    have habs : (-(Decimal.digitsValue ds : Int)).natAbs = Decimal.digitsValue ds := by
      rw [Int.natAbs_neg, Int.natAbs_natCast]
    refine exists_of_takeSign hsign hne hd habs ?_ hsmall
    exact fun hzero => (decide_eq_true (by omega)).symm

end GivesInteger

/-! ## Binding integers -/

/-- On every column of numbers, the parameter that `equals` binds for a value. -/
def Json.BoundAs (v : Json) (x : Binary64) : Prop :=
  ∀ (t : Target) (ps : Params), t.column.kind = .number →
    ∃ text, t.apply ps .equals v = .ok (text, ps.append [.float x])

theorem boundAs_of_numberOperand {v : Json} {x : Binary64} (h : v.numberOperand = .ok x) :
    v.BoundAs x := by
  intro t ps hkind
  have hread (n : Cardinality) (s : Criterion.Site) (hop : s.op = .equals) :
      Criterion.read? .number n s v = some (.ok (.passes (.number .eq x))) := by
    rw [Criterion.read?, Criterion.readNumber?, hop, h]
    rfl
  have hpredicate : ∃ p, t.predicate .equals v = .ok p
      ∧ (p.template t.dialect).values = [.float x] := by
    rw [Target.predicate, hkind, hread _ _ rfl]
    refine ⟨_, rfl, ?_⟩
    unfold Target.ofCriterion
    rw [hkind]
    generalize t.column.cardinality = n
    cases t.dialect <;> cases n <;> rfl
  obtain ⟨p, hp, hvalues⟩ := hpredicate
  refine ⟨(ps.add (p.template t.dialect)).1, ?_⟩
  rw [Target.apply, hp, ← hvalues]
  rfl

/-! ## Integers apart and in order -/

section

variable {a b : Int} {x y : Binary64}

/-- One is nearer to any other integer than zero is, or minus one. -/
theorem eq_zero_of_value_eq_zero (h : x.IsNearest a) (hx : x.value = 0) : a = 0 := by
  have hone : Binary64.IsBinary 1 := ⟨1, 0, by norm_num, by norm_num, by norm_num⟩
  by_contra hne
  rcases lt_or_gt_of_ne hne with hneg | hpos
  · have hle := h.le _ hone.neg
    have ha : (a : ℚ) ≤ -1 := by exact_mod_cast (by omega : a ≤ -1)
    rw [hx, abs_of_nonneg (by linarith), abs_of_nonneg (by linarith)] at hle
    linarith
  · have hle := h.le _ hone
    have ha : (1 : ℚ) ≤ a := by exact_mod_cast (by omega : 1 ≤ a)
    rw [hx, abs_of_nonpos (by linarith), abs_of_nonpos (by linarith)] at hle
    linarith

/-- Numbers that are nearest to different integers are the same if their values are. -/
theorem eq_of_nearest (hx : x.IsNearest a) (hy : y.IsNearest b) (hne : a ≠ b)
    (h : x.value = y.value) : x = y := by
  refine Binary64.eq_of_value_eq hx.isFinite hy.isFinite h ?_
  intro hzero
  exact hne ((eq_zero_of_value_eq_zero hx hzero).trans
    (eq_zero_of_value_eq_zero hy (h ▸ hzero)).symm)

end

/-- Integers are bound as the numbers nearest to them, those of 53 significant bits exactly and no
others. Two of them are bound apart exactly if no number is nearest to both, and then in order. -/
theorem integers_bound {a b : Int} {v w : Json} (ha : Json.inWordRange a = true)
    (hb : Json.inWordRange b = true) (hv : GivesInteger v a) (hw : GivesInteger w b) :
    ∃ x y : Binary64, v.BoundAs x ∧ w.BoundAs y ∧ x.IsNearest a ∧ y.IsNearest b
      ∧ (x.value = a ↔ ∃ (m : Int) (k : Nat), |m| ≤ 2 ^ 53 ∧ a = m * 2 ^ k)
      ∧ (a ≠ b → (x ≠ y ↔ ¬ ∃ z : Binary64, z.IsNearest a ∧ z.IsNearest b))
      ∧ (a < b → x.value ≤ y.value ∧ (x.value < y.value ↔ x ≠ y)) := by
  obtain ⟨x, hxv, hx⟩ := hv.exists_numberOperand ha
  obtain ⟨y, hyw, hy⟩ := hw.exists_numberOperand hb
  refine ⟨x, y, boundAs_of_numberOperand hxv, boundAs_of_numberOperand hyw, hx, hy,
    hx.value_eq_iff.trans Binary64.isBinary_intCast, ?_, ?_⟩
  · intro hne
    rw [not_iff_not]
    constructor
    · rintro rfl
      exact ⟨x, hx, hy⟩
    · rintro ⟨z, hza, hzb⟩
      exact eq_of_nearest hx hy hne ((hx.value_eq hza).trans (hzb.value_eq hy))
  · intro hlt
    have hle := hx.value_le hy (by exact_mod_cast hlt)
    refine ⟨hle, fun h => ?_, fun h => ?_⟩
    · rintro rfl
      exact lt_irrefl _ h
    · exact lt_of_le_of_ne hle fun heq => h (eq_of_nearest hx hy hlt.ne heq)

/-- An even integer above 2 ^ 53 is bound exactly, and the next one not below it. -/
theorem integers_bound_even : ∃ x y : Binary64,
    (Json.str " +9007199254740994 ").BoundAs x ∧ (Json.int 9007199254740995).BoundAs y
      ∧ x.value = 9007199254740994 ∧ x.value ≤ y.value := by
  have hs : Text.trimChars " +9007199254740994 ".toList = '+' :: "9007199254740994".toList := by
    decide
  have hv : GivesInteger (.str " +9007199254740994 ") 9007199254740994 :=
    .plus (by decide) (by simp) hs
  obtain ⟨x, y, hx, hy, -, -, hexact, -, horder⟩ :=
    integers_bound (by decide) (by decide) hv (.number 9007199254740995)
  refine ⟨x, y, hx, hy, ?_, (horder (by decide)).1⟩
  have hvalue := hexact.mpr ⟨4503599627370497, 1, by decide, by decide⟩
  simpa using hvalue

/-- Not all integers are bound apart: 2 ^ 53 and the next are bound alike. -/
theorem not_integers_bound_apart :
    ¬ ∀ (a b : Int) (v w : Json) (x y : Binary64), Json.inWordRange a = true →
      Json.inWordRange b = true → GivesInteger v a → GivesInteger w b → a ≠ b →
      v.BoundAs x → w.BoundAs y → x ≠ y := by
  intro h
  have hs : Text.trimChars "9007199254740993".toList = "9007199254740993".toList := by decide
  have hw : GivesInteger (.str "9007199254740993") 9007199254740993 :=
    .unsigned (by decide) (by simp) hs
  have hx : (Json.int 9007199254740992).numberOperand = .ok ⟨0x4340000000000000⟩ := by rfl
  have hread : Binary64.ofText? (Text.trim "9007199254740993") = some ⟨0x4340000000000000⟩ := by
    decide +kernel
  have hy : (Json.str "9007199254740993").numberOperand = .ok ⟨0x4340000000000000⟩ := by
    rw [Json.numberOperand, hread]
    rfl
  exact h 9007199254740992 9007199254740993 _ _ _ _ (by decide) (by decide) (.number _) hw
    (by decide) (boundAs_of_numberOperand hx) (boundAs_of_numberOperand hy) rfl

end RowFilter
