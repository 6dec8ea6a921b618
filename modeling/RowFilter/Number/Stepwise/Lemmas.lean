import RowFilter.Number.Binary64.Nearest
import RowFilter.Number.Stepwise
/-!
# What a decimal becomes in steps

Each step is off by no more than half of a last place. So the steps of a decimal of few digits, of
which only the last has anything to round, give the nearest number; and a decimal that keeps three
last places away from the bound of the finite numbers becomes a finite number.

* `Decimal.value_ofPartsInWord_le`: what a word holds of a decimal is no more than the decimal.
* `isFinite_ofDecimalStepwise`: which decimals become finite numbers.
* `ofDecimalStepwise_eq_of_rounds`: decimals of few digits become the number they round to.
-/
namespace RowFilter

namespace Decimal

/-! ## Digits in a word -/

/-- A number with digits after it is no less than with zeros in their place. -/
theorem mul_pow_le_ofDigitChars (n : Nat) (ds : List Char) :
    n * 10 ^ ds.length ≤ Nat.ofDigitChars 10 ds n := by
  rw [Nat.ofDigitChars_eq_ofDigitChars_zero, Nat.mul_comm]
  exact Nat.le_add_right _ _

theorem le_ofDigitChars (n : Nat) (ds : List Char) : n ≤ Nat.ofDigitChars 10 ds n :=
  (Nat.le_mul_of_pos_right n (Nat.pow_pos (by decide))).trans (mul_pow_le_ofDigitChars n ds)

/-- A word takes digits from the front. Where some are left, all together are too many. -/
theorem fillWord_spec {n : Nat} (hn : n < wordSize) (cs : List Char) :
    ∃ taken left, cs = taken ++ left ∧ fillWord n cs = (Nat.ofDigitChars 10 taken n, left.length)
      ∧ Nat.ofDigitChars 10 taken n < wordSize
      ∧ (left ≠ [] → wordSize * 10 ^ (left.length - 1) ≤ Nat.ofDigitChars 10 cs n) := by
  induction cs generalizing n with
  | nil => exact ⟨[], [], rfl, rfl, hn, fun h => absurd rfl h⟩
  | cons c cs ih =>
    rw [fillWord]
    split
    next hlt =>
      obtain ⟨taken, left, hcs, hfill, hword, hleft⟩ := ih hlt
      exact ⟨c :: taken, left, by rw [hcs, List.cons_append], hfill, hword, hleft⟩
    next hge =>
      refine ⟨[], c :: cs, rfl, rfl, hn, fun _ => ?_⟩
      rw [Nat.ofDigitChars_cons, List.length_cons, Nat.add_sub_cancel]
      exact (Nat.mul_le_mul_right _ (Nat.le_of_not_lt hge)).trans (mul_pow_le_ofDigitChars _ cs)

/-- Digits that make a number that fits are all taken. -/
theorem fillWord_eq {n : Nat} {cs : List Char} (h : Nat.ofDigitChars 10 cs n < wordSize) :
    fillWord n cs = (Nat.ofDigitChars 10 cs n, 0) := by
  obtain ⟨taken, left, rfl, hfill, -, hleft⟩ :=
    fillWord_spec ((le_ofDigitChars n cs).trans_lt h) cs
  have hnil : left = [] := by
    by_contra hne
    exact absurd ((Nat.le_mul_of_pos_right _ (Nat.pow_pos (by decide))).trans (hleft hne))
      (Nat.not_le.mpr h)
  rw [hfill, hnil, List.append_nil, List.length_nil]

/-- Where a digit before the point is left, it weighs more than all that are taken after it. -/
theorem mul_pow_le_of_left {n m : Nat} {left fraction : List Char} (hne : left ≠ [])
    (hover : wordSize * 10 ^ (left.length - 1) ≤ n) (hm : m < wordSize) :
    m * 10 ^ left.length ≤ n * 10 ^ (fraction.length + 1) := by
  obtain ⟨k, hk⟩ := Nat.exists_eq_add_of_lt (List.length_pos_iff.mpr hne)
  rw [hk, Nat.zero_add] at hover ⊢
  calc m * 10 ^ (k + 1) ≤ wordSize * 10 ^ (k + 1) := Nat.mul_le_mul_right _ hm.le
    _ = wordSize * 10 ^ k * 10 := by rw [Nat.pow_succ, Nat.mul_assoc]
    _ ≤ n * 10 := Nat.mul_le_mul_right _ hover
    _ ≤ n * 10 ^ (fraction.length + 1) :=
      Nat.mul_le_mul_left _ (Nat.le_self_pow (Nat.succ_ne_zero _) 10)

variable (whole fraction : List Char) (e : Int)

/-- What a word holds of the digits, with zeros for those it does not, is no more than all. -/
theorem ofPartsInWord_spec : (ofPartsInWord whole fraction e).digits < wordSize
    ∧ ∃ n : Nat, (ofPartsInWord whole fraction e).exponent = e - fraction.length + n
      ∧ (ofPartsInWord whole fraction e).digits * 10 ^ n ≤ digitsValue (whole ++ fraction) := by
  obtain ⟨w, w', rfl, hw, hword, hover⟩ := fillWord_spec (by decide : 0 < wordSize) whole
  obtain ⟨f, f', rfl, hf, hword', -⟩ := fillWord_spec hword fraction
  have hparts : ofPartsInWord (w ++ w') (f ++ f') e
      = ⟨Nat.ofDigitChars 10 f (Nat.ofDigitChars 10 w 0), e + w'.length - f.length⟩ := by
    simp only [ofPartsInWord, hw, hf, List.length_append, Nat.add_sub_cancel]
  have hall : digitsValue ((w ++ w') ++ (f ++ f'))
      = Nat.ofDigitChars 10 f' (Nat.ofDigitChars 10 f (Nat.ofDigitChars 10 (w ++ w') 0)) := by
    rw [← Nat.ofDigitChars_append, ← Nat.ofDigitChars_append]
    rfl
  rw [hparts, hall]
  refine ⟨hword', w'.length + f'.length, ?_, ?_⟩
  · rw [List.length_append]
    push_cast
    ring
  have hheld : Nat.ofDigitChars 10 f (Nat.ofDigitChars 10 w 0) * 10 ^ w'.length
      ≤ Nat.ofDigitChars 10 f (Nat.ofDigitChars 10 (w ++ w') 0) := by
    rcases eq_or_ne w' [] with rfl | hne
    · rw [List.append_nil, List.length_nil, Nat.pow_zero, Nat.mul_one]
    cases f with
    | nil =>
      rw [Nat.ofDigitChars_append]
      exact mul_pow_le_ofDigitChars _ w'
    | cons c f =>
      exact (mul_pow_le_of_left hne (hover hne) hword').trans (mul_pow_le_ofDigitChars _ (c :: f))
  rw [Nat.pow_add, ← Nat.mul_assoc]
  exact (Nat.mul_le_mul_right _ hheld).trans (mul_pow_le_ofDigitChars _ f')

/-- What a word holds of a decimal is no more than the decimal. -/
theorem value_ofPartsInWord_le :
    (ofPartsInWord whole fraction e).value ≤ (ofParts whole fraction e).value := by
  obtain ⟨-, n, hexp, hle⟩ := ofPartsInWord_spec whole fraction e
  have hp : (0 : ℚ) < 10 ^ (e - fraction.length) := zpow_pos (by norm_num) _
  rw [value, value, hexp, zpow_add₀ (by norm_num), zpow_natCast, mul_comm (_ ^ _) (_ ^ n),
    ← mul_assoc]
  exact mul_le_mul_of_nonneg_right (by exact_mod_cast hle) hp.le

variable {whole fraction e}

/-- Digits that fit into a word are all held. -/
theorem ofPartsInWord_eq (h : digitsValue (whole ++ fraction) < wordSize) :
    ofPartsInWord whole fraction e = ofParts whole fraction e := by
  have hsplit : digitsValue (whole ++ fraction)
      = Nat.ofDigitChars 10 fraction (Nat.ofDigitChars 10 whole 0) := Nat.ofDigitChars_append 0
  have hwhole : Nat.ofDigitChars 10 whole 0 < wordSize :=
    (le_ofDigitChars _ fraction).trans_lt (hsplit ▸ h)
  rw [ofPartsInWord, fillWord_eq hwhole]
  dsimp only
  rw [fillWord_eq (hsplit ▸ h), ofParts, hsplit]
  simp

end Decimal

namespace Binary64

variable {x y : Binary64} {v : ℚ}

/-! ## One step -/

/-- A number that one or more is rounded to has all its digits. -/
theorem Rounds.exponentWeight_le (h : x.Rounds v) (hv : 1 ≤ v) :
    exponentWeight ≤ x.significand := by
  refine exponentWeight_le_significand ?_
  have hone : (2 : ℚ) ^ (0 : ℤ) < 2 ^ (53 + x.exponent) := by
    rw [zpow_zero]
    exact hv.trans_lt h.lt
  have := (zpow_lt_zpow_iff_right₀ (by norm_num : (1 : ℚ) < 2)).mp hone
  omega

/-- It is above what is rounded to it by less than a part in `2 ^ 53`. -/
theorem Rounds.magnitude_le (h : x.Rounds v) (hv : 1 ≤ v) :
    x.magnitude * (2 ^ 53 - 1) ≤ v * 2 ^ 53 := by
  have hp : (0 : ℚ) < 2 ^ x.exponent := zpow_pos (by norm_num) _
  have hm : (2 ^ 52 : ℚ) ≤ x.significand := by exact_mod_cast h.exponentWeight_le hv
  have hbelow := x.below_le
  calc x.magnitude * (2 ^ 53 - 1) = x.significand * (2 ^ 53 - 1) * 2 ^ x.exponent := by
        rw [magnitude]
        ring
    _ ≤ (x.significand - x.below) * 2 ^ 53 * 2 ^ x.exponent :=
        mul_le_mul_of_nonneg_right (by linarith) hp.le
    _ = (x.significand - x.below) * 2 ^ x.exponent * 2 ^ 53 := by ring
    _ ≤ v * 2 ^ 53 := mul_le_mul_of_nonneg_right h.le.1 (by norm_num)

/-- And it is more than half of what is rounded to it. -/
theorem Rounds.le_two_mul_magnitude (h : x.Rounds v) (hv : 1 ≤ v) : v ≤ 2 * x.magnitude := by
  have hp : (0 : ℚ) < 2 ^ x.exponent := zpow_pos (by norm_num) _
  have hm : (2 ^ 52 : ℚ) ≤ x.significand := by exact_mod_cast h.exponentWeight_le hv
  calc v ≤ (x.significand + 1 / 2) * 2 ^ x.exponent := h.le.2
    _ ≤ 2 * x.significand * 2 ^ x.exponent := mul_le_mul_of_nonneg_right (by linarith) hp.le
    _ = 2 * x.magnitude := by rw [magnitude, mul_assoc]

/-- What is a value of the format is rounded to that. -/
theorem Rounds.magnitude_eq (h : x.Rounds v) (hv : 0 < v) (hb : IsBinary v) :
    x.magnitude = v := by
  have hdist := (h.dist_le hv hb).1
  rw [sub_self, abs_zero] at hdist
  exact sub_eq_zero.mp (abs_nonpos_iff.mp hdist)

theorem mul_eq_ofRatio (x y : Binary64) : ∃ num den : Nat, 0 < den
    ∧ (num / den : ℚ) = x.magnitude * y.magnitude
    ∧ x.mul y = ofRatio (x.isNegative != y.isNegative) num den := by
  obtain ⟨hpos, hratio⟩ := scaleDown_spec Nat.two_pos (x.significand * y.significand) Nat.one_pos
    (-(x.exponent + y.exponent))
  refine ⟨(scaleDown 2 _ 1 _).1, (scaleDown 2 _ 1 _).2, hpos, ?_, rfl⟩
  rw [hratio, magnitude, magnitude, zpow_neg, div_inv_eq_mul, Nat.cast_one, div_one,
    Nat.cast_ofNat, zpow_add₀ (by norm_num)]
  push_cast
  ring

theorem div_eq_ofRatio (x : Binary64) (hy : 0 < y.magnitude) : ∃ num den : Nat, 0 < den
    ∧ (num / den : ℚ) = x.magnitude / y.magnitude
    ∧ x.div y = ofRatio (x.isNegative != y.isNegative) num den := by
  have hsignificand : 0 < y.significand := by
    by_contra h0
    rw [magnitude, Nat.eq_zero_of_not_pos h0, Nat.cast_zero, zero_mul] at hy
    exact lt_irrefl _ hy
  obtain ⟨hpos, hratio⟩ := scaleDown_spec Nat.two_pos x.significand hsignificand
    (y.exponent - x.exponent)
  refine ⟨(scaleDown 2 _ _ _).1, (scaleDown 2 _ _ _).2, hpos, ?_, rfl⟩
  rw [hratio, magnitude, magnitude, Nat.cast_ofNat, zpow_sub₀ (by norm_num), div_div_div_eq]

/-! ## Integers and powers of ten -/

/-- An integer, if it is not too large, is rounded to a finite number hardly above it. -/
theorem magnitude_ofRatio_le (negative : Bool) {n : Nat} (hn : (n : ℚ) < finiteBound) :
    (ofRatio negative n 1).isFinite = true
      ∧ (ofRatio negative n 1).magnitude * (2 ^ 53 - 1) ≤ n * 2 ^ 53 := by
  have hratio : (n / (1 : Nat) : ℚ) = n := by rw [Nat.cast_one, div_one]
  refine ⟨isFinite_ofRatio negative n Nat.one_pos (by rwa [hratio]), ?_⟩
  rcases Nat.eq_zero_or_pos n with rfl | hpos
  · have hzero : (ofRatio negative 0 1).significand = 0 := by cases negative <;> decide
    rw [magnitude, hzero]
    norm_num
  · have hone : (1 : ℚ) ≤ n := by exact_mod_cast hpos
    have hrounds := (rounds_ofRatio_integer negative hpos hn).2.2
    exact hrounds.magnitude_le hone

theorem ten_pow_lt_finiteBound {k : Nat} (hk : k ≤ maxTenPow) : (10 ^ k : ℚ) < finiteBound := by
  have hgreatest : 10 ^ maxTenPow < (2 ^ 53 - 1) * 2 ^ 971 := by decide +kernel
  calc (10 ^ k : ℚ) ≤ 10 ^ maxTenPow := pow_le_pow_right₀ (by norm_num) hk
    _ < (2 ^ 53 - 1 : Nat) * 2 ^ 971 := by exact_mod_cast hgreatest
    _ < (2 ^ 53 - 1 / 2) * 2 ^ 971 :=
        mul_lt_mul_of_pos_right (by norm_num) (pow_pos (by norm_num) _)

/-- A power of ten up to the greatest is rounded to a finite number. -/
theorem rounds_tenPow {k : Nat} (hk : k ≤ maxTenPow) : (tenPow k).isNegative = false
    ∧ (tenPow k).isFinite = true ∧ (tenPow k).Rounds (10 ^ k) := by
  have hcast : ((Nat.pow 10 k : Nat) : ℚ) = 10 ^ k := by
    rw [Nat.pow_eq]
    push_cast
    rfl
  have h := rounds_ofRatio_integer false (n := Nat.pow 10 k) (Nat.pow_pos (by decide))
    (hcast ▸ ten_pow_lt_finiteBound hk)
  rwa [hcast] at h

/-! ## Scaling by one power of ten -/

theorem scaleTen_ofNat (x : Binary64) {k : Nat} (hk : k ≤ maxTenPow) :
    x.scaleTen k = x.mul (tenPow k) := by
  rw [scaleTen, if_neg (by omega), if_pos (by exact_mod_cast hk), Int.toNat_natCast]

theorem scaleTen_neg (x : Binary64) {k : Nat} (hpos : 0 < k) (hk : k ≤ maxTenPow) :
    x.scaleTen (-k) = x.div (tenPow k) := by
  have hlt : k - 1 < maxTenPow := by omega
  have hsplit : (-(k : Int)).natAbs - 1 = k - 1 := by omega
  rw [scaleTen, if_pos (by omega)]
  dsimp only
  rw [hsplit, Nat.div_eq_of_lt hlt, Nat.mod_eq_of_lt hlt, Nat.sub_add_cancel hpos, divTenPow]

/-! ## Finite numbers -/

theorem magnitude_lt (hx : x.isFinite = true) : x.magnitude < 2 ^ (1024 : ℤ) :=
  x.rounds_magnitude.lt.trans_le
    (zpow_le_zpow_right₀ (by norm_num) (by have := exponent_le hx; omega))

/-- A finite number stays so when it is divided by two or more. -/
theorem isFinite_div (hx : x.isFinite = true) (hy : 2 ≤ y.magnitude) :
    (x.div y).isFinite = true := by
  obtain ⟨num, den, hden, hratio, hdiv⟩ := div_eq_ofRatio x (show 0 < y.magnitude by linarith)
  rw [hdiv]
  refine isFinite_ofRatio _ num hden ?_
  have hhalf : (2 : ℚ) ^ (1024 : ℤ) = 2 ^ (1023 : ℤ) * 2 := zpow_add_one₀ (by norm_num) 1023
  calc (num / den : ℚ) = x.magnitude / y.magnitude := hratio
    _ ≤ x.magnitude / 2 := div_le_div_of_nonneg_left x.magnitude_nonneg (by norm_num) hy
    _ < 2 ^ (1023 : ℤ) := by
        rw [div_lt_iff₀ (by norm_num), ← hhalf]
        exact magnitude_lt hx
    _ < finiteBound := two_zpow_lt_finiteBound le_rfl

theorem two_le_magnitude_tenPow {k : Nat} (hpos : 0 < k) (hk : k ≤ maxTenPow) :
    2 ≤ (tenPow k).magnitude := by
  have hten : (10 : ℚ) ≤ 10 ^ k := le_self_pow₀ (by norm_num) hpos.ne'
  have := (rounds_tenPow hk).2.2.le_two_mul_magnitude (by linarith)
  linarith

theorem isFinite_divTenPow (hx : x.isFinite = true) {last : Nat} (hpos : 0 < last)
    (hlast : last ≤ maxTenPow) (n : Nat) : (x.divTenPow last n).isFinite = true := by
  induction n generalizing x with
  | zero => exact isFinite_div hx (two_le_magnitude_tenPow hpos hlast)
  | succ n ih =>
    rw [divTenPow]
    split
    · exact hx
    · exact ih (isFinite_div hx (two_le_magnitude_tenPow (by decide) le_rfl))

/-- With both factors a little too large, their product is a little more than that too large. -/
theorem isFinite_mul_tenPow {a : ℚ} {k : Nat} (hk : k ≤ maxTenPow) (ha : 0 ≤ a)
    (hx : x.magnitude * (2 ^ 53 - 1) ≤ a * 2 ^ 53)
    (hv : a * 10 ^ k ≤ (2 ^ 53 - 7 / 2) * 2 ^ (971 : ℤ)) : (x.mul (tenPow k)).isFinite = true := by
  obtain ⟨num, den, hden, hratio, hmul⟩ := mul_eq_ofRatio x (tenPow k)
  rw [hmul]
  refine isFinite_ofRatio _ num hden ?_
  have hp : (0 : ℚ) < 2 ^ (971 : ℤ) := zpow_pos (by norm_num) _
  have hy := (rounds_tenPow hk).2.2.magnitude_le (one_le_pow₀ (by norm_num))
  have hprod : x.magnitude * (2 ^ 53 - 1) * ((tenPow k).magnitude * (2 ^ 53 - 1))
      ≤ a * 2 ^ 53 * (10 ^ k * 2 ^ 53) :=
    mul_le_mul hx hy (mul_nonneg (tenPow k).magnitude_nonneg (by norm_num)) (by positivity)
  rw [hratio, finiteBound]
  have hsquare : (0 : ℚ) < (2 ^ 53 - 1) ^ 2 := by norm_num
  refine lt_of_mul_lt_mul_right ?_ hsquare.le
  calc x.magnitude * (tenPow k).magnitude * (2 ^ 53 - 1) ^ 2
      = x.magnitude * (2 ^ 53 - 1) * ((tenPow k).magnitude * (2 ^ 53 - 1)) := by ring
    _ ≤ a * 2 ^ 53 * (10 ^ k * 2 ^ 53) := hprod
    _ = a * 10 ^ k * 2 ^ 106 := by ring
    _ ≤ (2 ^ 53 - 7 / 2) * 2 ^ (971 : ℤ) * 2 ^ 106 :=
        mul_le_mul_of_nonneg_right hv (by norm_num)
    _ = (2 ^ 53 - 7 / 2) * 2 ^ 106 * 2 ^ (971 : ℤ) := by ring
    _ < (2 ^ 53 - 1 / 2) * (2 ^ 53 - 1) ^ 2 * 2 ^ (971 : ℤ) :=
        mul_lt_mul_of_pos_right (by norm_num) hp
    _ = (2 ^ 53 - 1 / 2) * 2 ^ (971 : ℤ) * (2 ^ 53 - 1) ^ 2 := by ring

/-- A decimal with a greater power of ten is beyond all finite numbers. -/
theorem lt_value_of_exponent {d : Decimal} (hexp : maxTenPow < d.exponent) (hd : 0 < d.digits) :
    (2 : ℚ) ^ (1024 : ℤ) < d.value := by
  have hten : (2 : ℚ) ^ (1024 : ℤ) < 10 ^ ((maxTenPow + 1 : Nat) : ℤ) := by
    exact_mod_cast (by decide +kernel : 2 ^ 1024 < 10 ^ (maxTenPow + 1))
  have hone : (1 : ℚ) ≤ d.digits := by exact_mod_cast hd
  calc (2 : ℚ) ^ (1024 : ℤ) < 10 ^ ((maxTenPow + 1 : Nat) : ℤ) := hten
    _ ≤ 10 ^ d.exponent := zpow_le_zpow_right₀ (by norm_num) (by omega)
    _ ≤ d.value := le_mul_of_one_le_left (zpow_nonneg (by norm_num) _) hone

/-- A decimal that keeps three last places away from the bound becomes a finite number. -/
theorem isFinite_ofDecimalStepwise (negative : Bool) {d : Decimal}
    (hd : d.digits < Decimal.wordSize) (hv : d.value ≤ (2 ^ 53 - 7 / 2) * 2 ^ (971 : ℤ)) :
    (ofDecimalStepwise negative d).isFinite = true := by
  obtain ⟨hfinite, hmag⟩ := magnitude_ofRatio_le negative (natCast_lt_finiteBound hd)
  unfold ofDecimalStepwise scaleTen
  split_ifs with hneg hexp hzero
  · exact isFinite_divTenPow hfinite (Nat.succ_pos _) (Nat.mod_lt _ (by decide)) _
  · obtain ⟨k, hk⟩ := Int.eq_ofNat_of_zero_le (not_lt.mp hneg)
    rw [Decimal.value, hk, zpow_natCast] at hv
    rw [hk] at hexp ⊢
    exact isFinite_mul_tenPow (by exact_mod_cast hexp) (Nat.cast_nonneg _) hmag hv
  · exact hfinite
  · have hdigits : 0 < d.digits := by
      by_contra h0
      rw [Nat.eq_zero_of_not_pos h0] at hzero
      cases negative <;> exact hzero (by decide)
    have hbeyond := lt_value_of_exponent (not_le.mp hexp) hdigits
    have hp : (0 : ℚ) < 2 ^ (971 : ℤ) := zpow_pos (by norm_num) _
    have hbound : (2 ^ 53 - 7 / 2) * 2 ^ (971 : ℤ) < (2 : ℚ) ^ (1024 : ℤ) := by
      calc (2 ^ 53 - 7 / 2) * 2 ^ (971 : ℤ) < (2 : ℚ) ^ (53 : ℤ) * 2 ^ (971 : ℤ) :=
            mul_lt_mul_of_pos_right (by norm_num) hp
        _ = 2 ^ (1024 : ℤ) := (zpow_add₀ (by norm_num) _ _).symm
    exact absurd (hbeyond.trans_le hv) (not_lt.mpr hbound.le)

/-- What is rounded to a number that is finite, and not among the three greatest, keeps away from
the bound. -/
theorem Rounds.le_of_magnitudeBits (h : x.Rounds v) (hx : x.magnitudeBits + 3 < infinityBits) :
    v ≤ (2 ^ 53 - 7 / 2) * 2 ^ (971 : ℤ) := by
  have hp : (0 : ℚ) < 2 ^ (971 : ℤ) := zpow_pos (by norm_num) _
  have hbits := x.magnitudeBits_eq
  have hexp := x.exponent_ge
  have hle : x.exponent ≤ 971 := by
    by_contra hgt
    have := Nat.mul_le_mul_right exponentWeight (show 2046 ≤ (x.exponent + 1074).toNat by omega)
    have := exponentWeight_le_significand (show -1074 < x.exponent by omega)
    rw [infinityBits] at hx
    omega
  rcases hle.lt_or_eq with hlt | heq
  · calc v ≤ 2 ^ (53 + x.exponent) := h.lt.le
      _ ≤ 2 ^ (52 + 971 : ℤ) := zpow_le_zpow_right₀ (by norm_num) (by omega)
      _ = 2 ^ (52 : ℤ) * 2 ^ (971 : ℤ) := zpow_add₀ (by norm_num) _ _
      _ ≤ (2 ^ 53 - 7 / 2) * 2 ^ (971 : ℤ) := mul_le_mul_of_nonneg_right (by norm_num) hp.le
  · have hm : x.significand + 4 ≤ 2 ^ 53 := by
      rw [heq] at hbits
      unfold infinityBits exponentWeight at *
      omega
    have hm' : (x.significand : ℚ) + 4 ≤ 2 ^ 53 := by exact_mod_cast hm
    have hhigh := h.le.2
    rw [heq] at hhigh
    exact hhigh.trans (mul_le_mul_of_nonneg_right (by linarith) hp.le)

/-! ## Few digits -/

/-- An integer of the format is its own rounding. -/
theorem magnitude_ofRatio_eq (negative : Bool) {n : Nat} (hn : 0 < n) (hb : IsBinary n)
    (hhigh : (n : ℚ) < finiteBound) :
    (ofRatio negative n 1).isNegative = negative ∧ (ofRatio negative n 1).magnitude = n := by
  obtain ⟨hneg, -, hrounds⟩ := rounds_ofRatio_integer negative hn hhigh
  exact ⟨hneg, hrounds.magnitude_eq (by exact_mod_cast hn) hb⟩

/-- The powers of ten of which the powers of five have no more than 53 bits. -/
theorem magnitude_tenPow {k : Nat} (hk : k ≤ 22) : (tenPow k).magnitude = 10 ^ k := by
  have hb : IsBinary (10 ^ k) := by
    refine ⟨5 ^ k, k, ?_, by omega, ?_⟩
    · have hlt : (5 : ℤ) ^ k < 2 ^ 53 := (pow_le_pow_right₀ (by norm_num) hk).trans_lt (by norm_num)
      rwa [abs_of_pos (by positivity)]
    · push_cast
      rw [zpow_natCast, ← mul_pow]
      norm_num
  exact (rounds_tenPow (hk.trans (by decide))).2.2.magnitude_eq (by positivity) hb

/-- Such a power is a number of the format, so that scaling by it rounds once. -/
theorem scaleTen_eq_ofRatio (x : Binary64) {e : Int} (he : e.natAbs ≤ 22) : ∃ num den : Nat, 0 < den
    ∧ (num / den : ℚ) = x.magnitude * 10 ^ e ∧ x.scaleTen e = ofRatio x.isNegative num den := by
  rcases lt_or_ge e 0 with hlt | hge
  · obtain ⟨k, rfl⟩ := Int.exists_eq_neg_ofNat hlt.le
    have hten := magnitude_tenPow (show k ≤ 22 by omega)
    have hk : k ≤ maxTenPow := (show k ≤ 22 by omega).trans (by decide)
    obtain ⟨num, den, hden, hratio, hdiv⟩ := div_eq_ofRatio x (hten ▸ pow_pos (by norm_num) k)
    refine ⟨num, den, hden, ?_, ?_⟩
    · rw [hratio, hten, zpow_neg, zpow_natCast, div_eq_mul_inv]
    · rw [scaleTen_neg x (by omega) hk, hdiv, (rounds_tenPow hk).1, Bool.bne_false]
  · obtain ⟨k, rfl⟩ := Int.eq_ofNat_of_zero_le hge
    have hten := magnitude_tenPow (show k ≤ 22 by omega)
    have hk : k ≤ maxTenPow := (show k ≤ 22 by omega).trans (by decide)
    obtain ⟨num, den, hden, hratio, hmul⟩ := mul_eq_ofRatio x (tenPow k)
    refine ⟨num, den, hden, ?_, ?_⟩
    · rw [hratio, hten, zpow_natCast]
    · rw [scaleTen_ofNat x hk, hmul, (rounds_tenPow hk).1, Bool.bne_false]

/-- The digits of such a decimal are a number of the format too, so that only scaling it has
anything to round. -/
theorem ofDecimalStepwise_eq_of_rounds (hx : x.isFinite = true) (hzero : x.isZero = false)
    {d : Decimal} (hd : d.digits < 2 ^ 53) (hexp : d.exponent.natAbs ≤ 22)
    (h : x.Rounds d.value) : ofDecimalStepwise x.isNegative d = x := by
  have hb : IsBinary d.digits := by
    refine ⟨d.digits, 0, ?_, by norm_num, by simp⟩
    rw [Nat.abs_cast]
    exact_mod_cast hd
  obtain ⟨hneg, hmag⟩ := magnitude_ofRatio_eq x.isNegative (h.digits_pos hzero) hb
    (natCast_lt_finiteBound (hd.trans (by decide)))
  obtain ⟨num, den, hden, hratio, hscale⟩ :=
    scaleTen_eq_ofRatio (ofRatio x.isNegative d.digits 1) hexp
  -- what is rounded is the value of the decimal
  rw [hmag, ← Decimal.value] at hratio
  rw [ofDecimalStepwise, hscale, hneg]
  refine ofRatio_eq_of_rounds hx ?_ hden (hratio ▸ h)
  have hvalue : 0 < d.value := (zpow_pos (by norm_num) _).trans_le (h.pos hzero)
  by_contra h0
  rw [← hratio, Nat.eq_zero_of_not_pos h0, Nat.cast_zero, zero_div] at hvalue
  exact lt_irrefl _ hvalue

end Binary64

end RowFilter
