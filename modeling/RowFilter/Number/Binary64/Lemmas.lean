import Mathlib.Data.Int.Log
import Mathlib.Data.Rat.Floor
import Mathlib.Tactic.FieldSimp
import Mathlib.Tactic.Linarith
import Mathlib.Tactic.Positivity
import Mathlib.Tactic.Ring
import RowFilter.Number.Binary64
/-!
# Rounding to a number

A ratio is rounded to a finite number if it lies closer to it than half way to the neighbours; half
way it is if the significand is even. The values are rational here, so that the powers by
which numerators and denominators are scaled are powers with integer exponents.

* `Rounds`: the values that are rounded to a number.
* `ofRatio_eq_of_rounds`: `ofRatio` rounds them so.
-/
namespace RowFilter

namespace Decimal

/-- The value of a decimal. -/
def value (d : Decimal) : ℚ := d.digits * 10 ^ d.exponent

end Decimal

namespace Binary64

/-! ## Scaling by powers -/

variable {num den : Nat}

theorem scaleDown_spec {base : Nat} (hbase : 0 < base) (num : Nat) (hden : 0 < den) (e : Int) :
    0 < (scaleDown base num den e).2
      ∧ ((scaleDown base num den e).1 : ℚ) / (scaleDown base num den e).2
        = num / den / (base : ℚ) ^ e := by
  have hb : (0 : ℚ) < base := by exact_mod_cast hbase
  unfold scaleDown
  by_cases he : 0 ≤ e
  · obtain ⟨n, rfl⟩ := Int.eq_ofNat_of_zero_le he
    rw [if_pos he]
    refine ⟨Nat.mul_pos hden (Nat.pow_pos hbase), ?_⟩
    simp [div_div]
  · obtain ⟨n, hn⟩ := Int.eq_ofNat_of_zero_le (show 0 ≤ -e by omega)
    obtain rfl : e = -(n : Int) := by omega
    rw [if_neg he]
    refine ⟨hden, ?_⟩
    simp
    ring

/-- Comparing with a power is comparing numerator and denominator. -/
theorem powerLe_iff {base : Nat} (hbase : 0 < base) (hden : 0 < den) (e : Int) :
    powerLe base e num den = true ↔ (base : ℚ) ^ e ≤ num / den := by
  obtain ⟨hpos, hratio⟩ := scaleDown_spec hbase num hden e
  have hb : (0 : ℚ) < base := by exact_mod_cast hbase
  have hp : (0 : ℚ) < (base : ℚ) ^ e := zpow_pos hb e
  have hd : (0 : ℚ) < (scaleDown base num den e).2 := by exact_mod_cast hpos
  rw [← one_le_div hp, ← hratio, one_le_div hd, Nat.cast_le]
  simp [powerLe]

theorem log_eq {b : Nat} (hb : 1 < b) {v : ℚ} (hv : 0 < v) {k : Int} (h : (b : ℚ) ^ k ≤ v)
    (h' : v < (b : ℚ) ^ (k + 1)) : Int.log b v = k := by
  have hle := (Int.zpow_le_iff_le_log hb hv).mp h
  have hlt := (Int.lt_zpow_iff_log_lt hb hv).mp h'
  omega

theorem two_zpow_sub (a b : Nat) : (2 : ℚ) ^ ((a : Int) - b) = 2 ^ a / 2 ^ b := by
  rw [zpow_sub₀ (by norm_num), zpow_natCast, zpow_natCast]

/-- The difference of the bit lengths is the logarithm, or one more. -/
theorem floorLog2_eq (hnum : 0 < num) (hden : 0 < den) :
    floorLog2 num den = Int.log 2 (num / den : ℚ) := by
  have hn : (0 : ℚ) < num := by exact_mod_cast hnum
  have hd : (0 : ℚ) < den := by exact_mod_cast hden
  have hnlow : (2 : ℚ) ^ num.log2 ≤ num := by exact_mod_cast Nat.log2_self_le hnum.ne'
  have hnhigh : (num : ℚ) < 2 ^ (num.log2 + 1) := by exact_mod_cast Nat.lt_log2_self
  have hdlow : (2 : ℚ) ^ den.log2 ≤ den := by exact_mod_cast Nat.log2_self_le hden.ne'
  have hdhigh : (den : ℚ) < 2 ^ (den.log2 + 1) := by exact_mod_cast Nat.lt_log2_self
  have hlow : (2 : ℚ) ^ ((num.log2 : Int) - den.log2 - 1) ≤ num / den := by
    have hexp : (num.log2 : Int) - den.log2 - 1 = num.log2 - (den.log2 + 1 : Nat) := by omega
    rw [hexp, two_zpow_sub]
    exact div_le_div₀ hn.le hnlow hd hdhigh.le
  have hhigh : num / den < (2 : ℚ) ^ ((num.log2 : Int) - den.log2 + 1) := by
    have hexp : (num.log2 : Int) - den.log2 + 1 = (num.log2 + 1 : Nat) - den.log2 := by omega
    rw [hexp, two_zpow_sub]
    exact div_lt_div₀ hnhigh hdlow (by positivity) (by positivity)
  have hv : (0 : ℚ) < num / den := by positivity
  unfold floorLog2
  dsimp only
  split
  · rename_i hle
    have h := (powerLe_iff (by decide) hden _).mp hle
    exact (log_eq (by decide) hv (by exact_mod_cast h) (by exact_mod_cast hhigh)).symm
  · rename_i hnot
    have h := mt (powerLe_iff (by decide) hden _).mpr hnot
    refine (log_eq (by decide) hv (by exact_mod_cast hlow) ?_).symm
    rw [sub_add_cancel]
    exact_mod_cast not_le.mp h

/-! ## Rounding to an integer -/

/-- A value between two others, or on one of them if the range is closed. -/
def Between (closed : Bool) (low v high : ℚ) : Prop :=
  if closed then low ≤ v ∧ v ≤ high else low < v ∧ v < high

theorem Between.le {closed : Bool} {low v high : ℚ} (h : Between closed low v high) :
    low ≤ v ∧ v ≤ high := by
  cases closed with
  | false => exact ⟨le_of_lt h.1, le_of_lt h.2⟩
  | true => exact h

theorem Between.of_lt {closed : Bool} {low v high : ℚ} (hlow : low < v) (hhigh : v < high) :
    Between closed low v high := by
  cases closed with
  | false => exact ⟨hlow, hhigh⟩
  | true => exact ⟨hlow.le, hhigh.le⟩

/-- The bounds of half an integer's distance, between natural numbers. -/
theorem half_bounds (hden : 0 < den) {m : Nat}
    (h : Between (m % 2 = 0) (m - 1 / 2) (num / den) (m + 1 / 2)) :
    2 * (m * den) ≤ 2 * num + den ∧ 2 * num ≤ 2 * (m * den) + den
      ∧ (m % 2 = 1 → 2 * (m * den) < 2 * num + den ∧ 2 * num < 2 * (m * den) + den) := by
  have hd : (0 : ℚ) < den := by exact_mod_cast hden
  have hscale : (num : ℚ) / den * den = num := div_mul_cancel₀ _ hd.ne'
  obtain ⟨hlow, hhigh⟩ := h.le
  refine ⟨?_, ?_, fun hodd => ?_⟩
  · have hmul := mul_le_mul_of_nonneg_right hlow hd.le
    rw [hscale] at hmul
    exact_mod_cast (by linarith : (2 : ℚ) * (m * den) ≤ 2 * num + den)
  · have hmul := mul_le_mul_of_nonneg_right hhigh hd.le
    rw [hscale] at hmul
    exact_mod_cast (by linarith : (2 : ℚ) * num ≤ 2 * (m * den) + den)
  · rw [Between, if_neg (by simp [hodd])] at h
    have hmul := mul_lt_mul_of_pos_right h.1 hd
    have hmul' := mul_lt_mul_of_pos_right h.2 hd
    rw [hscale] at hmul hmul'
    constructor
    · exact_mod_cast (by linarith : (2 : ℚ) * (m * den) < 2 * num + den)
    · exact_mod_cast (by linarith : (2 : ℚ) * num < 2 * (m * den) + den)

/-- A ratio is rounded to the integer that is less than a half away, or a half if it is even. -/
theorem roundHalfEven_eq (hden : 0 < den) {m : Nat}
    (h : Between (m % 2 = 0) (m - 1 / 2) (num / den) (m + 1 / 2)) :
    roundHalfEven num den = m := by
  obtain ⟨hlow, hhigh, hodd⟩ := half_bounds hden h
  have hsplit := Nat.div_add_mod num den
  have hrest := Nat.mod_lt num hden
  unfold roundHalfEven
  dsimp only
  generalize num / den = q at hsplit ⊢
  generalize num % den = r at hsplit hrest ⊢
  -- the integer below the ratio is the one it is rounded to, or the one before
  have hle : q ≤ m := by
    by_contra hgt
    have := Nat.mul_le_mul_left den (show m + 1 ≤ q by omega)
    rw [Nat.mul_add, Nat.mul_comm den m] at this
    omega
  have hge : m ≤ q + 1 := by
    by_contra hlt
    have := Nat.mul_le_mul_left den (show q + 2 ≤ m by omega)
    rw [Nat.mul_add, Nat.mul_comm den m] at this
    omega
  rcases Nat.lt_or_ge q m with hlt | hge'
  · obtain rfl : m = q + 1 := by omega
    rw [Nat.add_mul, Nat.mul_comm q den] at hlow hhigh hodd
    split_ifs <;> omega
  · obtain rfl : m = q := by omega
    rw [Nat.mul_comm m den] at hlow hhigh hodd
    split_ifs <;> omega

/-! ## Finite numbers -/

section

variable (x : Binary64)

theorem fraction_lt : x.fraction < exponentWeight := Nat.mod_lt _ (by decide)

theorem exponent_ge : -1074 ≤ x.exponent := by
  unfold exponent
  omega

theorem significand_lt : x.significand < 2 * exponentWeight := by
  have h := x.fraction_lt
  unfold significand
  split <;> omega

/-- The bits are those of the exponent and of the significand, whose highest bit adds one to the
exponent's. -/
theorem magnitudeBits_eq :
    x.magnitudeBits = (x.exponent + 1074).toNat * exponentWeight + x.significand := by
  have hsplit : x.magnitudeBits = exponentWeight * x.biasedExponent + x.fraction :=
    (Nat.div_add_mod _ _).symm
  unfold exponent significand
  rw [hsplit]
  split
  · rename_i h
    simp [h]
  · rename_i h
    obtain ⟨k, hk⟩ := Nat.exists_eq_succ_of_ne_zero h
    have hexp : (((max x.biasedExponent 1 : Nat) : Int) - 1075 + 1074).toNat = k := by omega
    rw [hexp, hk, Nat.succ_eq_add_one]
    ring

variable {x}

theorem significand_pos (h : x.isZero = false) : 0 < x.significand := by
  rw [isZero, decide_eq_false_iff_not, magnitudeBits_eq] at h
  unfold exponent significand at *
  split at h <;> rename_i he
  · simp only [he] at h ⊢
    simpa [Nat.pos_iff_ne_zero] using h
  · rw [if_neg he]
    exact Nat.add_pos_right _ (by decide)

/-- Above the smallest exponent the significand has all its digits. -/
theorem exponentWeight_le_significand (h : -1074 < x.exponent) :
    exponentWeight ≤ x.significand := by
  unfold exponent at h
  rw [significand, if_neg (by omega)]
  exact Nat.le_add_left _ _

theorem magnitudeBits_lt (h : x.isFinite = true) : x.magnitudeBits < infinityBits := by
  rw [isFinite, decide_eq_true_eq, biasedExponent] at h
  exact (Nat.div_lt_iff_lt_mul (by decide)).mp h

end

/-- How far down a number rounds, in units of its last place: half way to the number below, which
is half as far away below a power of two. -/
def below (x : Binary64) : ℚ := if x.fraction = 0 ∧ 1 < x.biasedExponent then 1 / 4 else 1 / 2

/-- The values that are rounded to a finite number other than zero. -/
def Rounds (x : Binary64) (v : ℚ) : Prop :=
  Between (x.significand % 2 = 0) ((x.significand - x.below) * 2 ^ x.exponent) v
    ((x.significand + 1 / 2) * 2 ^ x.exponent)

section

variable {x : Binary64} {v : ℚ}

theorem below_le (x : Binary64) : x.below ≤ 1 / 2 := by
  unfold below
  split <;> norm_num

theorem below_nonneg (x : Binary64) : 0 ≤ x.below := by
  unfold below
  split <;> norm_num

/-- In units of its last place, a number rounds from half a unit below it to half a unit above. -/
theorem Rounds.between_div (h : x.Rounds v) :
    Between (x.significand % 2 = 0) (x.significand - 1 / 2) (v / 2 ^ x.exponent)
      (x.significand + 1 / 2) := by
  have hp : (0 : ℚ) < 2 ^ x.exponent := zpow_pos (by norm_num) _
  have hbelow := x.below_le
  unfold Rounds Between at *
  split_ifs at h ⊢
  · rw [le_div_iff₀ hp, div_le_iff₀ hp]
    exact ⟨le_trans (mul_le_mul_of_nonneg_right (by linarith) hp.le) h.1, h.2⟩
  · rw [lt_div_iff₀ hp, div_lt_iff₀ hp]
    exact ⟨lt_of_le_of_lt (mul_le_mul_of_nonneg_right (by linarith) hp.le) h.1, h.2⟩

/-- What rounds to a number is less than the next power of two. -/
theorem Rounds.lt (h : x.Rounds v) : v < 2 ^ (53 + x.exponent) := by
  have hp : (0 : ℚ) < 2 ^ x.exponent := zpow_pos (by norm_num) _
  have hm : (x.significand : ℚ) + 1 ≤ 2 ^ 53 := by
    exact_mod_cast (show x.significand + 1 ≤ 2 ^ 53 from x.significand_lt)
  rw [zpow_add₀ (by norm_num), ← div_lt_iff₀ hp]
  have hle := h.between_div.le.2
  norm_num at hm ⊢
  linarith

/-- What rounds to a number and is less than the greatest power of two that the number is not less
than: the number is that power, and the value is less than a quarter of a unit away. -/
theorem Rounds.of_lt (h : x.Rounds v) (hexp : -1074 < x.exponent)
    (hlt : v < 2 ^ (52 + x.exponent)) :
    x.significand = exponentWeight ∧ 2 ^ 53 - 1 / 2 ≤ v / 2 ^ (x.exponent - 1) := by
  have hp : (0 : ℚ) < 2 ^ x.exponent := zpow_pos (by norm_num) _
  have hge := exponentWeight_le_significand hexp
  rw [zpow_add₀ (by norm_num), ← div_lt_iff₀ hp] at hlt
  have hlow := h.between_div.le.1
  have hm : x.significand = exponentWeight := by
    have hweight : (exponentWeight : ℚ) = 2 ^ (52 : Int) := by norm_num [exponentWeight]
    have hcast : (x.significand : ℚ) < exponentWeight + 1 := by
      rw [hweight]
      linarith
    have : x.significand < exponentWeight + 1 := by exact_mod_cast hcast
    omega
  refine ⟨hm, ?_⟩
  have hbe : 1 < x.biasedExponent := by
    unfold exponent at hexp
    omega
  have hfraction : x.fraction = 0 := by
    rw [significand, if_neg (by omega)] at hm
    omega
  have hquarter := h.le.1
  rw [below, if_pos ⟨hfraction, hbe⟩, hm, ← le_div_iff₀ hp] at hquarter
  rw [zpow_sub_one₀ (by norm_num), ← div_div, div_inv_eq_mul]
  norm_num [exponentWeight] at hquarter ⊢
  linarith

end

/-- What rounds to a number has its exponent, as far as there are exponents that small. -/
theorem Rounds.max_log {x : Binary64} {v : ℚ} (h : x.Rounds v) (hv : 0 < v)
    (hge : x.exponent ≤ -1074 ∨ 2 ^ (52 + x.exponent) ≤ v) :
    max (Int.log 2 v - 52) (-1074) = x.exponent := by
  have hlog : Int.log 2 v < 53 + x.exponent :=
    (Int.lt_zpow_iff_log_lt (by decide) hv).mp (by exact_mod_cast h.lt)
  have hexp := x.exponent_ge
  rcases hge with hle | hle
  · omega
  · have hlog' : 52 + x.exponent ≤ Int.log 2 v :=
      (Int.zpow_le_iff_le_log (by decide) hv).mp (by exact_mod_cast hle)
    omega

theorem pow_mul_zpow (n : Nat) (e : Int) : (2 : ℚ) ^ n * 2 ^ e = 2 ^ (n + e) := by
  rw [zpow_add₀ (by norm_num), zpow_natCast]

/-- Just below a power of two the unit is half as large, and the ratio is rounded up to it. -/
theorem ratioBits_below_power {e : Int} (hnum : 0 < num) (hden : 0 < den) (he : -1074 < e)
    (hlow : 2 ^ 53 - 1 / 2 ≤ (num : ℚ) / den / 2 ^ (e - 1))
    (hhigh : (num : ℚ) / den < 2 ^ (52 + e)) :
    ratioBits num den = min infinityBits ((e + 1074).toNat * exponentWeight + exponentWeight) := by
  have hv : (0 : ℚ) < num / den := by positivity
  have hp : (0 : ℚ) < 2 ^ (e - 1) := zpow_pos (by norm_num) _
  have hhigh' : (num : ℚ) / den / 2 ^ (e - 1) < 2 ^ 53 := by
    rwa [div_lt_iff₀ hp, pow_mul_zpow, show ((53 : Nat) : Int) + (e - 1) = 52 + e by omega]
  have hlow' : 2 ^ (51 + e) ≤ (num : ℚ) / den := by
    rw [show 51 + e = ((52 : Nat) : Int) + (e - 1) by omega, ← pow_mul_zpow, ← le_div_iff₀ hp]
    linarith
  have hlog : Int.log 2 (num / den : ℚ) = 51 + e := by
    refine log_eq (by decide) hv (by rwa [Nat.cast_ofNat]) ?_
    rw [Nat.cast_ofNat, show 51 + e + 1 = 52 + e by omega]
    exact hhigh
  obtain ⟨hpos, hratio⟩ := scaleDown_spec Nat.two_pos num hden (e - 1)
  have hround : roundHalfEven (scaleDown 2 num den (e - 1)).1 (scaleDown 2 num den (e - 1)).2
      = 2 * exponentWeight := by
    refine roundHalfEven_eq hpos ?_
    have hweight : ((2 * exponentWeight : Nat) : ℚ) = 2 ^ 53 := by norm_num [exponentWeight]
    rw [Between, if_pos (by decide), hratio, hweight, Nat.cast_ofNat]
    constructor <;> linarith
  have hq : max (Int.log 2 (num / den : ℚ) - 52) (-1074) = e - 1 := by omega
  have hexp : (e + 1074).toNat = (e - 1 + 1074).toNat + 1 := by omega
  unfold ratioBits
  rw [floorLog2_eq hnum hden]
  dsimp only
  rw [hq, hround, hexp, Nat.add_one_mul (e - 1 + 1074).toNat, Nat.two_mul, Nat.add_assoc]

/-- A ratio that rounds to a number has its bits. -/
theorem ratioBits_eq_of_rounds {x : Binary64} (hx : x.isFinite = true) (hnum : 0 < num)
    (hden : 0 < den) (h : x.Rounds (num / den)) : ratioBits num den = x.magnitudeBits := by
  have hv : (0 : ℚ) < num / den := by positivity
  have hbits := magnitudeBits_lt hx
  by_cases hpower : x.exponent ≤ -1074 ∨ 2 ^ (52 + x.exponent) ≤ (num : ℚ) / den
  · obtain ⟨hpos, hratio⟩ := scaleDown_spec Nat.two_pos num hden x.exponent
    unfold ratioBits
    rw [floorLog2_eq hnum hden]
    dsimp only
    rw [h.max_log hv hpower, roundHalfEven_eq hpos (hratio ▸ h.between_div),
      ← magnitudeBits_eq, Nat.min_eq_right hbits.le]
  · rw [not_or, not_le, not_le] at hpower
    obtain ⟨hm, hlow⟩ := h.of_lt hpower.1 hpower.2
    rw [magnitudeBits_eq, hm] at hbits ⊢
    rw [ratioBits_below_power hnum hden hpower.1 hlow hpower.2, Nat.min_eq_right hbits.le]

/-! ## Numbers from ratios and decimals -/

section

variable {x : Binary64} {v : ℚ}

/-- A number is made of its sign and its other bits. -/
theorem ofMagnitudeBits_magnitudeBits (x : Binary64) :
    ofMagnitudeBits x.isNegative x.magnitudeBits = x := by
  have hlt : x.bits.toNat < 2 * signWeight := x.bits.toNat_lt
  have hbits : (if x.isNegative then signWeight + x.magnitudeBits else x.magnitudeBits)
      = x.bits.toNat := by
    unfold isNegative magnitudeBits
    by_cases h : signWeight ≤ x.bits.toNat
    · rw [if_pos (decide_eq_true h), Nat.mod_eq_sub_mod h, Nat.mod_eq_of_lt (by omega)]
      omega
    · rw [if_neg (by simpa using h), Nat.mod_eq_of_lt (by omega)]
  rw [ofMagnitudeBits, hbits, UInt64.ofNat_toNat]

theorem Rounds.pos (h : x.Rounds v) (hx : x.isZero = false) : 2 ^ (x.exponent - 1) ≤ v := by
  have hm : (1 : ℚ) ≤ x.significand := by exact_mod_cast significand_pos hx
  have hbelow := x.below_le
  have hp : (0 : ℚ) < 2 ^ x.exponent := zpow_pos (by norm_num) _
  calc (2 : ℚ) ^ (x.exponent - 1) = (1 - 1 / 2) * 2 ^ x.exponent := by
        rw [zpow_sub_one₀ (by norm_num)]
        ring
    _ ≤ (x.significand - x.below) * 2 ^ x.exponent :=
        mul_le_mul_of_nonneg_right (by linarith) hp.le
    _ ≤ v := h.le.1

theorem Rounds.digits_pos {d : Decimal} (h : x.Rounds d.value) (hx : x.isZero = false) :
    0 < d.digits := by
  have hpos : 0 < d.value := (zpow_pos (by norm_num) _).trans_le (h.pos hx)
  by_contra h0
  rw [Decimal.value, Nat.eq_zero_of_not_pos h0, Nat.cast_zero, zero_mul] at hpos
  exact lt_irrefl _ hpos

/-- A ratio is read as the number that it rounds to. -/
theorem ofRatio_eq_of_rounds (hx : x.isFinite = true) (hnum : 0 < num) (hden : 0 < den)
    (h : x.Rounds (num / den)) : ofRatio x.isNegative num den = x := by
  rw [ofRatio, if_neg hnum.ne', ratioBits_eq_of_rounds hx hnum hden h,
    ofMagnitudeBits_magnitudeBits]

theorem exponent_le (hx : x.isFinite = true) : x.exponent ≤ 971 := by
  rw [isFinite, decide_eq_true_eq] at hx
  unfold exponent
  omega

end

end Binary64

end RowFilter
