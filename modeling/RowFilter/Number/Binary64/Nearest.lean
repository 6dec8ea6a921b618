import Mathlib.Algebra.Order.Ring.Abs
import RowFilter.Number.Binary64.Lemmas
/-!
# Nearest numbers

The number that a value is rounded to is one of the nearest that the format has, and of two that
are equally near the one with an even significand. The format is taken without its largest
exponent here, so that a value beyond all finite numbers has no nearest among them.

* `IsNearest`: a finite number is nearest to a value.
* `isNearest_of_rounds`: what is rounded to a number is nearest to it.
* `IsNearest.value_le`, `IsNearest.value_eq`: nearest numbers are in order, and there is one.
* `IsNearest.value_eq_iff`: which values are numbers themselves.
* `rounds_ofRatio`: a ratio is rounded to what `ofRatio` gives.
* `isFinite_ofRatio`: and that is finite up to half way beyond the greatest finite number.
-/
namespace RowFilter.Binary64

/-! ## Values -/

/-- The absolute value of a finite number. -/
def magnitude (x : Binary64) : ℚ := x.significand * 2 ^ x.exponent

/-- The value of a finite number. -/
def value (x : Binary64) : ℚ := if x.isNegative then -x.magnitude else x.magnitude

/-- The values that have 53 significant bits and a last place that is not too small. -/
def IsBinary (w : ℚ) : Prop := ∃ m k : ℤ, |m| < 2 ^ 53 ∧ -1074 ≤ k ∧ w = m * 2 ^ k

/-- A finite number that no value of the format is nearer to `v` than. Of two that are equally near
it is the one with an even significand. -/
structure IsNearest (x : Binary64) (v : ℚ) : Prop where
  isFinite : x.isFinite = true
  le : ∀ w, IsBinary w → |x.value - v| ≤ |w - v|
  even : ∀ w, IsBinary w → |x.value - v| = |w - v| → x.value = w ∨ x.significand % 2 = 0

section

variable {x y z : Binary64} {v w : ℚ}

theorem magnitude_nonneg (x : Binary64) : 0 ≤ x.magnitude :=
  mul_nonneg (Nat.cast_nonneg _) (zpow_nonneg (by norm_num) _)

theorem abs_value (x : Binary64) : |x.value| = x.magnitude := by
  unfold value
  split
  · rw [abs_neg, abs_of_nonneg x.magnitude_nonneg]
  · exact abs_of_nonneg x.magnitude_nonneg

theorem IsBinary.neg (h : IsBinary w) : IsBinary (-w) := by
  obtain ⟨m, k, hm, hk, rfl⟩ := h
  exact ⟨-m, k, by rwa [abs_neg], hk, by push_cast; ring⟩

theorem isBinary_zero : IsBinary 0 := ⟨0, 0, by norm_num, by norm_num, by norm_num⟩

theorem isBinary_magnitude (x : Binary64) : IsBinary x.magnitude := by
  refine ⟨x.significand, x.exponent, ?_, x.exponent_ge, by simp [magnitude]⟩
  rw [abs_of_nonneg (Int.natCast_nonneg _)]
  exact_mod_cast (show x.significand < 2 ^ 53 from x.significand_lt)

theorem isBinary_value (x : Binary64) : IsBinary x.value := by
  unfold value
  split
  · exact x.isBinary_magnitude.neg
  · exact x.isBinary_magnitude

/-- A value of the format that is not negative, with natural significant bits. -/
theorem IsBinary.exists_nat (h : IsBinary w) (hw : 0 ≤ w) :
    ∃ (m : Nat) (k : ℤ), m < 2 ^ 53 ∧ -1074 ≤ k ∧ w = m * 2 ^ k := by
  obtain ⟨m, k, hm, hk, rfl⟩ := h
  have hp : (0 : ℚ) < 2 ^ k := zpow_pos (by norm_num) _
  have hm0 : 0 ≤ m := by exact_mod_cast nonneg_of_mul_nonneg_left hw hp
  lift m to ℕ using hm0
  rw [abs_of_nonneg (Int.natCast_nonneg _)] at hm
  exact ⟨m, k, by exact_mod_cast hm, hk, by simp⟩

/-! ## Neighbours -/

/-- With one last place or a larger one, values are whole numbers of it. -/
theorem mul_zpow_of_le (m : Nat) {k e : ℤ} (h : e ≤ k) :
    (m : ℚ) * 2 ^ k = (m * 2 ^ (k - e).toNat : Nat) * 2 ^ e := by
  obtain ⟨n, hn⟩ := Int.eq_ofNat_of_zero_le (show 0 ≤ k - e by omega)
  have hk : k = n + e := by omega
  rw [hn, Int.toNat_natCast, hk, ← pow_mul_zpow]
  push_cast
  ring

/-- With a smaller last place than that of a number, values are less than the number. -/
theorem mul_zpow_le_of_lt {m : Nat} {k e : ℤ} (hm : m < 2 ^ 53) (h : k < e) :
    (m : ℚ) * 2 ^ k ≤ (2 ^ 52 - 1 / 2) * 2 ^ e := by
  have hm' : (m : ℚ) ≤ 2 ^ 53 - 1 := by
    rw [le_sub_iff_add_le]
    exact_mod_cast hm
  have hk : (2 : ℚ) ^ k ≤ 2 ^ (e - 1) := zpow_le_zpow_right₀ (by norm_num) (by omega)
  calc (m : ℚ) * 2 ^ k ≤ (2 ^ 53 - 1) * 2 ^ (e - 1) :=
        mul_le_mul hm' hk (zpow_nonneg (by norm_num) _) (by norm_num)
    _ = (2 ^ 52 - 1 / 2) * 2 ^ e := by
        rw [zpow_sub_one₀ (by norm_num)]
        ring

/-- The format has nothing between a number and what is one unit of its last place larger. -/
theorem magnitude_add_le (hw : IsBinary w) (h : x.magnitude < w) :
    x.magnitude + 2 ^ x.exponent ≤ w := by
  have hp : (0 : ℚ) < 2 ^ x.exponent := zpow_pos (by norm_num) _
  obtain ⟨m, k, hm, hk, rfl⟩ := hw.exists_nat (x.magnitude_nonneg.trans h.le)
  unfold magnitude at *
  rcases le_or_gt x.exponent k with he | he
  · rw [mul_zpow_of_le m he] at h ⊢
    have hlt := lt_of_mul_lt_mul_right h hp.le
    have hle : (x.significand : ℚ) + 1 ≤ (m * 2 ^ (k - x.exponent).toNat : Nat) := by
      exact_mod_cast hlt
    calc _ = ((x.significand : ℚ) + 1) * 2 ^ x.exponent := by ring
      _ ≤ _ := mul_le_mul_of_nonneg_right hle hp.le
  · have hs : (2 ^ 52 : ℚ) ≤ x.significand := by
      exact_mod_cast exponentWeight_le_significand (hk.trans_lt he)
    have hle := mul_zpow_le_of_lt hm he
    have hs' := mul_le_mul_of_nonneg_right hs hp.le
    linarith

/-- Nor has it anything between a number and twice as far down as the number rounds. -/
theorem le_magnitude_sub (hw : IsBinary w) (hpos : 0 ≤ w) (h : w < x.magnitude) :
    w ≤ x.magnitude - 2 * (x.below * 2 ^ x.exponent) := by
  have hp : (0 : ℚ) < 2 ^ x.exponent := zpow_pos (by norm_num) _
  have hbelow := mul_le_mul_of_nonneg_right x.below_le hp.le
  obtain ⟨m, k, hm, hk, rfl⟩ := hw.exists_nat hpos
  unfold magnitude at *
  rcases le_or_gt x.exponent k with he | he
  · rw [mul_zpow_of_le m he] at h ⊢
    have hlt := lt_of_mul_lt_mul_right h hp.le
    have hle : ((m * 2 ^ (k - x.exponent).toNat : Nat) : ℚ) + 1 ≤ x.significand := by
      exact_mod_cast hlt
    have hle' := mul_le_mul_of_nonneg_right hle hp.le
    linarith
  · have hle := mul_zpow_le_of_lt hm he
    have hexp : 1 < x.biasedExponent := by
      have := hk.trans_lt he
      unfold exponent at this
      omega
    have hs : x.significand = x.fraction + 2 ^ 52 := if_neg (by omega)
    unfold below
    split
    next =>
      have hs' : (2 ^ 52 : ℚ) ≤ x.significand := by
        exact_mod_cast (by omega : 2 ^ 52 ≤ x.significand)
      have := mul_le_mul_of_nonneg_right hs' hp.le
      linarith
    next hf =>
      have hs' : (2 ^ 52 + 1 : ℚ) ≤ x.significand := by
        exact_mod_cast (by omega : 2 ^ 52 + 1 ≤ x.significand)
      have := mul_le_mul_of_nonneg_right hs' hp.le
      linarith

/-! ## Rounded values -/

/-- At the ends of what is rounded to a number, its significand is even. -/
theorem Rounds.lt_of_odd (h : x.Rounds v) (hodd : x.significand % 2 ≠ 0) :
    (x.significand - x.below) * 2 ^ x.exponent < v
      ∧ v < (x.significand + 1 / 2) * 2 ^ x.exponent := by
  unfold Rounds Between at h
  rwa [if_neg (by simpa using hodd)] at h

/-- From no further down than half way to a value below, the value below is no nearer. -/
theorem dist_le_of_below {m b : ℚ} (hw : w ≤ m - 2 * b) (hlt : w < m) (hv : m - b ≤ v) :
    |m - v| ≤ |w - v| ∧ (|m - v| = |w - v| → v = m - b) := by
  rw [abs_sub_comm w v]
  rcases le_total v m with h | h
  · rw [abs_of_nonneg (sub_nonneg.mpr h)]
    have hvw := le_abs_self (v - w)
    refine ⟨by linarith, fun heq => ?_⟩
    have hnonneg : 0 ≤ v - w := by linarith
    rw [abs_of_nonneg hnonneg] at heq
    linarith
  · have hnonneg : 0 ≤ v - w := by linarith
    rw [abs_sub_comm m v, abs_of_nonneg (sub_nonneg.mpr h), abs_of_nonneg hnonneg]
    refine ⟨by linarith, fun heq => ?_⟩
    linarith

theorem dist_le_of_above {m b : ℚ} (hw : m + 2 * b ≤ w) (hlt : m < w) (hv : v ≤ m + b) :
    |m - v| ≤ |w - v| ∧ (|m - v| = |w - v| → v = m + b) := by
  have h := dist_le_of_below (w := -w) (m := -m) (v := -v) (b := b) (by linarith) (by linarith)
    (by linarith)
  rw [neg_sub_neg, neg_sub_neg, abs_sub_comm v m, abs_sub_comm v w] at h
  refine ⟨h.1, fun heq => ?_⟩
  linarith [h.2 heq]

/-- What is rounded to a number is as near to it as to anything else that is not negative. -/
theorem Rounds.dist_le_of_nonneg (h : x.Rounds v) (hw : IsBinary w) (hpos : 0 ≤ w) :
    |x.magnitude - v| ≤ |w - v|
      ∧ (|x.magnitude - v| = |w - v| → x.magnitude = w ∨ x.significand % 2 = 0) := by
  obtain ⟨hlow, hhigh⟩ := h.le
  have hodd := h.lt_of_odd
  rw [sub_mul, ← magnitude] at hlow hodd
  rw [add_mul, ← magnitude] at hhigh hodd
  rcases lt_trichotomy w x.magnitude with hlt | rfl | hgt
  · obtain ⟨hle, htie⟩ := dist_le_of_below (le_magnitude_sub hw hpos hlt) hlt hlow
    refine ⟨hle, fun heq => .inr ?_⟩
    by_contra hne
    exact (hodd hne).1.ne' (htie heq)
  · exact ⟨le_rfl, fun _ => .inl rfl⟩
  · have hgap := magnitude_add_le hw hgt
    obtain ⟨hle, htie⟩ := dist_le_of_above (by linarith) hgt hhigh
    refine ⟨hle, fun heq => .inr ?_⟩
    by_contra hne
    exact (hodd hne).2.ne (htie heq)

/-- And nearer to it than to anything that is negative, since zero is not nearer. -/
theorem Rounds.dist_le (h : x.Rounds v) (hv : 0 < v) (hw : IsBinary w) :
    |x.magnitude - v| ≤ |w - v|
      ∧ (|x.magnitude - v| = |w - v| → x.magnitude = w ∨ x.significand % 2 = 0) := by
  rcases le_or_gt 0 w with hpos | hneg
  · exact h.dist_le_of_nonneg hw hpos
  · have hzero := (h.dist_le_of_nonneg isBinary_zero le_rfl).1
    have hlt : |0 - v| < |w - v| := by
      rw [abs_sub_comm, abs_sub_comm w v, sub_zero, abs_of_pos hv, abs_of_pos (by linarith)]
      linarith
    exact ⟨(hzero.trans_lt hlt).le, fun heq => absurd heq (hzero.trans_lt hlt).ne⟩

/-- What is rounded to a number is nearest to it, with the sign that it has. -/
theorem isNearest_of_rounds (hx : x.isFinite = true) (hv : v ≠ 0) (h : x.Rounds |v|)
    (hsign : x.isNegative = decide (v < 0)) : x.IsNearest v := by
  rcases lt_or_gt_of_ne hv with hneg | hpos
  · have hvalue : x.value = -x.magnitude := by rw [value, hsign, if_pos (decide_eq_true hneg)]
    rw [abs_of_neg hneg] at h
    have hdist (w : ℚ) (hw : IsBinary w) := h.dist_le (neg_pos.mpr hneg) hw.neg
    have hflip (u : ℚ) : |-u - v| = |u - -v| := by
      rw [← abs_neg, neg_sub, sub_neg_eq_add, sub_neg_eq_add, add_comm]
    refine ⟨hx, fun w hw => ?_, fun w hw heq => ?_⟩
    · have hle := (hdist w hw).1
      rwa [← hflip, ← hflip, neg_neg, ← hvalue] at hle
    · have htie := (hdist w hw).2
      rw [← hflip, ← hflip, neg_neg, ← hvalue] at htie
      rw [hvalue, neg_eq_iff_eq_neg]
      exact htie heq
  · have hvalue : x.value = x.magnitude := by
      rw [value, hsign, if_neg (by simpa using hpos.le)]
    rw [abs_of_pos hpos] at h
    have hdist (w : ℚ) (hw : IsBinary w) := h.dist_le hpos hw
    rw [← hvalue] at hdist
    exact ⟨hx, fun w hw => (hdist w hw).1, fun w hw => (hdist w hw).2⟩

theorem isNearest_of_isZero (hx : x.isZero = true) : x.IsNearest 0 := by
  have hmag : x.magnitude = 0 := by
    have h := magnitudeBits_eq x
    rw [of_decide_eq_true hx] at h
    rw [magnitude, show x.significand = 0 by omega]
    simp
  have hvalue : x.value = 0 := by simp [value, hmag]
  have hfinite : x.isFinite = true := by
    simp [isFinite, biasedExponent, of_decide_eq_true hx]
  refine ⟨hfinite, fun w _ => by simp [hvalue], fun w _ heq => .inl ?_⟩
  simpa [hvalue, eq_comm] using heq

/-! ## What nearest numbers are like -/

/-- What the greater of two numbers is nearest to is not below the middle between them. -/
theorem add_le_of_dist_le {a b : ℚ} (h : a < b) (hdist : |b - v| ≤ |a - v|) : a + b ≤ 2 * v := by
  have hsq := sq_le_sq.mpr hdist
  refine le_of_mul_le_mul_left ?_ (sub_pos.mpr h)
  linarith

theorem le_add_of_dist_le {a b : ℚ} (h : a < b) (hdist : |a - v| ≤ |b - v|) : 2 * v ≤ a + b := by
  have hsq := sq_le_sq.mpr hdist
  refine le_of_mul_le_mul_left ?_ (sub_pos.mpr h)
  linarith

/-- A number that is nearest to a smaller value is not greater. -/
theorem IsNearest.value_le (hx : x.IsNearest v) (hy : y.IsNearest w) (h : v < w) :
    x.value ≤ y.value := by
  by_contra hlt
  rw [not_le] at hlt
  have hv := add_le_of_dist_le hlt (hx.le _ y.isBinary_value)
  have hw := le_add_of_dist_le hlt (hy.le _ x.isBinary_value)
  linarith

/-- Between two numbers with even significands there is something else of the format. -/
theorem exists_between_magnitude (h : x.magnitude < z.magnitude) (hx : x.significand % 2 = 0)
    (hz : z.significand % 2 = 0) : ∃ w, IsBinary w ∧ x.magnitude < w ∧ w < z.magnitude := by
  have hp : (0 : ℚ) < 2 ^ x.exponent := zpow_pos (by norm_num) _
  have hsum : x.magnitude + 2 ^ x.exponent = (x.significand + 1 : Nat) * 2 ^ x.exponent := by
    rw [magnitude]
    push_cast
    ring
  have hodd : (x.significand + 1) % 2 = 1 := by omega
  have hlt : x.significand + 1 < 2 ^ 53 := by
    have := show x.significand < 2 ^ 53 from x.significand_lt
    omega
  refine ⟨x.magnitude + 2 ^ x.exponent, ⟨(x.significand + 1 : Nat), x.exponent, ?_, x.exponent_ge,
    ?_⟩, by linarith, lt_of_le_of_ne (magnitude_add_le z.isBinary_magnitude h) ?_⟩
  · rw [abs_of_nonneg (Int.natCast_nonneg _)]
    exact_mod_cast hlt
  · rw [hsum, Int.cast_natCast]
  · intro heq
    rw [hsum, magnitude] at heq
    rcases le_or_gt x.exponent z.exponent with he | he
    · rw [mul_zpow_of_le _ he] at heq
      have hnat := mul_right_cancel₀ hp.ne' heq
      have hnat' : x.significand + 1 = z.significand * 2 ^ (z.exponent - x.exponent).toNat := by
        exact_mod_cast hnat
      rw [hnat', Nat.mul_mod, hz, Nat.zero_mul] at hodd
      cases hodd
    · have hle := mul_zpow_le_of_lt z.significand_lt he
      have hs : (2 ^ 52 : ℚ) ≤ (x.significand + 1 : Nat) := by
        exact_mod_cast (exponentWeight_le_significand (z.exponent_ge.trans_lt he)).trans
          (Nat.le_succ _)
      have hs' := mul_le_mul_of_nonneg_right hs hp.le
      linarith

theorem value_of_nonneg (h : 0 ≤ x.value) : x.value = x.magnitude := by
  rw [← abs_value, abs_of_nonneg h]

theorem value_of_nonpos (h : x.value ≤ 0) : x.value = -x.magnitude := by
  rw [← abs_value, abs_of_nonpos h, neg_neg]

theorem exists_between (h : x.value < z.value) (hx : x.significand % 2 = 0)
    (hz : z.significand % 2 = 0) : ∃ w, IsBinary w ∧ x.value < w ∧ w < z.value := by
  rcases le_or_gt 0 x.value with hpos | hneg
  · have hz0 := hpos.trans h.le
    rw [value_of_nonneg hpos, value_of_nonneg hz0] at h ⊢
    exact exists_between_magnitude h hx hz
  · rcases le_or_gt z.value 0 with hneg' | hpos
    · rw [value_of_nonpos hneg.le, value_of_nonpos hneg'] at h ⊢
      obtain ⟨w, hw, hzw, hwx⟩ := exists_between_magnitude (neg_lt_neg_iff.mp h) hz hx
      exact ⟨-w, hw.neg, neg_lt_neg hwx, neg_lt_neg hzw⟩
    · exact ⟨0, isBinary_zero, hneg, hpos⟩

/-- What is between two values that are equally near is nearer. -/
theorem IsNearest.not_value_lt (hx : x.IsNearest v) (hy : y.IsNearest v) : ¬ x.value < y.value := by
  intro hlt
  have heq := le_antisymm (hx.le _ y.isBinary_value) (hy.le _ x.isBinary_value)
  have hxe := (hx.even _ y.isBinary_value heq).resolve_left hlt.ne
  have hye := (hy.even _ x.isBinary_value heq.symm).resolve_left hlt.ne'
  obtain ⟨w, hw, hxw, hwy⟩ := exists_between hlt hxe hye
  have hlow := le_add_of_dist_le hxw (hx.le w hw)
  have hhigh := add_le_of_dist_le hwy (hy.le w hw)
  linarith

/-- A value has one nearest number but for the sign of zero. -/
theorem IsNearest.value_eq (hx : x.IsNearest v) (hy : y.IsNearest v) : x.value = y.value :=
  le_antisymm (not_lt.mp (hy.not_value_lt hx)) (not_lt.mp (hx.not_value_lt hy))

/-- A number is nearest to itself. -/
theorem IsNearest.value_eq_iff (hx : x.IsNearest v) : x.value = v ↔ IsBinary v := by
  constructor
  · rintro rfl
    exact x.isBinary_value
  · intro hv
    have h := hx.le v hv
    rw [sub_self, abs_zero] at h
    exact sub_eq_zero.mp (abs_nonpos_iff.mp h)

end

/-! ## Numbers from ratios -/

section

variable {num den : Nat} {x : Binary64} {v : ℚ}

theorem between_of_half_bounds (hden : 0 < den) {m : Nat} (hlow : 2 * (m * den) ≤ 2 * num + den)
    (hhigh : 2 * num ≤ 2 * (m * den) + den)
    (hodd : m % 2 = 1 → 2 * (m * den) < 2 * num + den ∧ 2 * num < 2 * (m * den) + den) :
    Between (m % 2 = 0) (m - 1 / 2) (num / den) (m + 1 / 2) := by
  have hd : (0 : ℚ) < den := by exact_mod_cast hden
  unfold Between
  rw [le_div_iff₀ hd, div_le_iff₀ hd, lt_div_iff₀ hd, div_lt_iff₀ hd]
  split
  next =>
    have hlow' : (2 * (m * den) : ℚ) ≤ 2 * num + den := by exact_mod_cast hlow
    have hhigh' : (2 * num : ℚ) ≤ 2 * (m * den) + den := by exact_mod_cast hhigh
    constructor <;> linarith
  next heven =>
    obtain ⟨hlow, hhigh⟩ := hodd (by simpa using heven)
    have hlow' : (2 * (m * den) : ℚ) < 2 * num + den := by exact_mod_cast hlow
    have hhigh' : (2 * num : ℚ) < 2 * (m * den) + den := by exact_mod_cast hhigh
    constructor <;> linarith

/-- A ratio is within a half of the integer that it is rounded to, and a half away only from an
even one. -/
theorem between_roundHalfEven (num : Nat) (hden : 0 < den) :
    Between (roundHalfEven num den % 2 = 0) (roundHalfEven num den - 1 / 2) (num / den)
      (roundHalfEven num den + 1 / 2) := by
  have hsplit := Nat.div_add_mod num den
  have hrest := Nat.mod_lt num hden
  suffices h : 2 * (roundHalfEven num den * den) ≤ 2 * num + den
      ∧ 2 * num ≤ 2 * (roundHalfEven num den * den) + den
      ∧ (roundHalfEven num den % 2 = 1 → 2 * (roundHalfEven num den * den) < 2 * num + den
        ∧ 2 * num < 2 * (roundHalfEven num den * den) + den) from
    between_of_half_bounds hden h.1 h.2.1 h.2.2
  unfold roundHalfEven
  dsimp only
  generalize num / den = q at hsplit ⊢
  generalize num % den = r at hsplit hrest ⊢
  have hnext : (q + 1) * den = den * q + den := by rw [Nat.add_mul, Nat.mul_comm, Nat.one_mul]
  have hsame : q * den = den * q := Nat.mul_comm q den
  split_ifs <;> simp only [hnext, hsame] <;> omega

/-- The sign and the other bits of a number that is made of them. -/
theorem bits_ofMagnitudeBits (negative : Bool) {b : Nat} (hb : b < signWeight) :
    (ofMagnitudeBits negative b).isNegative = negative
      ∧ (ofMagnitudeBits negative b).magnitudeBits = b := by
  have hw : signWeight = 2 ^ 63 := by decide
  have hbits : (ofMagnitudeBits negative b).bits.toNat
      = if negative then signWeight + b else b := by
    rw [ofMagnitudeBits, UInt64.toNat_ofNat']
    exact Nat.mod_eq_of_lt (by split <;> omega)
  rw [isNegative, magnitudeBits, hbits]
  cases negative with
  | true => simp [Nat.mod_eq_of_lt hb]
  | false => simp [Nat.mod_eq_of_lt hb, hb]

/-- In units of its last place, what is rounded to a number. -/
theorem rounds_iff_div : x.Rounds v ↔ Between (x.significand % 2 = 0) (x.significand - x.below)
    (v / 2 ^ x.exponent) (x.significand + 1 / 2) := by
  have hp : (0 : ℚ) < 2 ^ x.exponent := zpow_pos (by norm_num) _
  unfold Rounds Between
  rw [le_div_iff₀ hp, div_le_iff₀ hp, lt_div_iff₀ hp, div_lt_iff₀ hp]

/-- The exponent and the significand, where this has all its digits. -/
theorem fields_of_magnitudeBits {n s : Nat} (h : x.magnitudeBits = n * exponentWeight + s)
    (hlow : exponentWeight ≤ s) (hhigh : s < 2 * exponentWeight) :
    x.biasedExponent = n + 1 ∧ x.fraction = s - exponentWeight ∧ x.significand = s
      ∧ x.exponent = n - 1074 := by
  have hbits : x.magnitudeBits = (s - exponentWeight) + exponentWeight * (n + 1) := by
    rw [h, Nat.mul_add, Nat.mul_comm n]
    omega
  have hrest : s - exponentWeight < exponentWeight := by omega
  have hbiased : x.biasedExponent = n + 1 := by
    rw [biasedExponent, hbits, Nat.add_mul_div_left _ _ (by decide), Nat.div_eq_of_lt hrest,
      Nat.zero_add]
  have hfraction : x.fraction = s - exponentWeight := by
    rw [fraction, hbits, Nat.add_mul_mod_self_left, Nat.mod_eq_of_lt hrest]
  refine ⟨hbiased, hfraction, ?_, ?_⟩
  · rw [significand, if_neg (by omega), hfraction, Nat.sub_add_cancel hlow]
  · rw [exponent, hbiased]
    omega

/-- A significand with all its digits keeps them when it is rounded, or is rounded up to the next
power of two. -/
theorem rounded_bounds {s : Nat} {u : ℚ} (hlow : 2 ^ 52 ≤ u) (hhigh : u < 2 ^ 53)
    (hround : Between (s % 2 = 0) (s - 1 / 2) u (s + 1 / 2)) :
    exponentWeight ≤ s ∧ s ≤ 2 * exponentWeight := by
  obtain ⟨hle, hge⟩ := hround.le
  constructor
  · have hlt : ((2 ^ 52 : Nat) : ℚ) < s + 1 := by
      push_cast
      linarith
    exact Nat.lt_succ_iff.mp (by exact_mod_cast hlt)
  · have hlt : (s : ℚ) < (2 ^ 53 : Nat) + 1 := by
      push_cast
      linarith
    exact Nat.lt_succ_iff.mp (by exact_mod_cast hlt)

/-- The bits are of a number that the value is rounded to. If the significand is rounded up to a
power of two, it is half as large, and its last place twice as large. -/
theorem rounds_of_magnitudeBits {n s : Nat} (h : x.magnitudeBits = n * exponentWeight + s)
    (hlow : 2 ^ 52 ≤ v / 2 ^ (n - 1074 : ℤ)) (hhigh : v / 2 ^ (n - 1074 : ℤ) < 2 ^ 53)
    (hround : Between (s % 2 = 0) (s - 1 / 2) (v / 2 ^ (n - 1074 : ℤ)) (s + 1 / 2)) :
    x.Rounds v := by
  have hweight : (exponentWeight : ℚ) = 2 ^ 52 := by norm_num [exponentWeight]
  obtain ⟨hge, hle⟩ := rounded_bounds hlow hhigh hround
  rw [rounds_iff_div]
  rcases Nat.lt_or_ge s (2 * exponentWeight) with hlt | hcarry
  · obtain ⟨hbiased, hfraction, hs, hexp⟩ := fields_of_magnitudeBits h hge hlt
    rw [hs, hexp, below]
    split
    next hpower =>
      obtain rfl : s = exponentWeight := by omega
      rw [Between, if_pos (by decide)]
      constructor <;> linarith [hround.le.2]
    next => exact hround
  · obtain rfl : s = 2 * exponentWeight := Nat.le_antisymm hle hcarry
    have h' : x.magnitudeBits = (n + 1) * exponentWeight + exponentWeight := by
      rw [h]
      ring
    obtain ⟨hbiased, hfraction, hs, hexp⟩ := fields_of_magnitudeBits h' le_rfl (by decide)
    have hhalf : v / 2 ^ x.exponent = v / 2 ^ (n - 1074 : ℤ) / 2 := by
      rw [hexp, Nat.cast_succ, show (n : ℤ) + 1 - 1074 = n - 1074 + 1 by ring,
        zpow_add_one₀ (by norm_num), div_div]
    have hlow' := hround.le.1
    push_cast at hlow'
    rw [hhalf, hs, below, if_pos ⟨by omega, by omega⟩, Between, if_pos (by decide)]
    constructor <;> linarith

/-- Scaled so that its last place is one, a value has 53 digits before the point. -/
theorem div_zpow_bounds (hv : 0 < v) {e : ℤ} (he : e = Int.log 2 v - 52) :
    2 ^ 52 ≤ v / 2 ^ e ∧ v / 2 ^ e < 2 ^ 53 := by
  have hp : (0 : ℚ) < 2 ^ e := zpow_pos (by norm_num) _
  constructor
  · rw [le_div_iff₀ hp, pow_mul_zpow, show ((52 : Nat) : ℤ) + e = Int.log 2 v by omega]
    exact_mod_cast Int.zpow_log_le_self (by decide) hv
  · rw [div_lt_iff₀ hp, pow_mul_zpow, show ((53 : Nat) : ℤ) + e = Int.log 2 v + 1 by omega]
    exact_mod_cast Int.lt_zpow_succ_log_self (by decide) v

/-- The bits of a ratio with a last place of its own, and what is rounded for them. -/
theorem ratioBits_of_log (hnum : 0 < num) (hden : 0 < den) {n : Nat}
    (hn : (n - 1074 : ℤ) = Int.log 2 (num / den : ℚ) - 52) :
    ∃ s : Nat, ratioBits num den = min infinityBits (n * exponentWeight + s)
      ∧ Between (s % 2 = 0) (s - 1 / 2) (num / den / 2 ^ (n - 1074 : ℤ)) (s + 1 / 2) := by
  obtain ⟨hpos, hratio⟩ := scaleDown_spec Nat.two_pos num hden (n - 1074)
  have hround := between_roundHalfEven (scaleDown 2 num den (n - 1074)).1 hpos
  rw [hratio, Nat.cast_ofNat] at hround
  refine ⟨_, ?_, hround⟩
  have hmax : max (Int.log 2 (num / den : ℚ) - 52) (-1074) = n - 1074 := by omega
  unfold ratioBits
  rw [floorLog2_eq hnum hden]
  dsimp only
  rw [hmax, show (n - 1074 + 1074 : ℤ).toNat = n by omega]

/-- Half way from the greatest finite number to the power of two above it. -/
def finiteBound : ℚ := (2 ^ 53 - 1 / 2) * 2 ^ (971 : ℤ)

theorem two_zpow_lt_finiteBound {k : ℤ} (hk : k ≤ 1023) : (2 : ℚ) ^ k < finiteBound := by
  have hp : (0 : ℚ) < 2 ^ (971 : ℤ) := zpow_pos (by norm_num) _
  calc (2 : ℚ) ^ k ≤ 2 ^ (52 + 971 : ℤ) := zpow_le_zpow_right₀ (by norm_num) hk
    _ = 2 ^ (52 : ℤ) * 2 ^ (971 : ℤ) := zpow_add₀ (by norm_num) _ _
    _ < finiteBound := mul_lt_mul_of_pos_right (by norm_num) hp

theorem natCast_lt_finiteBound {n : Nat} (hn : n < 2 ^ 64) : (n : ℚ) < finiteBound := by
  have hlt : (n : ℚ) < 2 ^ 64 := by exact_mod_cast hn
  exact hlt.trans (two_zpow_lt_finiteBound (by norm_num : (64 : ℤ) ≤ 1023))

theorem log_lt_of_lt_finiteBound {v : ℚ} (hv : 0 < v) (h : v < finiteBound) :
    Int.log 2 v < 1024 := by
  have hp : (0 : ℚ) < 2 ^ (971 : ℤ) := zpow_pos (by norm_num) _
  have hlt : v < 2 ^ (1024 : ℤ) := by
    calc v < finiteBound := h
      _ < 2 ^ (53 : ℤ) * 2 ^ (971 : ℤ) := mul_lt_mul_of_pos_right (by norm_num) hp
      _ = 2 ^ (1024 : ℤ) := (zpow_add₀ (by norm_num) _ _).symm
  exact (Int.lt_zpow_iff_log_lt (by decide) hv).mp (by exact_mod_cast hlt)

/-- Bits below those of infinity are of a finite number. -/
theorem isFinite_ofMagnitudeBits (negative : Bool) {b : Nat} (hb : b < infinityBits) :
    (ofMagnitudeBits negative b).isFinite = true := by
  have hinfinity : infinityBits < signWeight := by decide
  rw [isFinite, decide_eq_true_eq, biasedExponent,
    (bits_ofMagnitudeBits negative (hb.trans hinfinity)).2]
  exact (Nat.div_lt_iff_lt_mul (by decide)).mpr hb

/-- Below the bound the bits are those of a finite number, also where the significand is rounded
up to a power of two. -/
theorem bits_lt_infinityBits {n s : Nat} {v : ℚ} (hn : n ≤ 2045)
    (hhigh : v / 2 ^ (n - 1074 : ℤ) < 2 ^ 53)
    (hround : Between (s % 2 = 0) (s - 1 / 2) (v / 2 ^ (n - 1074 : ℤ)) (s + 1 / 2))
    (hbound : v < finiteBound) : n * exponentWeight + s < infinityBits := by
  have hlow := hround.le.1
  have hp : (0 : ℚ) < 2 ^ (971 : ℤ) := zpow_pos (by norm_num) _
  rcases hn.lt_or_eq with hlt | rfl
  · have hs : (s : ℚ) < (2 ^ 53 + 1 : Nat) := by
      push_cast
      linarith
    have hs' : s < 2 ^ 53 + 1 := by exact_mod_cast hs
    unfold infinityBits exponentWeight
    omega
  · -- with the greatest exponent the significand must not be rounded up so far
    rw [show ((2045 : Nat) : ℤ) - 1074 = 971 by norm_num] at hlow
    have hs : (s : ℚ) < (2 ^ 53 : Nat) := by
      have := (div_lt_iff₀ hp).mpr hbound
      push_cast
      linarith
    have hs' : s < 2 ^ 53 := by exact_mod_cast hs
    unfold infinityBits exponentWeight
    omega

/-- A ratio that is neither too small nor too large is rounded to what `ofRatio` gives. -/
theorem rounds_ofRatio (negative : Bool) (hnum : 0 < num) (hden : 0 < den)
    (hlow : 2 ^ (-1022 : ℤ) ≤ (num / den : ℚ)) (hhigh : (num / den : ℚ) < finiteBound) :
    (ofRatio negative num den).isNegative = negative
      ∧ (ofRatio negative num den).isFinite = true
      ∧ (ofRatio negative num den).Rounds (num / den) := by
  have hv : (0 : ℚ) < num / den := by positivity
  have hlog : -1022 ≤ Int.log 2 (num / den : ℚ) :=
    (Int.zpow_le_iff_le_log (by decide) hv).mp (by exact_mod_cast hlow)
  have hlog' := log_lt_of_lt_finiteBound hv hhigh
  obtain ⟨n, hn⟩ := Int.eq_ofNat_of_zero_le
    (show 0 ≤ Int.log 2 (num / den : ℚ) - 52 + 1074 by omega)
  have hplace : (n - 1074 : ℤ) = Int.log 2 (num / den : ℚ) - 52 := by omega
  obtain ⟨hu, hu'⟩ := div_zpow_bounds hv hplace
  obtain ⟨s, hbits, hround⟩ := ratioBits_of_log hnum hden hplace
  have hsmall := bits_lt_infinityBits (by omega) hu' hround hhigh
  rw [Nat.min_eq_right hsmall.le] at hbits
  have hinfinity : infinityBits < signWeight := by decide
  obtain ⟨hsign, hmag⟩ := bits_ofMagnitudeBits negative (hbits.trans_lt (hsmall.trans hinfinity))
  rw [ofRatio, if_neg hnum.ne']
  exact ⟨hsign, isFinite_ofMagnitudeBits negative (hbits.trans_lt hsmall),
    rounds_of_magnitudeBits (hmag.trans hbits) hu hu' hround⟩

/-- An integer that is not too large is rounded to what `ofRatio` gives. -/
theorem rounds_ofRatio_integer (negative : Bool) {n : Nat} (hn : 0 < n)
    (hhigh : (n : ℚ) < finiteBound) :
    (ofRatio negative n 1).isNegative = negative ∧ (ofRatio negative n 1).isFinite = true
      ∧ (ofRatio negative n 1).Rounds n := by
  have hratio : (n / (1 : Nat) : ℚ) = n := by rw [Nat.cast_one, div_one]
  have hone : (1 : ℚ) ≤ n := by exact_mod_cast hn
  have hlow : (2 : ℚ) ^ (-1022 : ℤ) ≤ 1 := zpow_le_one_of_nonpos₀ (by norm_num) (by norm_num)
  have h := rounds_ofRatio negative hn Nat.one_pos (by rw [hratio]; exact hlow.trans hone)
    (by rwa [hratio])
  rwa [hratio] at h

/-- However small a ratio is, below the bound it is rounded to a finite number. -/
theorem isFinite_ofRatio (negative : Bool) (num : Nat) (hden : 0 < den)
    (hhigh : (num / den : ℚ) < finiteBound) : (ofRatio negative num den).isFinite = true := by
  rcases Nat.eq_zero_or_pos num with rfl | hnum
  · rw [ofRatio, if_pos rfl]
    exact isFinite_ofMagnitudeBits negative (by decide)
  rcases le_or_gt (2 ^ (-1022 : ℤ)) (num / den : ℚ) with hlow | hsmall
  · exact (rounds_ofRatio negative hnum hden hlow hhigh).2.1
  -- a ratio of fewer places than the smallest exponent leaves has no more than 52 bits
  have hv : (0 : ℚ) < num / den := by positivity
  have hlog : Int.log 2 (num / den : ℚ) < -1022 :=
    (Int.lt_zpow_iff_log_lt (by decide) hv).mp (by exact_mod_cast hsmall)
  obtain ⟨hpos, hratio⟩ := scaleDown_spec Nat.two_pos num hden (-1074)
  have hround := (between_roundHalfEven (scaleDown 2 num den (-1074)).1 hpos).le.1
  rw [hratio, Nat.cast_ofNat] at hround
  have hunit : (num / den : ℚ) / 2 ^ (-1074 : ℤ) < 2 ^ 52 := by
    rw [div_lt_iff₀ (zpow_pos (by norm_num) _), pow_mul_zpow]
    exact hsmall
  rw [ofRatio, if_neg hnum.ne']
  refine isFinite_ofMagnitudeBits negative ?_
  unfold ratioBits
  rw [floorLog2_eq hnum hden, max_eq_right (by omega)]
  dsimp only
  refine (Nat.min_le_right _ _).trans_lt ?_
  generalize roundHalfEven (scaleDown 2 num den (-1074)).1 (scaleDown 2 num den (-1074)).2 = s
    at hround ⊢
  have hs : (s : ℚ) < (2 ^ 52 + 1 : Nat) := by
    push_cast
    linarith
  have hs' : s < 2 ^ 52 + 1 := by exact_mod_cast hs
  unfold infinityBits exponentWeight
  omega

end

/-! ## Numbers and their values -/

section

variable {x y : Binary64} {v : ℚ}

theorem rounds_magnitude (x : Binary64) : x.Rounds x.magnitude := by
  have hp : (0 : ℚ) < 2 ^ x.exponent := zpow_pos (by norm_num) _
  have hbelow : 0 < x.below := by
    unfold below
    split <;> norm_num
  apply Between.of_lt
  · exact mul_lt_mul_of_pos_right (by linarith) hp
  · exact mul_lt_mul_of_pos_right (by linarith) hp

theorem isNegative_eq (h : x.value ≠ 0) : x.isNegative = decide (x.value < 0) := by
  have hmag : 0 < x.magnitude := by
    rw [← abs_value]
    exact abs_pos.mpr h
  unfold value
  split
  next hneg => simp [hneg, hmag]
  next hpos => simp [hpos, hmag.le]

/-- Two numbers with one value are the same, the zeros apart. -/
theorem eq_of_value_eq (hx : x.isFinite = true) (hy : y.isFinite = true) (h : x.value = y.value)
    (hne : x.value ≠ 0) : x = y := by
  have hmag : x.magnitude = y.magnitude := by rw [← abs_value, ← abs_value, h]
  have hpos : 0 < x.magnitude := by
    rw [← abs_value]
    exact abs_pos.mpr hne
  obtain ⟨n, d, hn, hd, hratio⟩ : ∃ n d : Nat, 0 < n ∧ 0 < d ∧ (n : ℚ) / d = x.magnitude := by
    have hnum := Rat.num_pos.mpr hpos
    refine ⟨x.magnitude.num.natAbs, x.magnitude.den, Int.natAbs_pos.mpr hnum.ne',
      x.magnitude.den_pos, ?_⟩
    rw [Nat.cast_natAbs, abs_of_pos hnum, Rat.num_div_den]
  have hxr := ofRatio_eq_of_rounds hx hn hd (hratio.symm ▸ x.rounds_magnitude)
  have hyr := ofRatio_eq_of_rounds hy hn hd ((hratio.trans hmag).symm ▸ y.rounds_magnitude)
  rw [← hxr, ← hyr, isNegative_eq hne, isNegative_eq (h ▸ hne), h]

end

/-! ## Integers -/

/-- A 64-bit integer, with its sign or without, is rounded to the nearest number. -/
theorem isNearest_ofRatio_natAbs {a : Int} (ha : a.natAbs < 2 ^ 64) {negative : Bool}
    (hsign : a ≠ 0 → negative = decide (a < 0)) : (ofRatio negative a.natAbs 1).IsNearest a := by
  rcases eq_or_ne a 0 with rfl | hne
  · rw [Int.cast_zero]
    apply isNearest_of_isZero
    rw [isZero, decide_eq_true_eq]
    exact (bits_ofMagnitudeBits negative (by decide)).2
  · have hpos : 0 < a.natAbs := Int.natAbs_pos.mpr hne
    have habs : |(a : ℚ)| = a.natAbs := by rw [Nat.cast_natAbs, Int.cast_abs]
    obtain ⟨hneg, hfinite, hrounds⟩ :=
      rounds_ofRatio_integer negative hpos (natCast_lt_finiteBound ha)
    refine isNearest_of_rounds hfinite (by exact_mod_cast hne) (habs ▸ hrounds) ?_
    rw [hneg, hsign hne]
    simp

/-- The integers of the format are those of 53 significant bits. -/
theorem isBinary_intCast {a : Int} :
    IsBinary a ↔ ∃ (m : Int) (k : Nat), |m| ≤ 2 ^ 53 ∧ a = m * 2 ^ k := by
  constructor
  · rintro ⟨m, k, hm, hk, heq⟩
    rcases le_or_gt 0 k with hpos | hneg
    · lift k to ℕ using hpos
      exact ⟨m, k, hm.le, by exact_mod_cast heq⟩
    · -- with places after the point, the significant bits are those of the integer and more
      obtain ⟨n, hn⟩ := Int.eq_ofNat_of_zero_le (show 0 ≤ -k by omega)
      have hscaled : m = a * 2 ^ n := by
        rw [show k = -(n : ℤ) by omega, zpow_neg, zpow_natCast,
          eq_mul_inv_iff_mul_eq₀ (by positivity)] at heq
        exact_mod_cast heq.symm
      have hle : |a| ≤ |m| := by
        rw [hscaled, abs_mul, abs_of_pos (by positivity : (0 : ℤ) < 2 ^ n)]
        exact le_mul_of_one_le_right (abs_nonneg a) (one_le_pow₀ (by norm_num))
      exact ⟨a, 0, hle.trans hm.le, by simp⟩
  · rintro ⟨m, k, hm, rfl⟩
    rcases hm.lt_or_eq with hlt | heq
    · exact ⟨m, k, hlt, by omega, by push_cast; simp⟩
    · have hpower : IsBinary (2 ^ 53 * 2 ^ k) :=
        ⟨1, (53 + k : Nat), by norm_num, by omega, by rw [zpow_natCast, pow_add]; norm_num⟩
      rcases eq_or_eq_neg_of_abs_eq heq with rfl | rfl
      · exact_mod_cast hpower
      · have hneg := hpower.neg
        rw [← neg_mul] at hneg
        exact_mod_cast hneg

/-- An integer of digits alone is read as any other ratio. -/
theorem ofDecimal_integer (negative : Bool) {n : Nat} (hn : n < 2 ^ 64) :
    ofDecimal negative ⟨n, 0⟩ = ofRatio negative n 1 := by
  have hlength : (Nat.toDigits 10 n).length ≤ 20 :=
    (Nat.length_toDigits_le_iff (by decide) (by decide)).mpr (hn.trans (by decide))
  unfold ofDecimal
  dsimp only
  split
  next h => rw [h, ofRatio, if_pos rfl]
  next =>
    rw [if_neg (by omega), if_neg (by omega)]
    simp [scaleDown]

end RowFilter.Binary64
