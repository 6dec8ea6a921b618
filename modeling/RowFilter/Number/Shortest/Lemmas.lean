import Mathlib.Data.Nat.Cast.Order.Field
import RowFilter.Number.Binary64.Lemmas
import RowFilter.Number.Shortest
/-!
# The shortest decimal is read back

The decimal that `shortest` picks rounds to the number. The search ends on the grid of
seventeen digits at the latest: there the multiples lie closer to each other than the interval
is long.

* `floorLog10_eq`: the estimate from the binary logarithm is good enough.
* `rounds_shortest`: the shortest decimal rounds to the number.
-/
namespace RowFilter.Binary64

variable {x : Binary64}

/-! ## Decimal logarithms -/

/-- Whether the estimate of the decimal logarithm is good enough for the binary one. -/
def estimateHolds (l : Int) : Bool :=
  let k := (l * 30103).fdiv 100000
  let (n, d) := scaleDown 2 1 1 (-l)
  powerLe 10 (k - 1) n d && !powerLe 10 (k + 2) (2 * n) d

theorem estimateHolds_of_lt : ∀ n : Nat, n < 2100 → estimateHolds ((n : Int) - 1074) = true := by
  decide +kernel

/-- Up to a power of ten either way, the estimate is the decimal logarithm of a power of two and
of what is less than the next one. -/
theorem estimate_spec {l : Int} (hlow : -1074 ≤ l) (hhigh : l ≤ 1023) :
    (10 : ℚ) ^ ((l * 30103).fdiv 100000 - 1) ≤ 2 ^ l
      ∧ (2 : ℚ) ^ (l + 1) < 10 ^ ((l * 30103).fdiv 100000 + 2) := by
  have h := estimateHolds_of_lt (l + 1074).toNat (by omega)
  rw [show (((l + 1074).toNat : Int) - 1074) = l by omega] at h
  unfold estimateHolds at h
  obtain ⟨hpos, hratio⟩ := scaleDown_spec Nat.two_pos 1 Nat.one_pos (-l)
  rw [Nat.cast_one, div_one, zpow_neg, one_div, inv_inv, Nat.cast_ofNat] at hratio
  dsimp only at h
  rw [Bool.and_eq_true, Bool.not_eq_true', ← Bool.not_eq_true, powerLe_iff (by decide) hpos,
    powerLe_iff (by decide) hpos, not_le, hratio, Nat.cast_mul, mul_div_assoc, hratio] at h
  rw [zpow_add_one₀ (by norm_num), mul_comm _ (2 : ℚ)]
  exact_mod_cast h

theorem floorLog10_eq {num den : Nat} (hnum : 0 < num) (hden : 0 < den)
    (hlow : (2 : ℚ) ^ (-1074 : Int) ≤ num / den) (hhigh : (num / den : ℚ) < 2 ^ (1024 : Int)) :
    floorLog10 num den = Int.log 10 (num / den : ℚ) := by
  have hv : (0 : ℚ) < num / den := by positivity
  have hl : -1074 ≤ Int.log 2 (num / den : ℚ) :=
    (Int.zpow_le_iff_le_log (by decide) hv).mp (by rwa [Nat.cast_ofNat])
  have hl' : Int.log 2 (num / den : ℚ) < 1024 :=
    (Int.lt_zpow_iff_log_lt (by decide) hv).mp (by rwa [Nat.cast_ofNat])
  obtain ⟨hbelow, habove⟩ := estimate_spec hl (by omega)
  have h2 : (2 : ℚ) ^ Int.log 2 (num / den : ℚ) ≤ num / den := by
    exact_mod_cast Int.zpow_log_le_self (b := 2) (by decide) hv
  have h2' : (num / den : ℚ) < 2 ^ (Int.log 2 (num / den : ℚ) + 1) := by
    exact_mod_cast Int.lt_zpow_succ_log_self (b := 2) (by decide) (num / den : ℚ)
  unfold floorLog10
  rw [floorLog2_eq hnum hden]
  dsimp only
  generalize (Int.log 2 (num / den : ℚ) * 30103).fdiv 100000 = k at hbelow habove ⊢
  -- the estimate is one too small, right, or one too large
  split_ifs with hup hat
  · rw [powerLe_iff (by decide) hden] at hup
    refine (log_eq (by decide) hv hup ?_).symm
    rw [Nat.cast_ofNat, show k + 1 + 1 = k + 2 by omega]
    exact h2'.trans habove
  · rw [powerLe_iff (by decide) hden] at hup hat
    exact (log_eq (by decide) hv hat (not_le.mp hup)).symm
  · rw [powerLe_iff (by decide) hden] at hat
    refine (log_eq (by decide) hv ?_ ?_).symm
    · exact_mod_cast (hbelow.trans h2)
    · rw [sub_add_cancel]
      exact not_le.mp hat

/-! ## The interval -/

/-- A power of two as the ratio of a scale and a denominator, one of which is one. -/
theorem scale_div_den (e : Int) :
    ((if 0 ≤ e then Nat.pow 2 e.toNat else 1 : Nat) : ℚ)
      / (if 0 ≤ e then 1 else Nat.pow 2 (-e).toNat : Nat) = 2 ^ e := by
  by_cases he : 0 ≤ e
  · obtain ⟨n, rfl⟩ := Int.eq_ofNat_of_zero_le he
    rw [if_pos he, if_pos he]
    simp
  · obtain ⟨n, hn⟩ := Int.eq_ofNat_of_zero_le (show 0 ≤ -e by omega)
    obtain rfl : e = -(n : Int) := by omega
    rw [if_neg he, if_neg he]
    simp

/-- The interval is that of the values which are rounded to the number. -/
structure RoundingInterval.Of (i : RoundingInterval) (x : Binary64) : Prop where
  den_pos : 0 < i.den
  low_eq : (i.low : ℚ) / i.den = (x.significand - x.below) * 2 ^ x.exponent
  mid_eq : (i.mid : ℚ) / i.den = x.significand * 2 ^ x.exponent
  high_eq : (i.high : ℚ) / i.den = (x.significand + 1 / 2) * 2 ^ x.exponent
  closed_eq : i.closed = decide (x.significand % 2 = 0)

theorem roundingInterval_spec (hx : x.isZero = false) : x.roundingInterval.Of x := by
  have hm := significand_pos hx
  have hscale := scale_div_den (x.exponent - 2)
  have hquarter : (2 : ℚ) ^ (x.exponent - 2) = 2 ^ x.exponent / 4 := by
    rw [zpow_sub₀ (by norm_num)]
    norm_num
  have hbelow : ((4 * x.significand
      - (if x.fraction = 0 ∧ 1 < x.biasedExponent then 1 else 2) : Nat) : ℚ)
      = 4 * (x.significand - x.below) := by
    rw [below]
    split
    · rw [Nat.cast_sub (by omega)]
      push_cast
      ring
    · rw [Nat.cast_sub (by omega)]
      push_cast
      ring
  constructor
  · dsimp only [roundingInterval]
    split
    · exact Nat.one_pos
    · exact Nat.pow_pos Nat.two_pos
  · dsimp only [roundingInterval]
    rw [Nat.cast_mul, mul_div_assoc, hscale, hquarter, hbelow]
    ring
  · dsimp only [roundingInterval]
    rw [Nat.cast_mul, mul_div_assoc, hscale, hquarter]
    push_cast
    ring
  · dsimp only [roundingInterval]
    rw [Nat.cast_mul, mul_div_assoc, hscale, hquarter]
    push_cast
    ring
  · rfl

/-- Whether a decimal lies in the interval decides whether it is rounded to the number. -/
theorem holds_iff {i : RoundingInterval} (hi : i.Of x) (n : Nat) (e : Int) :
    i.holds n e = true ↔ x.Rounds (n * 10 ^ e) := by
  obtain ⟨hpos, hratio⟩ := scaleDown_spec (by decide : 0 < 10) n Nat.one_pos (-e)
  rw [Nat.cast_one, div_one, zpow_neg, div_inv_eq_mul, Nat.cast_ofNat] at hratio
  have hd : (0 : ℚ) < (scaleDown 10 n 1 (-e)).2 := by exact_mod_cast hpos
  have hid : (0 : ℚ) < i.den := by exact_mod_cast hi.den_pos
  unfold RoundingInterval.holds Rounds Between
  rw [← hi.low_eq, ← hi.high_eq, ← hratio, ← hi.closed_eq]
  cases i.closed with
  | false =>
    rw [div_lt_div_iff₀ hid hd, div_lt_div_iff₀ hd hid]
    simp only [Bool.false_eq_true, if_false, Bool.and_eq_true, decide_eq_true_eq]
    norm_cast
  | true =>
    rw [div_le_div_iff₀ hid hd, div_le_div_iff₀ hd hid]
    simp only [if_true, Bool.and_eq_true, decide_eq_true_eq]
    norm_cast

/-! ## The grids -/

theorem roundHalfEven_le (num den : Nat) :
    roundHalfEven num den = num / den ∨ roundHalfEven num den = num / den + 1 := by
  unfold roundHalfEven
  dsimp only
  split_ifs <;> simp

/-- What a grid gives is rounded to the number. -/
theorem rounds_of_onGrid {i : RoundingInterval} (hi : i.Of x) {e : Int} {d : Decimal}
    (h : i.onGrid e = some d) : x.Rounds d.value := by
  unfold RoundingInterval.onGrid at h
  dsimp only at h
  split at h
  · rename_i hn hn'
    cases h
    rcases roundHalfEven_le (scaleDown 10 i.mid i.den e).1 (scaleDown 10 i.mid i.den e).2
      with heq | heq
    · rw [Decimal.value, heq]
      exact (holds_iff hi _ e).mp hn
    · rw [Decimal.value, heq]
      exact (holds_iff hi _ e).mp hn'
  · rename_i hn _
    cases h
    exact (holds_iff hi _ e).mp hn
  · rename_i _ hn
    cases h
    exact (holds_iff hi _ e).mp hn
  · cases h

/-- The interval is longer than nine tenths of a unit, or longer than half of one around a power
of two. -/
theorem lt_length_of_le (x : Binary64) {g : ℚ}
    (hg : g * 10 ^ 16 ≤ x.significand * 2 ^ x.exponent) :
    g < (x.below + 1 / 2) * 2 ^ x.exponent := by
  have hp : (0 : ℚ) < 2 ^ x.exponent := zpow_pos (by norm_num) _
  unfold below
  split
  · rename_i hpower
    have hm : (x.significand : ℚ) = 2 ^ 52 := by
      rw [significand, if_neg (by omega), hpower.1]
      norm_num [exponentWeight]
    rw [hm] at hg
    linarith
  · have hm : (x.significand : ℚ) < 2 ^ 53 := by
      exact_mod_cast (show x.significand < 2 ^ 53 from x.significand_lt)
    have := mul_lt_mul_of_pos_right hm hp
    linarith

/-- Of the multiples on either side of the number one is rounded to it, if they lie closer to each
other than the interval is long. -/
theorem rounds_or_rounds {g : ℚ} {n : Nat}
    (hg : g < (x.below + 1 / 2) * 2 ^ x.exponent)
    (hlow : n * g ≤ x.significand * 2 ^ x.exponent)
    (hhigh : x.significand * 2 ^ x.exponent < ((n + 1 : Nat) : ℚ) * g) :
    x.Rounds (n * g) ∨ x.Rounds ((n + 1 : Nat) * g) := by
  have hp : (0 : ℚ) < 2 ^ x.exponent := zpow_pos (by norm_num) _
  have hbelow := mul_nonneg x.below_nonneg hp.le
  rw [add_mul] at hg
  rw [Nat.cast_succ, add_mul, one_mul] at hhigh ⊢
  unfold Rounds
  rw [sub_mul, add_mul]
  -- if the multiple below is not in the interval, the next one is less than the interval's length
  -- above its lower end
  rcases lt_or_ge ((x.significand : ℚ) * 2 ^ x.exponent - x.below * 2 ^ x.exponent) (n * g)
    with hlt | hge
  · exact .inl (.of_lt hlt (by linarith))
  · exact .inr (.of_lt (by linarith) (by linarith))

theorem onGrid_ne_none {i : RoundingInterval} (hi : i.Of x) {e : Int}
    (he : (10 : ℚ) ^ e * 10 ^ 16 ≤ x.significand * 2 ^ x.exponent) : i.onGrid e ≠ none := by
  obtain ⟨hpos, hratio⟩ := scaleDown_spec (by decide : 0 < 10) i.mid hi.den_pos e
  rw [hi.mid_eq, Nat.cast_ofNat] at hratio
  have hg : (0 : ℚ) < 10 ^ e := zpow_pos (by norm_num) _
  unfold RoundingInterval.onGrid
  dsimp only
  generalize (scaleDown 10 i.mid i.den e).1 = num at hratio ⊢
  generalize (scaleDown 10 i.mid i.den e).2 = den at hpos hratio ⊢
  have hlow : ((num / den : Nat) : ℚ) * 10 ^ e ≤ x.significand * 2 ^ x.exponent := by
    rw [← le_div_iff₀ hg, ← hratio]
    exact Nat.cast_div_le
  have hhigh : x.significand * 2 ^ x.exponent < ((num / den + 1 : Nat) : ℚ) * 10 ^ e := by
    rw [← div_lt_iff₀ hg, ← hratio, div_lt_iff₀ (by exact_mod_cast hpos), mul_comm]
    exact_mod_cast Nat.lt_mul_div_succ num hpos
  have hholds := rounds_or_rounds (lt_length_of_le x he) hlow hhigh
  rw [← holds_iff hi, ← holds_iff hi] at hholds
  rcases hholds with h | h
  · rw [h]
    cases i.holds (num / den + 1) e <;> exact Option.some_ne_none _
  · rw [h]
    cases i.holds (num / den) e <;> exact Option.some_ne_none _

/-! ## The search -/

theorem value_strip (fuel : Nat) (d : Decimal) : (d.strip fuel).value = d.value := by
  induction fuel generalizing d with
  | zero => rfl
  | succ fuel ih =>
    rw [Decimal.strip]
    split
    · rename_i h
      obtain ⟨k, hk⟩ := Nat.dvd_of_mod_eq_zero h.1
      rw [ih, Decimal.value, Decimal.value, hk, Nat.mul_div_cancel_left k (by decide),
        zpow_add_one₀ (by norm_num)]
      push_cast
      ring
    · rfl

theorem value_bounds (hx : x.isFinite = true) (hzero : x.isZero = false) :
    (2 : ℚ) ^ (-1074 : Int) ≤ x.significand * 2 ^ x.exponent
      ∧ x.significand * 2 ^ x.exponent < (2 : ℚ) ^ (1024 : Int) := by
  have hm : (1 : ℚ) ≤ x.significand := by exact_mod_cast significand_pos hzero
  have hm' : (x.significand : ℚ) < 2 ^ (53 : Int) := by
    exact_mod_cast (show x.significand < 2 ^ 53 from x.significand_lt)
  have hp : (0 : ℚ) < 2 ^ x.exponent := zpow_pos (by norm_num) _
  constructor
  · calc (2 : ℚ) ^ (-1074 : Int) ≤ 2 ^ x.exponent :=
          zpow_le_zpow_right₀ (by norm_num) x.exponent_ge
      _ ≤ x.significand * 2 ^ x.exponent := le_mul_of_one_le_left hp.le hm
  · calc (x.significand : ℚ) * 2 ^ x.exponent < 2 ^ (53 : Int) * 2 ^ x.exponent :=
          mul_lt_mul_of_pos_right hm' hp
      _ = 2 ^ (53 + x.exponent) := (zpow_add₀ (by norm_num) _ _).symm
      _ ≤ 2 ^ (1024 : Int) :=
          zpow_le_zpow_right₀ (by norm_num) (by have := exponent_le hx; omega)

/-- The shortest decimal of a number is rounded to it. -/
theorem rounds_shortest (hx : x.isFinite = true) (hzero : x.isZero = false) :
    x.Rounds x.shortest.value := by
  obtain ⟨hlow, hhigh⟩ := value_bounds hx hzero
  have hv : (0 : ℚ) < x.significand * 2 ^ x.exponent := (zpow_pos (by norm_num) _).trans_le hlow
  have hi := roundingInterval_spec hzero
  rw [shortest, value_strip]
  generalize x.roundingInterval = i at hi ⊢
  have hmid : 0 < i.mid := by
    by_contra h0
    rw [← hi.mid_eq, Nat.eq_zero_of_not_pos h0, Nat.cast_zero, zero_div] at hv
    exact lt_irrefl _ hv
  have htop := floorLog10_eq hmid hi.den_pos (hi.mid_eq ▸ hlow) (hi.mid_eq ▸ hhigh)
  rw [hi.mid_eq] at htop
  have hlast : i.onGrid (floorLog10 i.mid i.den - 16) ≠ none := by
    refine onGrid_ne_none hi ?_
    rw [htop, zpow_sub₀ (by norm_num), zpow_ofNat, div_mul_cancel₀ _ (by norm_num)]
    exact_mod_cast Int.zpow_log_le_self (b := 10) (by decide) hv
  cases hfind : ((List.range 17).map fun (n : Nat) => floorLog10 i.mid i.den - n).findSome? i.onGrid
    with
  | none =>
    rw [List.findSome?_eq_none_iff] at hfind
    exact absurd (hfind _ (List.mem_map.mpr ⟨16, by decide, rfl⟩)) hlast
  | some d =>
    obtain ⟨e, -, he⟩ := List.exists_of_findSome?_eq_some hfind
    exact rounds_of_onGrid hi he

end RowFilter.Binary64
