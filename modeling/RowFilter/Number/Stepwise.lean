import RowFilter.Number.Binary64
/-!
# Decimals rounded step by step

The digits of a decimal become a number first, and that is multiplied or divided by a power of
ten, each step rounded on its own. The result is the nearest number for decimals of few digits; for
longer ones it may be a neighbour of it.

* `mul`, `div`: products and quotients, rounded.
* `scaleTen`: a number times a power of ten.
* `ofDecimalStepwise`: the number of a decimal.
-/
namespace RowFilter.Binary64

/-- The number nearest to the product of two finite numbers. -/
def mul (x y : Binary64) : Binary64 :=
  let (num, den) := scaleDown 2 (x.significand * y.significand) 1 (-(x.exponent + y.exponent))
  ofRatio (x.isNegative != y.isNegative) num den

/-- The number nearest to the quotient of two finite numbers, of which the second is not zero. -/
def div (x y : Binary64) : Binary64 :=
  let (num, den) := scaleDown 2 x.significand y.significand (y.exponent - x.exponent)
  ofRatio (x.isNegative != y.isNegative) num den

/-! ## Powers of ten -/

/-- The number nearest to a power of ten. -/
def tenPow (k : Nat) : Binary64 := ofRatio false (Nat.pow 10 k) 1

/-- The exponent of the greatest power of ten that a finite number is nearest to. -/
def maxTenPow : Nat := 308

/-- Divides by the greatest power of ten as often as is said, unless nothing is left before, and
then by one more power. -/
def divTenPow (x : Binary64) (last : Nat) : Nat → Binary64
  | 0 => x.div (tenPow last)
  | n + 1 => if x.isZero then x else divTenPow (x.div (tenPow maxTenPow)) last n

/-- A number times a power of ten. Where the power is too large, so is the product. -/
def scaleTen (x : Binary64) (e : Int) : Binary64 :=
  if e < 0 then
    let k := e.natAbs - 1
    x.divTenPow (k % maxTenPow + 1) (k / maxTenPow)
  else if e ≤ maxTenPow then x.mul (tenPow e.toNat)
  else if x.isZero then x
  else infinity x.isNegative

/-- The number of `± d`, in steps. -/
def ofDecimalStepwise (negative : Bool) (d : Decimal) : Binary64 :=
  (ofRatio negative d.digits 1).scaleTen d.exponent

end RowFilter.Binary64
