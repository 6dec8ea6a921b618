import RowFilter.Number.Binary64
/-!
# The shortest decimal of a binary64 number

Every finite nonzero number is the nearest one to a whole interval of reals.
`shortest` picks from that interval a decimal of the fewest digits, and of those
the one nearest to the number, a tie going to the even last digit.
-/
namespace RowFilter.Binary64

/-- The greatest `k` with `10 ^ k ≤ num / den`, for positive `num` and `den`: the
estimate from the binary logarithm is at most one off either way. -/
def floorLog10 (num den : Nat) : Int :=
  let k := (floorLog2 num den * 30103).fdiv 100000
  if powerLe 10 (k + 1) num den then k + 1
  else if powerLe 10 k num den then k
  else k - 1

/-- The reals that round to a number: from `low / den` to `high / den`, ends
included when `closed`. The number itself is `mid / den`. -/
structure RoundingInterval where
  low : Nat
  mid : Nat
  high : Nat
  den : Nat
  closed : Bool
  deriving Repr

/-- The interval reaches half way to the neighbours. Below a power of two the
numbers lie twice as close, so there it reaches half as far. -/
def roundingInterval (x : Binary64) : RoundingInterval :=
  let m := x.significand
  let below := if x.fraction = 0 ∧ 1 < x.biasedExponent then 1 else 2
  let e := x.exponent - 2
  let scale := if 0 ≤ e then Nat.pow 2 e.toNat else 1
  ⟨(4 * m - below) * scale, 4 * m * scale, (4 * m + 2) * scale,
    if 0 ≤ e then 1 else Nat.pow 2 (-e).toNat, m % 2 = 0⟩

/-- Whether `n · 10 ^ e` lies in the interval. -/
def RoundingInterval.holds (i : RoundingInterval) (n : Nat) (e : Int) : Bool :=
  let (num, den) := scaleDown 10 n 1 (-e)
  let left := i.low * den
  let value := num * i.den
  let right := i.high * den
  if i.closed then left ≤ value && value ≤ right else left < value && value < right

/-- The decimal that is a multiple of `10 ^ e` and in the interval, the nearest
one if both neighbours of the middle are. -/
def RoundingInterval.onGrid (i : RoundingInterval) (e : Int) : Option Decimal :=
  let (num, den) := scaleDown 10 i.mid i.den e
  let n := num / den
  let nearest := roundHalfEven num den
  match i.holds n e, i.holds (n + 1) e with
  | true, true => some ⟨nearest, e⟩
  | true, false => some ⟨n, e⟩
  | false, true => some ⟨n + 1, e⟩
  | false, false => none

/-- The shortest decimal that rounds to a finite nonzero number, without zeros at
its end. Seventeen digits always suffice. -/
def shortest (x : Binary64) : Decimal :=
  let i := x.roundingInterval
  let top := floorLog10 i.mid i.den
  let grids := (List.range 17).map fun (n : Nat) => top - n
  ((grids.findSome? i.onGrid).getD ⟨0, 0⟩).strip 17

end RowFilter.Binary64
