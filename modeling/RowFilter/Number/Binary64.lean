import RowFilter.Number.Decimal
/-!
# Binary64 numbers

A number of the IEEE 754 binary64 format, held by its 64 bits. `ofRatio` is the
one rounding of the library: whatever becomes a `Binary64` does so through it.

* `ofRatio`: the number nearest to a ratio, a half going to the even neighbour.
* `ofDecimal`: the number nearest to a decimal.
* `ofText?`: the number a text writes.
* `ofInt`: the number nearest to an integer.
-/
namespace RowFilter

/-- A binary64 number, held by its bits. -/
structure Binary64 where
  bits : UInt64
  deriving DecidableEq, Repr

namespace Binary64

/-! ## Reading the bits -/

/-- The weight of the highest of the 64 bits, which is the sign. -/
def signWeight : Nat := 0x8000000000000000

/-- The weight of the lowest bit of the exponent; the 52 bits below are the fraction. -/
def exponentWeight : Nat := 0x10000000000000

def isNegative (x : Binary64) : Bool := signWeight ≤ x.bits.toNat

/-- The bits without the sign: they grow with the absolute value. -/
def magnitudeBits (x : Binary64) : Nat := x.bits.toNat % signWeight

def biasedExponent (x : Binary64) : Nat := x.magnitudeBits / exponentWeight

def fraction (x : Binary64) : Nat := x.magnitudeBits % exponentWeight

def isFinite (x : Binary64) : Bool := x.biasedExponent < 2047

def isNaN (x : Binary64) : Bool := x.biasedExponent = 2047 && x.fraction ≠ 0

/-- Holds of both zeros. -/
def isZero (x : Binary64) : Bool := x.magnitudeBits = 0

/-- A finite number is `± significand · 2 ^ exponent`. -/
def significand (x : Binary64) : Nat :=
  if x.biasedExponent = 0 then x.fraction else x.fraction + exponentWeight

/-- A finite number is `± significand · 2 ^ exponent`. -/
def exponent (x : Binary64) : Int := (max x.biasedExponent 1 : Nat) - 1075

/-! ## Rounding -/

/-- The integer nearest to `num / den`, a half going to the even neighbour. -/
def roundHalfEven (num den : Nat) : Nat :=
  let q := num / den
  let r := num % den
  if 2 * r < den then q
  else if den < 2 * r then q + 1
  else if q % 2 = 0 then q else q + 1

/-- `num / den / base ^ e` as a pair of a numerator and a denominator. -/
def scaleDown (base num den : Nat) (e : Int) : Nat × Nat :=
  if 0 ≤ e then (num, den * Nat.pow base e.toNat) else (num * Nat.pow base (-e).toNat, den)

/-- Whether `base ^ e ≤ num / den`. -/
def powerLe (base : Nat) (e : Int) (num den : Nat) : Bool :=
  let (n, d) := scaleDown base num den e
  d ≤ n

/-- The greatest `k` with `2 ^ k ≤ num / den`, for positive `num` and `den`: the
difference of the bit lengths is at most one too large. -/
def floorLog2 (num den : Nat) : Int :=
  let k : Int := (num.log2 : Int) - den.log2
  if powerLe 2 k num den then k else k - 1

/-- The magnitude bits of infinity. -/
def infinityBits : Nat := 2047 * exponentWeight

/-- The magnitude bits of the number nearest to a positive ratio. A significand
rounded up to the next power of two carries into the exponent by itself. -/
def ratioBits (num den : Nat) : Nat :=
  let q := max (floorLog2 num den - 52) (-1074)
  let (n, d) := scaleDown 2 num den q
  min infinityBits ((q + 1074).toNat * exponentWeight + roundHalfEven n d)

def ofMagnitudeBits (negative : Bool) (b : Nat) : Binary64 :=
  ⟨UInt64.ofNat (if negative then signWeight + b else b)⟩

/-- The number nearest to `± num / den`, with the sign kept on zero. -/
def ofRatio (negative : Bool) (num den : Nat) : Binary64 :=
  ofMagnitudeBits negative (if num = 0 then 0 else ratioBits num den)

def infinity (negative : Bool) : Binary64 := ofMagnitudeBits negative infinityBits

/-- The number nearest to `± d`. A value of `n` digits lies between
`10 ^ (n - 1 + exponent)` and `10 ^ (n + exponent)`; from `10 ^ 310` on it rounds
to infinity, below `10 ^ -330` to zero, and no power need be computed. -/
def ofDecimal (negative : Bool) (d : Decimal) : Binary64 :=
  let n : Int := (Nat.toDigits 10 d.digits).length
  if d.digits = 0 then ofMagnitudeBits negative 0
  else if 310 < n + d.exponent then infinity negative
  else if n + d.exponent < -330 then ofMagnitudeBits negative 0
  else
    let (num, den) := scaleDown 10 d.digits 1 (-d.exponent)
    ofRatio negative num den

/-- The number nearest to an integer. -/
def ofInt (i : Int) : Binary64 := ofRatio (i < 0) i.natAbs 1

/-! ## Reading text -/

def nan : Binary64 := ⟨0x7ff8000000000000⟩

/-- The names of the numbers that are not finite, in lower case. -/
def ofName? (negative : Bool) (s : String) : Option Binary64 :=
  if s = "inf" ∨ s = "infinity" then some (infinity negative)
  else if s = "nan" then some nan
  else none

/-- Reads digits with an optional point, at least one digit in all, and an optional
exponent; nothing may follow. -/
def ofUnsignedText? (negative : Bool) (cs : List Char) : Option Binary64 :=
  let (whole, rest) := Decimal.takeDigits cs
  let (fraction, rest) := match rest with
    | '.' :: rest => Decimal.takeDigits rest
    | rest => ([], rest)
  if whole.isEmpty && fraction.isEmpty then none
  else match Decimal.readExponent? rest with
    | some (e, []) => some (ofDecimal negative (Decimal.ofParts whole fraction (e.getD 0)))
    | _ => none

/-- The number a text writes: an optional sign, then a decimal or, in any case of
letters, the name of a number that is not finite. -/
def ofText? (s : String) : Option Binary64 :=
  let (negative, cs) := Decimal.takeSign s.toList
  match ofName? negative (String.ofList (cs.map Char.toLower)) with
  | some x => some x
  | none => ofUnsignedText? negative cs

end Binary64

end RowFilter
