import RowFilter.Number.Decimal
/-!
# Unsigned 64-bit numbers as text

Digits with an optional plus sign. A text that is none is refused for the first
thing wrong with it, read from the left.
-/
namespace RowFilter.Text

/-- Why a text is no unsigned 64-bit number. -/
inductive UnsignedError
  | empty
  | invalidDigit
  | tooLarge
  deriving DecidableEq, Repr

def UnsignedError.message : UnsignedError → String
  | .empty => "cannot parse integer from empty string"
  | .invalidDigit => "invalid digit found in string"
  | .tooLarge => "number too large to fit in target type"

/-- Goes on reading digits after those that make `n`. -/
def readUnsignedFrom (n : Nat) : List Char → Except UnsignedError Nat
  | [] => .ok n
  | c :: cs =>
    if c.isDigit then
      let m := 10 * n + Decimal.digitValue c
      if m < 0x10000000000000000 then readUnsignedFrom m cs else .error .tooLarge
    else .error .invalidDigit

/-- The number a text writes. A plus sign needs a digit after it. -/
def readUnsigned (s : String) : Except UnsignedError Nat :=
  match s.toList with
  | [] => .error .empty
  | ['+'] => .error .invalidDigit
  | '+' :: cs => readUnsignedFrom 0 cs
  | cs => readUnsignedFrom 0 cs

end RowFilter.Text
