/-!
# Decimals and their text

A `Decimal` is `digits · 10 ^ exponent`. This module reads the pieces that
decimal texts are made of: runs of digits, a fraction and an exponent.

* `Decimal.ofParts`: the decimal of all digits.
* `Decimal.ofPartsInWord`: the decimal of as many digits as a word can hold.
-/
namespace RowFilter

/-- The value `digits · 10 ^ exponent`. -/
structure Decimal where
  digits : Nat
  exponent : Int
  deriving DecidableEq, Repr

namespace Decimal

/-- Drops zeros from the end of the digits, at most `fuel` of them. -/
def strip : Nat → Decimal → Decimal
  | 0, d => d
  | fuel + 1, d =>
    if d.digits % 10 = 0 ∧ d.digits ≠ 0 then strip fuel ⟨d.digits / 10, d.exponent + 1⟩ else d

/-! ## Reading -/

/-- The digits a list of characters begins with, and what follows them. -/
def takeDigits (cs : List Char) : List Char × List Char :=
  (cs.takeWhile Char.isDigit, cs.dropWhile Char.isDigit)

/-- Nothing is lost: the digits and the rest make up the list. -/
theorem takeDigits_append (cs : List Char) : (takeDigits cs).1 ++ (takeDigits cs).2 = cs :=
  List.takeWhile_append_dropWhile

theorem isDigit_of_mem_takeDigits {cs : List Char} {c : Char} (h : c ∈ (takeDigits cs).1) :
    c.isDigit = true :=
  List.all_eq_true.1 List.all_takeWhile c h

/-- The digits end where the rest does not go on with one. -/
theorem takeDigits_append_of_isDigit {ds rest : List Char} (hd : ∀ c ∈ ds, c.isDigit = true)
    (hr : ∀ c ∈ rest.head?, c.isDigit = false) : takeDigits (ds ++ rest) = (ds, rest) := by
  induction ds with
  | nil =>
    cases rest with
    | nil => rfl
    | cons c rest =>
      have hc : c.isDigit = false := hr c rfl
      simp [takeDigits, hc]
  | cons d ds ih =>
    have hds := ih fun c hc => hd c (List.mem_cons_of_mem d hc)
    have hd0 : d.isDigit = true := hd d List.mem_cons_self
    simp only [takeDigits, Prod.mk.injEq] at hds ⊢
    simp [hd0, hds]

def digitValue (c : Char) : Nat := c.toNat - '0'.toNat

/-- The number a run of digits writes in base ten. -/
def digitsValue (ds : List Char) : Nat := ds.foldl (fun n c => 10 * n + digitValue c) 0

/-- Takes an optional sign; the flag says whether it was a minus. -/
def takeSign : List Char → Bool × List Char
  | '-' :: cs => (true, cs)
  | '+' :: cs => (false, cs)
  | cs => (false, cs)

/-- Reads an exponent if there is one: `e` or `E`, an optional sign, digits. -/
def readExponent? : List Char → Option (Option Int × List Char)
  | c :: cs =>
    if c = 'e' ∨ c = 'E' then
      let (negative, cs) := takeSign cs
      match takeDigits cs with
      | ([], _) => none
      | (ds, cs) =>
        let e : Int := digitsValue ds
        some (some (if negative then -e else e), cs)
    else some (none, c :: cs)
  | [] => some (none, [])

/-- The decimal written by the digits before the point, those after it, and the
exponent. -/
def ofParts (whole fraction : List Char) (exponent : Int) : Decimal :=
  ⟨digitsValue (whole ++ fraction), exponent - fraction.length⟩

/-! ## Digits in a word -/

/-- What a word of 64 bits is less than. -/
def wordSize : Nat := 0x10000000000000000

/-- Appends digits to a number up to the first with which it would not fit into a word, and says
how many are left from there on. -/
def fillWord (n : Nat) : List Char → Nat × Nat
  | [] => (n, 0)
  | c :: cs =>
    if 10 * n + digitValue c < wordSize then fillWord (10 * n + digitValue c) cs
    else (n, cs.length + 1)

/-- The decimal of the digits that fit into a word. Those before the point that do not fit still
count for the exponent; those after it are as if they were not there. -/
def ofPartsInWord (whole fraction : List Char) (exponent : Int) : Decimal :=
  let (n, left) := fillWord 0 whole
  let (digits, dropped) := fillWord n fraction
  ⟨digits, exponent + left - (fraction.length - dropped : Nat)⟩

end Decimal

end RowFilter
