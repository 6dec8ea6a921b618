import RowFilter.Json.Basic
import RowFilter.Number.Shortest
/-!
# Writing JSON text

`Json.text` writes a document without any space, its fields in order.
-/
namespace RowFilter

/-! ## Numbers -/

/-- A finite number in its shortest decimal: positional for exponents from -5 to
15, always with a fraction, and else with an exponent after `e` and its sign. -/
def Binary64.textChars (x : Binary64) : List Char :=
  let sign := if x.isNegative then ['-'] else []
  if x.isZero then sign ++ ['0', '.', '0']
  else
    let d := x.shortest
    let ds := Nat.toDigits 10 d.digits
    let e : Int := ds.length - 1 + d.exponent
    if -5 ≤ e ∧ e < 0 then
      sign ++ ['0', '.'] ++ List.replicate (-e - 1).toNat '0' ++ ds
    else if 0 ≤ e ∧ e < 16 then
      let point := e.toNat + 1
      let fraction := ds.drop point
      sign ++ ds.take point ++ List.replicate (point - ds.length) '0' ++ ['.']
        ++ (if fraction.isEmpty then ['0'] else fraction)
    else
      let fraction := ds.drop 1
      sign ++ ds.take 1 ++ (if fraction.isEmpty then [] else '.' :: fraction)
        ++ ['e', if 0 ≤ e then '+' else '-'] ++ Nat.toDigits 10 e.natAbs

def Binary64.text (x : Binary64) : String := String.ofList x.textChars

namespace Json

def intChars (i : Int) : List Char :=
  if i < 0 then '-' :: Nat.toDigits 10 i.natAbs else Nat.toDigits 10 i.natAbs

/-! ## Strings -/

def hexDigit (n : Nat) : Char := (Nat.toDigits 16 n).getLastD '0'

/-- A character as it stands between quotes. -/
def escapeChar (c : Char) : List Char :=
  match c with
  | '"' => ['\\', '"']
  | '\\' => ['\\', '\\']
  | '\x08' => ['\\', 'b']
  | '\x0c' => ['\\', 'f']
  | '\n' => ['\\', 'n']
  | '\r' => ['\\', 'r']
  | '\t' => ['\\', 't']
  | c =>
    if c.toNat < 0x20 then ['\\', 'u', '0', '0', hexDigit (c.toNat / 16), hexDigit (c.toNat % 16)]
    else [c]

def stringChars (s : String) : List Char := '"' :: (s.toList.flatMap escapeChar ++ ['"'])

/-! ## Documents -/

mutual

/-- The characters of a document. -/
def chars : Json → List Char
  | .null => ['n', 'u', 'l', 'l']
  | .bool true => ['t', 'r', 'u', 'e']
  | .bool false => ['f', 'a', 'l', 's', 'e']
  | .int i => intChars i
  | .float x => x.textChars
  | .str s => stringChars s
  | .arr items => '[' :: itemsChars items
  | .obj fields => '\x7b' :: fieldsChars fields

/-- Items and the bracket after them. -/
def itemsChars : List Json → List Char
  | [] => [']']
  | [j] => chars j ++ [']']
  | j :: items => chars j ++ ',' :: itemsChars items

/-- Fields and the brace after them. -/
def fieldsChars : List (String × Json) → List Char
  | [] => ['\x7d']
  | [(k, v)] => stringChars k ++ ':' :: (chars v ++ ['\x7d'])
  | (k, v) :: fields => stringChars k ++ ':' :: (chars v ++ ',' :: fieldsChars fields)

end

/-- The text of a document. -/
def text (j : Json) : String := String.ofList j.chars

end Json

end RowFilter
