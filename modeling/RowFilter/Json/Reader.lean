import RowFilter.Json.Basic
import RowFilter.Number.Stepwise
/-!
# Reading JSON text

A reader takes what it reads from the front of a list of characters and hands
back the rest. The grammar is that of RFC 8259 and nothing beyond it; a number
too large for a binary64 is refused, and so are arrays and objects nested more
than `maxNesting` deep.

* `Json.read?`: the document a text begins with, as written, and what follows it.
-/
namespace RowFilter.Json

/-- The greatest number of arrays and objects around a place in a document. -/
def maxNesting : Nat := 127

abbrev Reader (α : Type) := List Char → Option (α × List Char)

/-! ## Space and words -/

def isSpace (c : Char) : Bool := c = ' ' || c = '\t' || c = '\n' || c = '\r'

def skipSpace (cs : List Char) : List Char := cs.dropWhile isSpace

/-- What follows `word`, if the characters begin with it. -/
def dropWord? : List Char → List Char → Option (List Char)
  | [], cs => some cs
  | w :: word, c :: cs => if w = c then dropWord? word cs else none
  | _ :: _, [] => none

/-! ## Strings -/

/-- The character a one-letter escape stands for. -/
def escaped? (c : Char) : Option Char :=
  match c with
  | '"' => some '"'
  | '\\' => some '\\'
  | '/' => some '/'
  | 'b' => some '\x08'
  | 'f' => some '\x0c'
  | 'n' => some '\n'
  | 'r' => some '\r'
  | 't' => some '\t'
  | _ => none

def hexValue? (c : Char) : Option Nat :=
  if '0' ≤ c ∧ c ≤ '9' then some (c.toNat - '0'.toNat)
  else if 'a' ≤ c ∧ c ≤ 'f' then some (c.toNat - 'a'.toNat + 10)
  else if 'A' ≤ c ∧ c ≤ 'F' then some (c.toNat - 'A'.toNat + 10)
  else none

/-- The number four hexadecimal digits write. -/
def hex4? (a b c d : Char) : Option Nat := do
  let a ← hexValue? a
  let b ← hexValue? b
  let c ← hexValue? c
  let d ← hexValue? d
  return ((a * 16 + b) * 16 + c) * 16 + d

def isHighSurrogate (n : Nat) : Bool := 0xD800 ≤ n && n < 0xDC00

def isLowSurrogate (n : Nat) : Bool := 0xDC00 ≤ n && n < 0xE000

/-- Reads a string after its opening quote, up to and with the closing one. A
surrogate escape counts only in a pair, high before low. -/
def readStringBody : Reader (List Char)
  | [] => none
  | '"' :: cs => some ([], cs)
  | '\\' :: 'u' :: a :: b :: c :: d :: cs => do
    let n ← hex4? a b c d
    if isLowSurrogate n then none
    else if isHighSurrogate n then
      match cs with
      | '\\' :: 'u' :: a :: b :: c :: d :: cs => do
        let m ← hex4? a b c d
        if isLowSurrogate m then
          let (s, cs) ← readStringBody cs
          return (Char.ofNat (0x10000 + (n - 0xD800) * 0x400 + (m - 0xDC00)) :: s, cs)
        else none
      | _ => none
    else
      let (s, cs) ← readStringBody cs
      return (Char.ofNat n :: s, cs)
  | '\\' :: e :: cs => do
    let c ← escaped? e
    let (s, cs) ← readStringBody cs
    return (c :: s, cs)
  | c :: cs =>
    if c = '\\' ∨ c.toNat < 0x20 then none
    else do
      let (s, cs) ← readStringBody cs
      return (c :: s, cs)

/-- Reads a string with both its quotes. -/
def readString : Reader String
  | '"' :: cs => do
    let (s, cs) ← readStringBody cs
    return (String.ofList s, cs)
  | _ => none

/-! ## Numbers -/

/-- The number with the given parts: an integer without fraction and exponent
that is in range and not minus zero stays an integer. Any other is read in steps, with as many
digits as fit into a word. -/
def ofParts? (negative : Bool) (whole : List Char) (fraction : Option (List Char))
    (exponent : Option Int) : Option Json :=
  let n := Decimal.digitsValue whole
  let i : Int := if negative then -n else n
  if fraction.isNone && exponent.isNone && inWordRange i && !(negative && n = 0) then
    some (.int i)
  else
    let x := Binary64.ofDecimalStepwise negative
      (Decimal.ofPartsInWord whole (fraction.getD []) (exponent.getD 0))
    if x.isFinite then some (.float x) else none

/-- Reads a fraction if there is one: a point and digits. -/
def readFraction? : Reader (Option (List Char))
  | '.' :: cs =>
    match Decimal.takeDigits cs with
    | ([], _) => none
    | (ds, cs) => some (some ds, cs)
  | cs => some (none, cs)

/-- Reads the digits before the point: no zero stands before another digit. -/
def readWhole? (cs : List Char) : Option (List Char × List Char) :=
  match Decimal.takeDigits cs with
  | ([], _) => none
  | ('0' :: _ :: _, _) => none
  | (ds, cs) => some (ds, cs)

/-- Takes a minus if there is one. -/
def takeMinus : List Char → Bool × List Char
  | '-' :: cs => (true, cs)
  | cs => (false, cs)

def readNumber (cs : List Char) : Option (Json × List Char) := do
  let (negative, cs) := takeMinus cs
  let (whole, cs) ← readWhole? cs
  let (fraction, cs) ← readFraction? cs
  let (exponent, cs) ← Decimal.readExponent? cs
  let j ← ofParts? negative whole fraction exponent
  return (j, cs)

/-! ## Documents -/

/-- Reads items between commas up to and with `close`, at most `fuel` of them. -/
def readItems {α : Type} (item : Reader α) (close : Char) : Nat → Reader (List α)
  | 0, _ => none
  | fuel + 1, cs => do
    let (a, cs) ← item (skipSpace cs)
    match skipSpace cs with
    | ',' :: cs => do
      let (as, cs) ← readItems item close fuel cs
      return (a :: as, cs)
    | c :: cs => if c = close then some ([a], cs) else none
    | [] => none

/-- Reads a possibly empty sequence of at most `limit` items after its opening
character. -/
def readSequence {α : Type} (item : Reader α) (close : Char) (limit : Nat) (cs : List Char) :
    Option (List α × List Char) :=
  match skipSpace cs with
  | [] => none
  | c :: rest => if c = close then some ([], rest) else readItems item close limit (c :: rest)

/-- Reads a field of an object: a string, a colon, a value. -/
def readField (value : Reader Json) (cs : List Char) : Option ((String × Json) × List Char) := do
  let (key, cs) ← readString cs
  match skipSpace cs with
  | ':' :: cs => do
    let (v, cs) ← value (skipSpace cs)
    return ((key, v), cs)
  | _ => none

/-- Reads a value that may nest `depth` more arrays and objects, none of more than
`limit` items. -/
def readValue (limit : Nat) : Nat → Reader Json
  | depth, cs =>
    match cs with
    | [] => none
    | '[' :: cs =>
      match depth with
      | 0 => none
      | depth + 1 =>
        (readSequence (readValue limit depth) ']' limit cs).map fun (js, cs) => (.arr js, cs)
    | '\x7b' :: cs =>
      match depth with
      | 0 => none
      | depth + 1 =>
        (readSequence (readField (readValue limit depth)) '\x7d' limit cs).map
          fun (fs, cs) => (.obj fs, cs)
    | '"' :: _ => (readString cs).map fun (s, cs) => (.str s, cs)
    | 'n' :: cs => (dropWord? ['u', 'l', 'l'] cs).map fun cs => (.null, cs)
    | 't' :: cs => (dropWord? ['r', 'u', 'e'] cs).map fun cs => (.bool true, cs)
    | 'f' :: cs => (dropWord? ['a', 'l', 's', 'e'] cs).map fun cs => (.bool false, cs)
    | _ => readNumber cs

/-- The document a text begins with, its fields as written, and what follows it.
No sequence has more items than the text has characters. -/
def read? (text : String) : Option (Json × List Char) :=
  let cs := text.toList
  readValue cs.length maxNesting (skipSpace cs)

/-- Whether nothing but space is left. -/
def isEnd (rest : List Char) : Bool := (skipSpace rest).isEmpty

end RowFilter.Json
