/-!
# Blank characters

The characters with the Unicode property White_Space, and what the library does
with them: cutting them off both ends of a text, and splitting a text at them.
-/
namespace RowFilter.Text

/-- The 25 characters with the Unicode property White_Space. -/
def isBlank (c : Char) : Bool :=
  let n := c.toNat
  (0x09 ≤ n && n ≤ 0x0D) || n = 0x20 || n = 0x85 || n = 0xA0 || n = 0x1680
    || (0x2000 ≤ n && n ≤ 0x200A) || n = 0x2028 || n = 0x2029 || n = 0x202F || n = 0x205F
    || n = 0x3000

/-- Drops the blanks a list of characters begins with. -/
def skipBlanks (cs : List Char) : List Char := cs.dropWhile isBlank

/-- Drops the blanks at both ends of a list of characters. -/
def trimChars (cs : List Char) : List Char := (skipBlanks (skipBlanks cs).reverse).reverse

/-- Drops the blanks at both ends of a text. -/
def trim (s : String) : String := String.ofList (trimChars s.toList)

/-- The runs between blanks of a list of characters; one is empty where a blank is first,
last or next to another. -/
def runs : List Char → List (List Char)
  | [] => [[]]
  | c :: cs =>
    if isBlank c then [] :: runs cs
    else
      match runs cs with
      | [] => [[c]]
      | run :: rest => (c :: run) :: rest

/-- The maximal runs of non-blank characters of a text, in order. -/
def words (s : String) : List String :=
  ((runs s.toList).filter fun run => !run.isEmpty).map String.ofList

end RowFilter.Text
