/-!
# Patterns of the LIKE operator

In a pattern `%` stands for any run of characters and `_` for any one character,
and a backslash makes the character after it stand for itself. `containsPattern`
is the pattern of the texts that contain a given text.
-/
namespace RowFilter.Text.Like

/-- The characters a backslash has to protect. -/
def isSpecial (c : Char) : Bool := c = '\\' || c = '%' || c = '_'

def escapeChars : List Char → List Char
  | [] => []
  | c :: cs => if isSpecial c then '\\' :: c :: escapeChars cs else c :: escapeChars cs

/-- The pattern that only the text itself matches. -/
def escape (s : String) : String := String.ofList (escapeChars s.toList)

/-- The pattern of the texts that contain `s`. -/
def containsPattern (s : String) : String := "%" ++ escape s ++ "%"

end RowFilter.Text.Like
