import RowFilter.Text.Blank
/-!
# SQL dialects

What the two dialects write differently in a predicate, as operations on texts.
-/
namespace RowFilter.Sql

inductive Dialect
  | postgres | sqlite
  deriving DecidableEq, Repr

namespace Dialect

def all : List Dialect := [postgres, sqlite]

def name : Dialect → String
  | postgres => "postgres"
  | sqlite => "sqlite"

/-- The dialect a text names, or the lower-case name that no dialect has. -/
def ofName (s : String) : Except String Dialect :=
  let name := (Text.trim s).map Char.toLower
  if name = "postgres" ∨ name = "postgresql" ∨ name = "pg" then .ok postgres
  else if name = "sqlite" ∨ name = "sqlite3" then .ok sqlite
  else .error name

/-- The message for a name that no dialect has. -/
def unknownMessage (name : String) : String := "Unknown SQL dialect: " ++ name

/-- The placeholder of the parameter with number `n`, counted from one. SQLite's
stand for the parameters in order. -/
def placeholder : Dialect → Nat → String
  | postgres, n => "$" ++ toString n
  | sqlite, _ => "?"

/-- The characters of a quoted identifier after its opening quote. -/
def quotedChars : List Char → List Char
  | [] => ['"']
  | c :: cs => if c = '"' then '"' :: '"' :: quotedChars cs else c :: quotedChars cs

/-- An identifier between double quotes, a double quote in it written twice. -/
def quoteIdentifier (name : String) : String := String.ofList ('"' :: quotedChars name.toList)

/-- The text of a field of a JSON object. -/
def fieldText (d : Dialect) (expr key : String) : String :=
  match d with
  | postgres => expr ++ "->>'" ++ key ++ "'"
  | sqlite => "json_extract(" ++ expr ++ ", '$." ++ key ++ "')"

/-- The number of elements of a JSON array. -/
def arrayLength (d : Dialect) (expr : String) : String :=
  match d with
  | postgres => "jsonb_array_length(" ++ expr ++ ")"
  | sqlite => "json_array_length(" ++ expr ++ ")"

/-- What stands between a text and its pattern. -/
def likeKeyword : Dialect → String
  | postgres => " ILIKE "
  | sqlite => " LIKE "

/-- What stands after a pattern in which a backslash escapes. -/
def likeEscape : String := " ESCAPE '\\'"

/-- A match with a pattern, whatever the case of letters. -/
def like (d : Dialect) (expr pattern : String) : String :=
  expr ++ d.likeKeyword ++ pattern ++ likeEscape

/-- What stands before a predicate to turn it into its complement. -/
def notTrueOpening : Dialect → String
  | postgres => "("
  | sqlite => "IFNULL(NOT ("

/-- What stands after a predicate to turn it into its complement. -/
def notTrueClosing : Dialect → String
  | postgres => ") IS NOT TRUE"
  | sqlite => "), 1)"

/-- The predicate that is true where another is false or unknown. -/
def notTrue (d : Dialect) (predicate : String) : String :=
  d.notTrueOpening ++ predicate ++ d.notTrueClosing

end Dialect

end RowFilter.Sql
