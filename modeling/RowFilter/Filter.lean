import RowFilter.Tree
import RowFilter.Json.Basic
/-!
# Filters

A filter is a tree of conditions. A condition names a column and an operator and carries
the operator's value as the document that was given.
-/
namespace RowFilter

structure Condition where
  columnId : String
  /-- The name of the operator, or its symbol. -/
  operator : String
  value : Json
  isSymbol : Bool := false
  deriving Repr

abbrev Filter := Tree Condition

namespace Filter

/-- Inserts a text into an ascending list, unless it is there. -/
def insertSorted (s : String) : List String → List String
  | [] => [s]
  | t :: ts => if s < t then s :: t :: ts else if s = t then t :: ts else t :: insertSorted s ts

/-- The ids of the columns the filter names, ascending and each once. -/
def columnIds (f : Filter) : List String :=
  f.leaves.foldr (fun c ids => insertSorted c.columnId ids) []

end Filter

end RowFilter
