import RowFilter.Calendar.Instant
import RowFilter.Json.Writer
/-!
# Bound values

The values that stand behind the placeholders of a query, and the form in which SQLite
holds them.
-/
namespace RowFilter.Sql

inductive Value
  | text (s : String)
  | float (x : Binary64)
  | int (i : Int)
  | bool (b : Bool)
  | timestamp (t : Instant)
  | textArray (ss : List String)
  | json (j : Json)
  deriving Repr

/-- A value as SQLite stores it. -/
inductive Stored
  | null
  | integer (i : Int)
  | real (x : Binary64)
  | text (s : String)
  deriving DecidableEq, Repr

namespace Value

/-- What SQLite stores for a value: no NaN, numbers for truth values, and text for all it has
no type for. -/
def stored : Value → Stored
  | text s => .text s
  | float x => if x.isNaN then .null else .real x
  | int i => .integer i
  | bool b => .integer (if b then 1 else 0)
  | timestamp t => .text t.millisText
  | textArray ss => .text (Json.arr (ss.map Json.str)).text
  | json j => .text j.text

end Value

end RowFilter.Sql
