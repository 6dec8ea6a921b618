/-!
# Comparisons

The comparisons that criteria and predicates make, and the operators that write them down.
-/
namespace RowFilter

inductive Comparison
  | eq | lt | le | gt | ge
  deriving DecidableEq, Repr

/-- The operator of SQL. -/
def Comparison.sql : Comparison → String
  | eq => "="
  | lt => "<"
  | le => "<="
  | gt => ">"
  | ge => ">="

/-- The operator of the SQL/JSON path language, which doubles the sign of equality. -/
def Comparison.path : Comparison → String
  | eq => "=="
  | c => c.sql

end RowFilter
