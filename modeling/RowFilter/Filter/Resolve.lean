import RowFilter.Error
import RowFilter.Symbol
/-!
# Resolving operators

Which operator a condition means on a column, and whether the column takes it.
-/
namespace RowFilter.Condition

/-- The operator a condition means on a kind of cell, whether or not it is legal there. -/
def operator? (c : Condition) (kind : CellKind) : Option Operator :=
  if c.isSymbol then kind.symbolFamily.operator? c.operator else Operator.ofName? c.operator

/-- The operator a condition means, if the column takes it. -/
def resolve (c : Condition) (column : Column) : Except FilterError Operator :=
  match c.operator? column.kind with
  | none =>
    .error (.invalidOperator column.id c.operator
      (if c.isSymbol then .unknownSymbol else .unknownOperator))
  | some op =>
    if op ∈ column.legalOperators then .ok op
    else .error (.invalidOperator column.id c.operator (.notAllowed op))

end RowFilter.Condition
