import RowFilter.Text.Blank
/-!
# Operators

The closed set of operators a condition may name. Four of them are date words
for an ordering operator: `canonical` gives the operator they stand for.
-/
namespace RowFilter

inductive Operator
  | equals | notEquals | exactly | contains | notContains
  | greaterThan | greaterOrEqual | lessThan | lessOrEqual
  | anyOf | noneOf | allOf | within | isEmpty | isNotEmpty
  | before | after | onOrBefore | onOrAfter
  deriving DecidableEq, Repr

namespace Operator

/-- Every operator once. -/
def all : List Operator :=
  [equals, notEquals, exactly, contains, notContains, greaterThan, greaterOrEqual, lessThan,
    lessOrEqual, anyOf, noneOf, allOf, within, isEmpty, isNotEmpty, before, after, onOrBefore,
    onOrAfter]

theorem mem_all (op : Operator) : op ∈ all := by cases op <;> decide

def name : Operator → String
  | equals => "equals"
  | notEquals => "notEquals"
  | exactly => "exactly"
  | contains => "contains"
  | notContains => "notContains"
  | greaterThan => "greaterThan"
  | greaterOrEqual => "greaterOrEqual"
  | lessThan => "lessThan"
  | lessOrEqual => "lessOrEqual"
  | anyOf => "anyOf"
  | noneOf => "noneOf"
  | allOf => "allOf"
  | within => "within"
  | isEmpty => "isEmpty"
  | isNotEmpty => "isNotEmpty"
  | before => "before"
  | after => "after"
  | onOrBefore => "onOrBefore"
  | onOrAfter => "onOrAfter"

/-- The operator a text names, blanks around the name aside. -/
def ofName? (s : String) : Option Operator := all.find? fun op => op.name = Text.trim s

theorem ofName?_name (op : Operator) : ofName? op.name = some op := by cases op <;> rfl

/-- The message for a name that no operator has. -/
def unknownMessage (name : String) : String := "Unknown operator: " ++ Text.trim name

/-- The ordering operator a date word stands for; any other operator is itself. -/
def canonical : Operator → Operator
  | before => lessThan
  | after => greaterThan
  | onOrBefore => lessOrEqual
  | onOrAfter => greaterOrEqual
  | op => op

@[simp] theorem canonical_canonical (op : Operator) : op.canonical.canonical = op.canonical := by
  cases op <;> rfl

/-- Whether the operator asks only for the presence of a value and ignores its own. -/
def isPresenceCheck : Operator → Bool
  | isEmpty | isNotEmpty => true
  | _ => false

/-- Whether the operator's value is a date filter on a datetime column. -/
def takesDateFilter (op : Operator) : Bool :=
  match op.canonical with
  | equals | notEquals | within | greaterThan | greaterOrEqual | lessThan | lessOrEqual => true
  | _ => false

end Operator

end RowFilter
