import RowFilter.Column
import RowFilter.Comparison
import RowFilter.Operand
/-!
# Criteria

What a condition requires of a cell, with its operand read and its dates resolved. A
criterion says the same in every dialect: on a cell with one value it is about that value,
on a cell with a list about some element of it.

* `Criterion.read?`: the criterion of an operator and a value, or none if the kind of column
  has no use for the operator.
-/
namespace RowFilter

/-- A test of one value. -/
inductive ValueTest
  | isTrue
  | number (c : Comparison) (x : Binary64)
  /-- The value is in the range, both ends included. -/
  | during (start stop : Instant)
  | before (start : Instant)
  | onOrAfter (start : Instant)
  | after (stop : Instant)
  | onOrBefore (stop : Instant)
  | equals (s : String)
  | contains (s : String)
  | oneOf (ss : List String)
  deriving Repr

inductive Criterion : Cardinality → Type
  /-- The value passes, or some element of the list does. -/
  | passes {n : Cardinality} (t : ValueTest) : Criterion n
  | fails {n : Cardinality} (t : ValueTest) : Criterion n
  | isEmpty {n : Cardinality} : Criterion n
  | isNotEmpty {n : Cardinality} : Criterion n
  | hasAll (ss : List String) : Criterion .multi
  /-- The elements are these texts and no others. -/
  | hasExactly (ss : List String) : Criterion .multi

/-- The zone and the instant that date filters are resolved in. -/
structure Clock where
  zone : Zone
  now : Instant

namespace Criterion

variable {n : Cardinality}

/-- What is needed to read a value: where it belongs and when it is. -/
structure Site where
  column : String
  op : Operator
  clock : Clock

namespace Site

def operand {α : Type} (s : Site) (x : Except ValueFault α) : Except FilterError α :=
  x.mapError (.malformedValue s.column s.op)

/-- A date filter whose mode suits the operator: a window for `within`, a day for the
others. -/
def dateFilter (s : Site) (v : Json) : Except FilterError DateFilter := do
  let f ← s.operand ((DateFilter.decode v).mapError .notADateFilter)
  if (if s.op = .within then f.mode.isRolling else f.mode.isDay) then .ok f
  else .error (.invalidDateMode s.column s.op f.mode)

def dateRange (s : Site) (v : Json) : Except FilterError DateRange := do
  let f ← s.dateFilter v
  (f.resolve s.clock.zone s.clock.now).mapError (.noDateRange s.column)

end Site

def readBoolean? (op : Operator) (v : Json) : Option (Criterion n) :=
  let ofTruth (b : Bool) : Criterion n := if b then passes .isTrue else fails .isTrue
  match op.canonical with
  | .equals => some (ofTruth v.truthy)
  | .notEquals => some (ofTruth !v.truthy)
  | .isEmpty => some (fails .isTrue)
  | .isNotEmpty => some (passes .isTrue)
  | _ => none

def readNumber? (s : Site) (v : Json) : Option (Except FilterError (Criterion n)) :=
  let compare (c : Comparison) := (s.operand v.numberOperand).map fun x => passes (.number c x)
  match s.op.canonical with
  | .equals => some (compare .eq)
  | .notEquals => some ((s.operand v.numberOperand).map fun x => fails (.number .eq x))
  | .greaterThan => some (compare .gt)
  | .greaterOrEqual => some (compare .ge)
  | .lessThan => some (compare .lt)
  | .lessOrEqual => some (compare .le)
  | .isEmpty => some (.ok isEmpty)
  | .isNotEmpty => some (.ok isNotEmpty)
  | _ => none

def readDatetime? (s : Site) (v : Json) : Option (Except FilterError (Criterion n)) :=
  let range (f : Instant → Instant → Criterion n) :=
    (s.dateRange v).map fun r => f r.start.instant r.stop.instant
  match s.op.canonical with
  | .equals | .within => some (range fun start stop => passes (.during start stop))
  | .notEquals => some (range fun start stop => fails (.during start stop))
  | .greaterThan => some (range fun _ stop => passes (.after stop))
  | .greaterOrEqual => some (range fun start _ => passes (.onOrAfter start))
  | .lessThan => some (range fun start _ => passes (.before start))
  | .lessOrEqual => some (range fun _ stop => passes (.onOrBefore stop))
  | .isEmpty => some (.ok isEmpty)
  | .isNotEmpty => some (.ok isNotEmpty)
  | _ => none

/-- The operators of text that every cardinality has. -/
def readText? (s : Site) (v : Json) : Option (Except FilterError (Criterion n)) :=
  match s.op.canonical with
  | .equals => some ((s.operand v.textOperand).map fun x => passes (.equals x))
  | .notEquals => some ((s.operand v.textOperand).map fun x => fails (.equals x))
  | .contains => some ((s.operand v.textOperand).map fun x => passes (.contains x))
  | .notContains => some ((s.operand v.textOperand).map fun x => fails (.contains x))
  | .anyOf => some ((s.operand v.textListOperand).map fun xs => passes (.oneOf xs))
  | .noneOf => some ((s.operand v.textListOperand).map fun xs => fails (.oneOf xs))
  | .isEmpty => some (.ok isEmpty)
  | .isNotEmpty => some (.ok isNotEmpty)
  | _ => none

/-- The operators of lists of text. -/
def readTexts? (s : Site) (v : Json) : Option (Except FilterError (Criterion .multi)) :=
  match s.op.canonical with
  | .allOf => some ((s.operand v.textListOperand).map hasAll)
  | .exactly => some ((s.operand v.textListOperand).map hasExactly)
  | _ => readText? s v

/-- The criterion of an operator and a value on a kind of cell. -/
def read? (kind : CellKind) (n : Cardinality) (s : Site) (v : Json) :
    Option (Except FilterError (Criterion n)) :=
  match kind, n with
  | .boolean, _ => (readBoolean? s.op v).map .ok
  | .number, _ => readNumber? s v
  | .datetime, _ => readDatetime? s v
  | .text, .single | .structured, .single => readText? s v
  | .text, .multi | .structured, .multi => readTexts? s v

end Criterion

end RowFilter
