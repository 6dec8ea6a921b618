import RowFilter.Filter.Actor
import RowFilter.Filter.Resolve
/-!
# Preparing filters

Before a filter is compiled the actor is named in its conditions, and conditions without a
value are dropped, and with them the groups that have nothing left.
-/
namespace RowFilter

namespace Condition

/-- Whether a condition asks only for the presence of a value. -/
def asksPresence (c : Condition) (column : Column) : Bool :=
  match c.operator? column.kind with
  | some op => op.isPresenceCheck
  | none => false

/-- Whether a value says nothing to compare with. On a boolean column null says false. -/
def lacksValue (c : Condition) (column : Column) : Bool :=
  match c.value with
  | .null => column.kind ≠ .boolean
  | .arr items => items.isEmpty
  | _ => false

/-- Whether a condition is to be dropped: it needs a value and has none. -/
def isVacuous (c : Condition) (column : Column) : Bool :=
  !c.asksPresence column && c.lacksValue column

/-- The condition to compile, or none if it is to be dropped. One on an unknown column is
kept as it is. -/
def prepare (schema : Schema) (placeholder : String) (actor : Option String) (c : Condition) :
    Except FilterError (Option Condition) :=
  match schema c.columnId with
  | none => .ok (some c)
  | some column => do
    let c ← c.withActor column placeholder actor
    return if c.isVacuous column then none else some c

end Condition

/-- The filter to compile, or none if nothing of it is left. -/
def Filter.prepare (schema : Schema) (placeholder : String) (actor : Option String) (f : Filter) :
    Except FilterError (Option Filter) :=
  Tree.prune (Condition.prepare schema placeholder actor) f

end RowFilter
