import RowFilter.Operator
/-!
# Columns

What the library knows of a column: its id in filters, its name in the database,
the type of its values and how they are stored. `kind` and `cardinality` decide
which operators the column takes.
-/
namespace RowFilter

/-- The type of a column's values. -/
inductive SemanticType
  | boolean | number | datetime | text | structured
  deriving DecidableEq, Repr

/-- How a column stores its values. -/
inductive Storage
  | plain | json
  deriving DecidableEq, Repr

/-- What a cell is compared as. A structured cell is a JSON object with an `id` and
a `title`. -/
inductive CellKind
  | boolean | number | datetime | text | structured
  deriving DecidableEq, Repr

/-- Whether a cell holds one value or a list of them. -/
inductive Cardinality
  | single | multi
  deriving DecidableEq, Repr

structure ColumnOptions where
  /-- The name of the zone of a datetime column. -/
  timeZone : Option String := none
  /-- Whether values may name the current user by a placeholder. -/
  actorReference : Bool := false
  deriving DecidableEq, Repr

structure Column where
  id : String
  dbName : String
  semanticType : SemanticType
  storage : Storage := .plain
  isMultiValued : Bool := false
  options : ColumnOptions := {}
  deriving DecidableEq, Repr

namespace SemanticType

def all : List SemanticType := [boolean, number, datetime, text, structured]

def name : SemanticType → String
  | boolean => "boolean"
  | number => "number"
  | datetime => "datetime"
  | text => "text"
  | structured => "structured"

end SemanticType

namespace Storage

def all : List Storage := [plain, json]

def name : Storage → String
  | plain => "plain"
  | json => "json"

end Storage

namespace Column

/-- Text stored as JSON is structured. -/
def kind (c : Column) : CellKind :=
  match c.semanticType, c.storage with
  | .boolean, _ => .boolean
  | .number, _ => .number
  | .datetime, _ => .datetime
  | .text, .plain => .text
  | .text, .json => .structured
  | .structured, _ => .structured

def cardinality (c : Column) : Cardinality := if c.isMultiValued then .multi else .single

end Column

/-! ## Schemas -/

/-- The columns a filter may name, by id. -/
abbrev Schema := String → Option Column

namespace Schema

def empty : Schema := fun _ => none

def insert (s : Schema) (c : Column) : Schema := fun id => if id = c.id then some c else s id

@[simp] theorem insert_apply (s : Schema) (c : Column) (id : String) :
    s.insert c id = if id = c.id then some c else s id := rfl

/-- Of several columns with one id the last counts. -/
def ofList (columns : List Column) : Schema := columns.foldl insert empty

end Schema

/-! ## Legal operators -/

/-- The operators a column of a kind and a cardinality takes. -/
def legalOperators : CellKind → Cardinality → List Operator
  | .boolean, _ => [.equals, .notEquals, .isEmpty, .isNotEmpty]
  | .number, _ =>
    [.equals, .notEquals, .greaterThan, .greaterOrEqual, .lessThan, .lessOrEqual, .isEmpty,
      .isNotEmpty]
  | .datetime, _ =>
    [.equals, .notEquals, .within, .greaterThan, .greaterOrEqual, .lessThan, .lessOrEqual,
      .before, .after, .onOrBefore, .onOrAfter, .isEmpty, .isNotEmpty]
  | .text, .single | .structured, .single =>
    [.equals, .notEquals, .contains, .notContains, .anyOf, .noneOf, .isEmpty, .isNotEmpty]
  | .text, .multi | .structured, .multi =>
    [.equals, .notEquals, .contains, .notContains, .anyOf, .noneOf, .allOf, .exactly, .isEmpty,
      .isNotEmpty]

def Column.legalOperators (c : Column) : List Operator :=
  RowFilter.legalOperators c.kind c.cardinality

end RowFilter
