import RowFilter.Filter.Prune
import RowFilter.Sql.Postgres
import RowFilter.Sql.Query
import RowFilter.Sql.Sqlite
/-!
# Compiling filters

A compiler turns a filter into a predicate of its dialect. Every condition is checked against
the schema; the first that cannot be compiled decides the error, and nothing is compiled
then.

* `Target.predicate`: the predicate of an operator and a value on a column.
* `Compiler.plan`: the tree of the predicates of a filter's conditions.
* `Compiler.predicate`: the text of that tree and its parameters.
* `Compiler.addTo`: the same appended to a query.
-/
namespace RowFilter

open Sql

/-! ## Columns as targets -/

/-- The zone a column names, or the default. -/
def Column.zone (c : Column) (zones : Zone.Database) (default : Zone) : Except FilterError Zone :=
  match c.options.timeZone with
  | none => .ok default
  | some name =>
    match zones (Text.trim name) with
    | some z => .ok z
    | none => .error (.unknownZone c.id name)

/-- A column to compile conditions for. -/
structure Target where
  dialect : Dialect
  column : Column
  /-- The name the table goes by in the query. -/
  table : Option String
  clock : Clock

namespace Target

def term (t : Target) : Term := .column t.table t.column.dbName

/-- The name that messages have for the compiler of such columns. -/
def compilerName (t : Target) : String :=
  let kind := match t.column.kind with
    | .boolean => "boolean"
    | .number => "number"
    | .datetime => "datetime"
    | .text => "text"
    | .structured => "structured"
  let brackets := match t.column.cardinality with
    | .single => ""
    | .multi => "[]"
  t.dialect.name ++ "." ++ kind ++ brackets

/-- The predicate of a criterion. -/
def ofCriterion (t : Target) {n : Cardinality} (q : Criterion n) : Predicate :=
  match t.dialect with
  | .postgres => Postgres.predicate t.column.kind t.term q
  | .sqlite => Sqlite.predicate t.column.kind t.term q

/-- The predicate of an operator and a value, whether or not the operator is legal for the
column. -/
def predicate (t : Target) (op : Operator) (v : Json) : Except FilterError Predicate :=
  match Criterion.read? t.column.kind t.column.cardinality ⟨t.column.id, op, t.clock⟩ v with
  | none => .error (.unsupported t.column.id op t.compilerName)
  | some q => q.map t.ofCriterion

/-- Binds the operands of an operator and gives its text. -/
def apply (t : Target) (ps : Params) (op : Operator) (v : Json) :
    Except FilterError (String × Params) :=
  (t.predicate op v).map fun p => ps.add (p.template t.dialect)

end Target

/-! ## Trees of predicates -/

def Conjunction.sql : Conjunction → String
  | .and => " AND "
  | .or => " OR "

/-- The predicates of the conditions of a filter, joined as the conditions are. -/
abbrev Plan := Tree Predicate

namespace Plan

mutual

/-- The plan as it stands in SQL, every group in parentheses. -/
def template (d : Dialect) : Plan → Template
  | .leaf p => p.template d
  | .group c ts => Template.parens (Template.join c.sql (templates d ts))

def templates (d : Dialect) : List Plan → List Template
  | [] => []
  | t :: ts => template d t :: templates d ts

end

end Plan

/-! ## Compilers -/

structure Compiler where
  dialect : Dialect
  /-- The zones that columns may name. -/
  zones : Zone.Database
  /-- The zone of datetime columns that name none. -/
  defaultZone : Zone := .utc
  /-- The text that stands for the current user in values. -/
  actorPlaceholder : String := "me"
  table : Option String := none

/-- Who asks and when. -/
structure Context where
  actor : Option String
  now : Instant

/-- A predicate with the parameters its placeholders refer to. -/
structure CompiledPredicate where
  sql : String
  params : Params

namespace Compiler

/-- A column as a target. Only a datetime column needs its zone. -/
def target (c : Compiler) (now : Instant) (column : Column) : Except FilterError Target := do
  let zone ←
    if column.kind = .datetime then column.zone c.zones c.defaultZone else .ok c.defaultZone
  return ⟨c.dialect, column, c.table, ⟨zone, now⟩⟩

/-- The predicate of a condition. A date filter is looked at before the zone of its column. -/
def condition (c : Compiler) (schema : Schema) (now : Instant) (q : Condition) :
    Except FilterError Predicate := do
  match schema q.columnId with
  | none => .error (.unknownColumn q.columnId)
  | some column =>
    let op ← q.resolve column
    if column.kind = .datetime ∧ op.takesDateFilter then
      let site : Criterion.Site := ⟨column.id, op, ⟨c.defaultZone, now⟩⟩
      let _ ← site.dateFilter q.value
    let t ← c.target now column
    t.predicate op q.value

/-- The plan of a filter, or none if it has no condition left to check. -/
def plan (c : Compiler) (schema : Schema) (ctx : Context) (f : Filter) :
    Except FilterError (Option Plan) := do
  match ← f.prepare schema c.actorPlaceholder ctx.actor with
  | none => return none
  | some f => (Tree.traverse (c.condition schema ctx.now) f).map some

/-- The predicate of a filter, numbered after `offset` parameters. -/
def predicate (c : Compiler) (schema : Schema) (ctx : Context) (offset : Nat) (f : Filter) :
    Except FilterError (Option CompiledPredicate) :=
  (c.plan schema ctx f).map fun plan => plan.map fun p =>
    let (sql, params) := (Params.startingAfter c.dialect offset).add (p.template c.dialect)
    ⟨sql, params⟩

/-- Starts a query in the compiler's dialect. -/
def query (c : Compiler) (select : String) : Query := .new c.dialect select

/-- Appends a filter to a query of the same dialect. A filter that checks nothing adds
nothing. -/
def addTo (c : Compiler) (q : Query) (schema : Schema) (ctx : Context) (f : Filter) :
    Except FilterError Query :=
  if q.dialect ≠ c.dialect then .error (.dialectMismatch c.dialect q.dialect)
  else (c.predicate schema ctx q.params.length f).map fun p =>
    match p with
    | none => q
    | some p => q.merge p.sql p.params.values

end Compiler

end RowFilter
