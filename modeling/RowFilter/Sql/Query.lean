import RowFilter.Sql.Params
/-!
# Queries

A query under construction: a SELECT text, the predicates of its WHERE clause and the values
bound so far. Each step appends and changes nothing that stands there already.
-/
namespace RowFilter.Sql

structure Query where
  dialect : Dialect
  select : String
  predicates : List String
  params : List Value
  deriving Repr

/-- A finished query with its parameters in the order of their placeholders. -/
structure BuiltQuery where
  dialect : Dialect
  sql : String
  params : List Value
  deriving Repr

namespace Query

def new (d : Dialect) (select : String) : Query := ⟨d, select, [], []⟩

/-- Binds a value and gives its placeholder. -/
def bind (q : Query) (v : Value) : String × Query :=
  (q.dialect.placeholder (q.params.length + 1), { q with params := q.params ++ [v] })

/-- Appends a predicate that is written with placeholders bound before. -/
def pushPredicate (q : Query) (sql : String) : Query :=
  { q with predicates := q.predicates ++ [sql] }

/-- Appends a predicate and the values it binds. -/
def merge (q : Query) (sql : String) (vs : List Value) : Query :=
  { q with predicates := q.predicates ++ [sql], params := q.params ++ vs }

/-- All predicates joined by AND, if there are any. -/
def whereClause? (q : Query) : Option String :=
  if q.predicates.isEmpty then none else some (String.intercalate " AND " q.predicates)

def build (q : Query) : BuiltQuery :=
  let sql := match q.whereClause? with
    | some clause => q.select ++ " WHERE " ++ clause
    | none => q.select
  ⟨q.dialect, sql, q.params⟩

end Query

/-- The parameters as SQLite stores them. -/
def BuiltQuery.stored (q : BuiltQuery) : List Stored := q.params.map Value.stored

end RowFilter.Sql
