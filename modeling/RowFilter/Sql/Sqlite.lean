import RowFilter.Criterion
import RowFilter.Sql.Predicate
/-!
# Predicates for SQLite

Lists are JSON texts, searched element by element. An id is compared as text, since one that
is a number comes back as one.
-/
namespace RowFilter.Sql.Sqlite

/-- What texts are compared with: the value itself, or its id as text. -/
def identity (kind : CellKind) (t : Term) : Term :=
  match kind with
  | .structured => .asText (.field t .id)
  | _ => t

/-- What texts are searched in: the value itself, or its title. -/
def searched (kind : CellKind) (t : Term) : Term :=
  match kind with
  | .structured => .field t .title
  | _ => t

/-- A test of the value of a cell or of an element. -/
def valueTest (kind : CellKind) (t : Term) : ValueTest → Predicate
  | .isTrue => .isTrue t
  | .number c x => .compare c t (.float x)
  | .during start stop => .between t (.timestamp start) (.timestamp stop)
  | .before start => .compare .lt t (.timestamp start)
  | .onOrAfter start => .compare .ge t (.timestamp start)
  | .after stop => .compare .gt t (.timestamp stop)
  | .onOrBefore stop => .compare .le t (.timestamp stop)
  | .equals s => .compare .eq (identity kind t) (.text s)
  | .contains s => .like (searched kind t) (Text.Like.containsPattern s)
  | .oneOf ss => .inList (identity kind t) ss

/-- A test that some element of a list passes. A truth value is told by its JSON type. -/
def listTest (kind : CellKind) (t : Term) : ValueTest → Predicate
  | .isTrue => .someElement .each t .elementIsTrue
  | test => .someElement .each t (valueTest kind .element test)

/-- The elements are the texts and no others, for texts that are distinct. -/
def sameElements (kind : CellKind) (t : Term) (ss : List String) : Predicate :=
  .both (.countsAll (identity kind .element) t ss)
    (.noElement .each t (.outsideList (identity kind .element) ss))

/-- The predicate of a criterion on a column. Only text has an empty value besides null. -/
def predicate (kind : CellKind) (t : Term) {n : Cardinality} : Criterion n → Predicate
  | .passes test =>
    match n with
    | .single => valueTest kind t test
    | .multi => listTest kind t test
  | .fails test =>
    match n with
    | .single => (valueTest kind t test).complement
    | .multi => (listTest kind t test).complement
  | .isEmpty =>
    match n with
    | .single => if kind = .text then .isBlank t else .isNull t
    | .multi => .hasNoElements t
  | .isNotEmpty =>
    match n with
    | .single => if kind = .text then .isNotBlank t else .isNotNull t
    | .multi => .hasElements t
  | .hasAll ss => .countsAll (identity kind .element) t (Json.distinct ss)
  | .hasExactly ss => sameElements kind t (Json.distinct ss)

end RowFilter.Sql.Sqlite
