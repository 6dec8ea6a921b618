import RowFilter.Criterion
import RowFilter.Sql.Predicate
/-!
# Predicates for PostgreSQL

Lists are `jsonb` arrays. Numbers, dates and truth values are searched with a path, texts
with the operators on the members of an array.
-/
namespace RowFilter.Sql.Postgres

/-- What texts are compared with: the value itself, or its id. -/
def identity (kind : CellKind) (t : Term) : Term :=
  match kind with
  | .structured => .field t .id
  | _ => t

/-- What texts are searched in: the value itself, or its title. -/
def searched (kind : CellKind) (t : Term) : Term :=
  match kind with
  | .structured => .field t .title
  | _ => t

/-- The array of what texts are compared with. -/
def members (kind : CellKind) (t : Term) : Term :=
  match kind with
  | .structured => .ids t
  | _ => t

/-- A test of the value of a cell. -/
def cellTest (kind : CellKind) (t : Term) : ValueTest → Predicate
  | .isTrue => .isTrue t
  | .number c x => .compare c t (.float x)
  | .during start stop => .between t (.timestamp start) (.timestamp stop)
  | .before start => .compare .lt t (.timestamp start)
  | .onOrAfter start => .compare .ge t (.timestamp start)
  | .after stop => .compare .gt t (.timestamp stop)
  | .onOrBefore stop => .compare .le t (.timestamp stop)
  | .equals s => .compare .eq (identity kind t) (.text s)
  | .contains s => .like (searched kind t) (Text.Like.containsPattern s)
  | .oneOf ss => .equalsAny (identity kind t) ss

/-- A comparison of an element with the text of an instant. -/
def instantTest (c : Comparison) (name : PathVariable) (t : Instant) : PathTest :=
  ⟨c, name, .text t.millisText⟩

/-- A test that some element of an array passes. -/
def listTest (kind : CellKind) (t : Term) : ValueTest → Predicate
  | .isTrue => .pathIsTrue t
  | .number c x => .pathExists t [⟨c, .v, .float x⟩]
  | .during start stop => .pathExists t [instantTest .ge .start start, instantTest .le .stop stop]
  | .before start => .pathExists t [instantTest .lt .start start]
  | .onOrAfter start => .pathExists t [instantTest .ge .start start]
  | .after stop => .pathExists t [instantTest .gt .stop stop]
  | .onOrBefore stop => .pathExists t [instantTest .le .stop stop]
  | .equals s => .hasMember (members kind t) s
  | .contains s =>
    .someElement (if kind = .structured then .elements else .elementTexts) t
      (.like (searched kind .element) (Text.Like.containsPattern s))
  | .oneOf ss => .hasAnyMember (members kind t) ss

/-- The predicate of a criterion on a column. Only text has an empty value besides null. -/
def predicate (kind : CellKind) (t : Term) {n : Cardinality} : Criterion n → Predicate
  | .passes test =>
    match n with
    | .single => cellTest kind t test
    | .multi => listTest kind t test
  | .fails test =>
    match n with
    | .single => (cellTest kind t test).complement
    | .multi => (listTest kind t test).complement
  | .isEmpty =>
    match n with
    | .single => if kind = .text then .isBlank t else .isNull t
    | .multi => .hasNoElements t
  | .isNotEmpty =>
    match n with
    | .single => if kind = .text then .isNotBlank t else .isNotNull t
    | .multi => .hasElements t
  | .hasAll ss => .hasAllMembers (members kind t) ss
  | .hasExactly ss => .sameMembers (members kind t) (Json.distinct ss)

end RowFilter.Sql.Postgres
