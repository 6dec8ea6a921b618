import RowFilter.Comparison
import RowFilter.Sql.Template
import RowFilter.Text.Like
/-!
# Predicates

The SQL predicates that conditions compile to. A predicate holds the values it compares with;
`Predicate.template` writes it down in a dialect with these values in their places.
-/
namespace RowFilter.Sql

/-! ## Terms -/

/-- A field of a structured value. -/
inductive Field
  | id | title
  deriving DecidableEq, Repr

def Field.name : Field → String
  | id => "id"
  | title => "title"

/-- What a predicate compares: the column or something computed from it. No term holds a
value. -/
inductive Term
  /-- A column, qualified by the name of its table if there is one. -/
  | column (table : Option String) (name : String)
  /-- The element at hand in a search of an array. -/
  | element
  | field (t : Term) (key : Field)
  | asText (t : Term)
  /-- The array of the ids of an array of objects. -/
  | ids (t : Term)
  deriving DecidableEq, Repr

/-- A column reference as it stands in SQL. -/
def columnText (table : Option String) (name : String) : String :=
  match table with
  | some t => Dialect.quoteIdentifier t ++ "." ++ Dialect.quoteIdentifier name
  | none => Dialect.quoteIdentifier name

def Term.text (d : Dialect) : Term → String
  | column table name => columnText table name
  | element => match d with | .postgres => "elem.value" | .sqlite => "json_each.value"
  | field t key => d.fieldText (t.text d) key.name
  | asText t => "CAST(" ++ t.text d ++ " AS TEXT)"
  | ids t => "(SELECT jsonb_agg(elem->>'id') FROM jsonb_array_elements(" ++ t.text d ++ ") AS elem)"

/-! ## Tests of a path -/

/-- A variable of a path. -/
inductive PathVariable
  | v | start | stop
  deriving DecidableEq, Repr

def PathVariable.text : PathVariable → String
  | v => "v"
  | start => "start"
  | stop => "end"

/-- The value of a variable of a path. -/
inductive PathValue
  | float (x : Binary64)
  | text (s : String)
  deriving DecidableEq, Repr

namespace PathValue

def value : PathValue → Value
  | float x => .float x
  | text s => .text s

/-- The type the value is cast to. -/
def cast : PathValue → String
  | float _ => "float8"
  | text _ => "text"

end PathValue

/-- A comparison of an element with a variable. -/
structure PathTest where
  comparison : Comparison
  name : PathVariable
  value : PathValue
  deriving DecidableEq, Repr

namespace PathTest

/-- The test as it stands in the path. -/
def pathText (t : PathTest) : String := "@ " ++ t.comparison.path ++ " $" ++ t.name.text

/-- The variable and its value among the arguments. -/
def argument (t : PathTest) : Template :=
  [.sql ("'" ++ t.name.text ++ "', "), .value t.value.value, .sql ("::" ++ t.value.cast)]

end PathTest

/-! ## Predicates -/

/-- How the elements of an array are listed. -/
inductive Listing
  /-- The elements of a JSON text. -/
  | each
  | elements
  | elementTexts
  deriving DecidableEq, Repr

def Listing.text (l : Listing) (array : String) : String :=
  match l with
  | each => "json_each(" ++ array ++ ")"
  | elements => "jsonb_array_elements(" ++ array ++ ") AS elem(value)"
  | elementTexts => "jsonb_array_elements_text(" ++ array ++ ") AS elem(value)"

inductive Predicate
  | isTrue (t : Term)
  | compare (c : Comparison) (t : Term) (v : Value)
  | between (t : Term) (low high : Value)
  | like (t : Term) (pattern : String)
  | inList (t : Term) (vs : List String)
  /-- The term is null or none of the texts. -/
  | outsideList (t : Term) (vs : List String)
  | equalsAny (t : Term) (vs : List String)
  | isNull (t : Term)
  | isNotNull (t : Term)
  | isBlank (t : Term)
  | isNotBlank (t : Term)
  | hasNoElements (t : Term)
  | hasElements (t : Term)
  | elementIsTrue
  /-- The inner predicate is false or unknown. -/
  | notTrue (p : Predicate)
  /-- Some element of an array satisfies the inner predicate. -/
  | someElement (l : Listing) (array : Term) (p : Predicate)
  | noElement (l : Listing) (array : Term) (p : Predicate)
  | pathIsTrue (t : Term)
  /-- Some element passes all tests. -/
  | pathExists (t : Term) (tests : List PathTest)
  | hasMember (t : Term) (v : String)
  | hasAnyMember (t : Term) (vs : List String)
  | hasAllMembers (t : Term) (vs : List String)
  | sameMembers (t : Term) (vs : List String)
  /-- As many different members of an array are in the list as the list is long. -/
  | countsAll (member array : Term) (vs : List String)
  | both (p q : Predicate)
  deriving Repr

namespace Predicate

/-- The predicate as it stands in SQL. -/
def template (d : Dialect) : Predicate → Template
  | isTrue t => [.sql (t.text d ++ match d with | .postgres => " = TRUE" | .sqlite => " = 1")]
  | compare c t v => [.sql (t.text d ++ " " ++ c.sql ++ " "), .value v]
  | between t low high =>
    [.sql (t.text d ++ " BETWEEN "), .value low, .sql " AND ", .value high]
  | like t pattern =>
    [.sql (t.text d ++ d.likeKeyword), .value (.text pattern), .sql Dialect.likeEscape]
  | inList t vs => .sql (t.text d ++ " IN (") :: (Template.list (vs.map .text) ++ [.sql ")"])
  | outsideList t vs =>
    .sql (t.text d ++ " IS NULL OR " ++ t.text d ++ " NOT IN (")
      :: (Template.list (vs.map .text) ++ [.sql ")"])
  | equalsAny t vs => [.sql (t.text d ++ " = ANY("), .value (.textArray vs), .sql ")"]
  | isNull t => [.sql (t.text d ++ " IS NULL")]
  | isNotNull t => [.sql (t.text d ++ " IS NOT NULL")]
  | isBlank t => [.sql ("(" ++ t.text d ++ " IS NULL OR " ++ t.text d ++ " = '')")]
  | isNotBlank t => [.sql (t.text d ++ " <> ''")]
  | hasNoElements t =>
    [.sql ("(" ++ t.text d ++ " IS NULL OR " ++ d.arrayLength (t.text d) ++ " = 0)")]
  | hasElements t => [.sql (d.arrayLength (t.text d) ++ " > 0")]
  | elementIsTrue => [.sql "json_each.type = 'true'"]
  | notTrue p => .sql d.notTrueOpening :: (p.template d ++ [.sql d.notTrueClosing])
  | someElement l array p =>
    .sql ("EXISTS (SELECT 1 FROM " ++ l.text (array.text d) ++ " WHERE ")
      :: (p.template d ++ [.sql ")"])
  | noElement l array p =>
    .sql ("NOT EXISTS (SELECT 1 FROM " ++ l.text (array.text d) ++ " WHERE ")
      :: (p.template d ++ [.sql ")"])
  | pathIsTrue t => [.sql ("jsonb_path_exists(" ++ t.text d ++ ", '$[*] ? (@ == true)')")]
  | pathExists t tests =>
    .sql ("jsonb_path_exists(" ++ t.text d ++ ", '$[*] ? ("
        ++ String.intercalate " && " (tests.map PathTest.pathText) ++ ")', jsonb_build_object(")
      :: (Template.join ", " (tests.map PathTest.argument) ++ [.sql "))"])
  | hasMember t v => [.sql (t.text d ++ " @> jsonb_build_array("), .value (.text v), .sql "::text)"]
  | hasAnyMember t vs => [.sql (t.text d ++ " ?| "), .value (.textArray vs)]
  | hasAllMembers t vs => [.sql (t.text d ++ " ?& "), .value (.textArray vs)]
  | sameMembers t vs =>
    [.sql ("(" ++ t.text d ++ " @> "), .value (.json (.arr (vs.map Json.str))),
      .sql ("::jsonb AND " ++ t.text d ++ " <@ "), .again, .sql "::jsonb)"]
  | countsAll member array vs =>
    .sql ("(SELECT COUNT(DISTINCT " ++ member.text d ++ ") FROM "
        ++ Listing.each.text (array.text d) ++ " WHERE " ++ member.text d ++ " IN (")
      :: (Template.list (vs.map .text) ++ [.sql ")) = ", .value (.int vs.length)])
  | both p q => Template.parens (p.template d ++ .sql " AND " :: q.template d)

/-- The predicate that is true where another is not. -/
def complement : Predicate → Predicate
  | someElement l array p => noElement l array p
  | p => notTrue p

end Predicate

end RowFilter.Sql
