import RowFilter.Proofs.Truth
import RowFilter.Sql.Predicate
/-!
# What predicates say of a row

The truth value of a predicate at a row, read from its SQL. Connectives, searches and tests for
NULL are those of SQL; what the database computes with values is left to an `Engine`, and
`Engine.Lawful` is what is assumed of it.

Results:
* `eval_complement`: the complement of a predicate is true where it is not.
-/
namespace RowFilter

open Sql

/-- Whether a comparison holds between integers. -/
def Comparison.holds : Comparison → Int → Int → Bool
  | eq, m, n => m = n
  | lt, m, n => m < n
  | le, m, n => m ≤ n
  | gt, m, n => n < m
  | ge, m, n => n ≤ m

namespace Sql

/-! ## Databases -/

/-- What a cell holds or a term computes; none is NULL. -/
abbrev Datum := Option Value

/-- A row of the list of an array's elements. -/
structure Element where
  value : Datum
  /-- The name of its JSON type. -/
  type : Datum

/-- What a database computes with values. -/
structure Engine where
  compare : Comparison → Datum → Datum → Truth
  /-- A match with a pattern in which a backslash escapes. -/
  like : Datum → String → Truth
  field : Datum → Field → Datum
  asText : Datum → Datum
  arrayLength : Datum → Option Nat
  /-- The elements of an array, as a listing gives them. -/
  rows : Listing → Datum → List Element
  /-- The array of several values. -/
  aggregate : List Datum → Datum
  /-- How many different values there are besides NULL. -/
  countDistinct : List Datum → Nat
  /-- Whether an array has all of an array of texts among its elements (`@>`). -/
  contains : Datum → List String → Truth
  /-- Whether an array has no other elements than those of an array of texts (`<@`). -/
  containedIn : Datum → List String → Truth
  /-- Whether an array has one of several texts among its elements (`?|`). -/
  hasAny : Datum → List String → Truth
  /-- Whether an array has all of several texts among its elements (`?&`). -/
  hasAll : Datum → List String → Truth
  /-- Whether an array has the element `true`. -/
  pathIsTrue : Datum → Truth
  /-- Whether an array has an element for which all comparisons hold. -/
  pathExists : Datum → List (Comparison × PathValue) → Truth

/-- What a predicate is evaluated in: the row at hand, by names of tables and columns, and in a
search of an array the element at hand. -/
structure Scope where
  row : Option String → String → Datum
  element : Element

/-- What is assumed of a database. -/
structure Engine.Lawful (e : Engine) : Prop where
  /-- A comparison is unknown where an operand is NULL, and only there. -/
  compare_eq_unknown : ∀ c a b, e.compare c a b = .unknown ↔ a = none ∨ b = none
  compare_int : ∀ c m n, e.compare c (some (.int m)) (some (.int n)) = .ofBool (c.holds m n)
  arrayLength_null : e.arrayLength none = none
  arrayLength_array : ∀ items, e.arrayLength (some (.json (.arr items))) = some items.length

/-! ## Terms -/

variable (e : Engine) (s : Scope)

namespace Term

def eval : Term → Datum
  | column table name => s.row table name
  | element => s.element.value
  | field t key => e.field t.eval key
  | asText t => e.asText t.eval
  | ids t => e.aggregate ((e.rows .elements t.eval).map fun x => e.field x.value .id)

/-- The length of the array that a term is. -/
def length (t : Term) : Datum := (e.arrayLength (t.eval e s)).map fun (n : Nat) => .int n

def isNull (t : Term) : Truth := .ofBool (t.eval e s).isNone

/-- Whether a term is one of several texts. -/
def isOneOf (t : Term) (vs : List String) : Truth :=
  .any (vs.map fun v => e.compare .eq (t.eval e s) (some (.text v)))

end Term

/-! ## Predicates -/

/-- The constant that truth values are compared with. -/
def Dialect.trueConstant : Dialect → Value
  | postgres => .bool true
  | sqlite => .int 1

/-- `(p) IS NOT TRUE`, or `IFNULL(NOT (p), 1)`. -/
def Dialect.evalNotTrue (d : Dialect) (p : Truth) : Truth :=
  match d with
  | postgres => .ofBool (p ≠ .yes)
  | sqlite => if p.not = .unknown then .yes else p.not

/-- The truth value of a predicate. -/
def Predicate.eval (d : Dialect) (e : Engine) (s : Scope) : Predicate → Truth
  | isTrue t => e.compare .eq (t.eval e s) (some d.trueConstant)
  | compare c t v => e.compare c (t.eval e s) (some v)
  | between t low high =>
    (e.compare .ge (t.eval e s) (some low)).and (e.compare .le (t.eval e s) (some high))
  | like t pattern => e.like (t.eval e s) pattern
  | inList t vs => t.isOneOf e s vs
  | outsideList t vs => (t.isNull e s).or (t.isOneOf e s vs).not
  | equalsAny t vs => t.isOneOf e s vs
  | isNull t => t.isNull e s
  | isNotNull t => (t.isNull e s).not
  | isBlank t => (t.isNull e s).or (e.compare .eq (t.eval e s) (some (.text "")))
  | isNotBlank t => (e.compare .eq (t.eval e s) (some (.text ""))).not
  | hasNoElements t => (t.isNull e s).or (e.compare .eq (t.length e s) (some (.int 0)))
  | hasElements t => e.compare .gt (t.length e s) (some (.int 0))
  | elementIsTrue => e.compare .eq s.element.type (some (.text "true"))
  | notTrue p => d.evalNotTrue (p.eval d e s)
  | someElement l array p =>
    .ofBool ((e.rows l (array.eval e s)).any fun x => p.eval d e ⟨s.row, x⟩ = .yes)
  | noElement l array p =>
    (Truth.ofBool ((e.rows l (array.eval e s)).any fun x => p.eval d e ⟨s.row, x⟩ = .yes)).not
  | pathIsTrue t => e.pathIsTrue (t.eval e s)
  | pathExists t tests => e.pathExists (t.eval e s) (tests.map fun x => (x.comparison, x.value))
  | hasMember t v => e.contains (t.eval e s) [v]
  | hasAnyMember t vs => e.hasAny (t.eval e s) vs
  | hasAllMembers t vs => e.hasAll (t.eval e s) vs
  | sameMembers t vs => (e.contains (t.eval e s) vs).and (e.containedIn (t.eval e s) vs)
  | countsAll member array vs =>
    let found := (e.rows .each (array.eval e s)).filter fun x =>
      member.isOneOf e ⟨s.row, x⟩ vs = .yes
    e.compare .eq (some (.int (e.countDistinct (found.map fun x => member.eval e ⟨s.row, x⟩))))
      (some (.int vs.length))
  | both p q => (p.eval d e s).and (q.eval d e s)

namespace Predicate

variable {d : Dialect} {e : Engine} {s : Scope}

theorem eval_notTrue (p : Predicate) : (notTrue p).eval d e s = .yes ↔ p.eval d e s ≠ .yes := by
  show d.evalNotTrue (p.eval d e s) = .yes ↔ _
  cases d <;> cases p.eval _ e s <;> decide

theorem eval_noElement (l : Listing) (array : Term) (p : Predicate) :
    (noElement l array p).eval d e s = .yes ↔ (someElement l array p).eval d e s ≠ .yes := by
  simp [eval]

/-- The complement of a predicate is true where it is not. -/
theorem eval_complement (p : Predicate) : p.complement.eval d e s = .yes ↔ p.eval d e s ≠ .yes := by
  cases p with
  | someElement l array p => exact eval_noElement l array p
  | _ => exact eval_notTrue _

end Predicate

end Sql

end RowFilter
