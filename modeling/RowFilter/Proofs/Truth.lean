import RowFilter.Tree
/-!
# Three-valued truth

The truth values of SQL and what its connectives make of them. A tree of truth values has a
value too: every group that of its own children under its own conjunction.

Results:
* `value_join`: a group of one child has the value of the child.
-/
namespace RowFilter

namespace Sql

inductive Truth
  | no | unknown | yes
  deriving DecidableEq, Repr

namespace Truth

def ofBool (b : Bool) : Truth := if b then yes else no

def not : Truth → Truth
  | no => yes
  | unknown => unknown
  | yes => no

/-- False if either side is, and else unknown if either side is. -/
def and : Truth → Truth → Truth
  | no, _ => no
  | yes, b => b
  | unknown, no => no
  | unknown, _ => unknown

/-- True if either side is, and else unknown if either side is. -/
def or : Truth → Truth → Truth
  | yes, _ => yes
  | no, b => b
  | unknown, yes => yes
  | unknown, _ => unknown

/-- The conjunction of several values. -/
def all (vs : List Truth) : Truth := vs.foldr and yes

/-- The disjunction of several values. -/
def any (vs : List Truth) : Truth := vs.foldr or no

@[simp] theorem ofBool_eq_yes {b : Bool} : ofBool b = yes ↔ b = true := by cases b <;> decide

theorem ofBool_ne_unknown (b : Bool) : ofBool b ≠ unknown := by cases b <;> decide

@[simp] theorem not_ofBool (b : Bool) : (ofBool b).not = ofBool !b := by cases b <;> rfl

@[simp] theorem and_yes (a : Truth) : a.and yes = a := by cases a <;> rfl

@[simp] theorem or_no (a : Truth) : a.or no = a := by cases a <;> rfl

theorem or_eq_yes {a b : Truth} : a.or b = yes ↔ a = yes ∨ b = yes := by
  cases a <;> cases b <;> decide

theorem and_eq_yes {a b : Truth} : a.and b = yes ↔ a = yes ∧ b = yes := by
  cases a <;> cases b <;> decide

/-- A disjunction is true if one side is. -/
theorem any_eq_yes {vs : List Truth} : any vs = yes ↔ yes ∈ vs := by
  induction vs with
  | nil => decide
  | cons v vs ih =>
    show v.or (any vs) = yes ↔ _
    rw [or_eq_yes, ih, List.mem_cons, eq_comm]

/-- A disjunction that is known on every side is known. -/
theorem any_map_ofBool {α : Type} (p : α → Bool) (xs : List α) :
    any (xs.map fun x => ofBool (p x)) = ofBool (xs.any p) := by
  induction xs with
  | nil => rfl
  | cons x xs ih =>
    show (ofBool (p x)).or (any _) = _
    rw [ih, List.any_cons]
    cases p x <;> cases xs.any p <;> rfl

end Truth

end Sql

open Sql

/-- The value of several operands under a conjunction. -/
def Conjunction.combine : Conjunction → List Truth → Truth
  | and => Truth.all
  | or => Truth.any

theorem Conjunction.combine_singleton (c : Conjunction) (v : Truth) : c.combine [v] = v := by
  cases c with
  | and => exact v.and_yes
  | or => exact v.or_no

namespace Tree

variable {α : Type}

mutual

/-- The value of a tree of truth values. -/
def value : Tree Truth → Truth
  | leaf v => v
  | group c ts => c.combine (values ts)

def values : List (Tree Truth) → List Truth
  | [] => []
  | t :: ts => value t :: values ts

end

theorem values_eq_map (ts : List (Tree Truth)) : values ts = ts.map value := by
  induction ts with
  | nil => rfl
  | cons t ts ih => rw [values, ih, List.map_cons]

/-- Trees joined by a conjunction; one alone is not joined to anything. -/
def join (c : Conjunction) : List (Tree α) → Tree α
  | [t] => t
  | ts => group c ts

/-- A group of one child has the value of the child. -/
theorem value_join (c : Conjunction) (ts : List (Tree Truth)) :
    (join c ts).value = c.combine (ts.map value) := by
  rw [← values_eq_map]
  cases ts with
  | nil => rfl
  | cons t ts =>
    cases ts with
    | nil => exact (c.combine_singleton t.value).symm
    | cons u us => rfl

end Tree

end RowFilter
