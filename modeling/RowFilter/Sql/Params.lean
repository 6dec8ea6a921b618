import RowFilter.Sql.Template
/-!
# Parameters

The values bound so far while a text is put together. Placeholders are numbered after those
of an offset, so that the text can be appended to a query that binds values already.
-/
namespace RowFilter.Sql

structure Params where
  dialect : Dialect
  /-- The number of parameters bound before these. -/
  offset : Nat
  values : List Value
  deriving Repr

namespace Params

def startingAfter (d : Dialect) (offset : Nat) : Params := ⟨d, offset, []⟩

/-- The number of all parameters bound so far. -/
def bound (ps : Params) : Nat := ps.offset + ps.values.length

def append (ps : Params) (vs : List Value) : Params := { ps with values := ps.values ++ vs }

/-- Binds the values of a template and gives its text. -/
def add (ps : Params) (t : Template) : String × Params :=
  (t.text ps.dialect ps.bound, ps.append t.values)

@[simp] theorem values_add (ps : Params) (t : Template) :
    (ps.add t).2.values = ps.values ++ t.values := rfl

@[simp] theorem bound_add (ps : Params) (t : Template) :
    (ps.add t).2.bound = ps.bound + t.values.length := by
  simp [bound, add, append, Nat.add_assoc]

/-- Adding two templates one after the other is adding both at once. -/
theorem add_append (ps : Params) (s t : Template) :
    ps.add (s ++ t) = ((ps.add s).1 ++ ((ps.add s).2.add t).1, ((ps.add s).2.add t).2) := by
  simp [add, append, bound, Template.text_append, Nat.add_assoc]

/-- Binds a value and gives its placeholder. -/
def push (ps : Params) (v : Value) : String × Params := ps.add [.value v]

/-- Binds several values and gives their placeholders with commas between them. -/
def bindList (ps : Params) (vs : List Value) : String × Params := ps.add (Template.list vs)

end Params

end RowFilter.Sql
