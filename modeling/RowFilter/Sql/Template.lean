import RowFilter.Sql.Dialect
import RowFilter.Sql.Value
/-!
# Templates

A template is a piece of SQL with values in it. Its text has placeholders where the values
stand; since both come from one list of pieces, they cannot get out of step.

* `Template.values`: the values in the order in which they stand.
* `Template.text`: the text, its placeholders numbered after those already in use.
* `values_append`, `pieceTexts_append`: two templates one after the other have the values of
  both, and the second is numbered after the first.
-/
namespace RowFilter.Sql

inductive Piece
  | sql (s : String)
  | value (v : Value)
  /-- The placeholder of the value before, once more. -/
  | again
  deriving Repr

abbrev Template := List Piece

namespace Template

/-! ## Reading a template -/

def values : Template → List Value
  | [] => []
  | .value v :: ps => v :: values ps
  | _ :: ps => values ps

/-- The texts of the pieces when `k` parameters are bound before. -/
def pieceTexts (d : Dialect) (k : Nat) : Template → List String
  | [] => []
  | .sql s :: ps => s :: pieceTexts d k ps
  | .value _ :: ps => d.placeholder (k + 1) :: pieceTexts d (k + 1) ps
  | .again :: ps => d.placeholder k :: pieceTexts d k ps

/-- The text of a template when `k` parameters are bound before. -/
def text (d : Dialect) (k : Nat) (t : Template) : String := String.join (t.pieceTexts d k)

@[simp] theorem values_append (s t : Template) : values (s ++ t) = values s ++ values t := by
  induction s with
  | nil => rfl
  | cons p s ih => cases p <;> simp [values, ih]

theorem pieceTexts_append (d : Dialect) (k : Nat) (s t : Template) :
    pieceTexts d k (s ++ t) = pieceTexts d k s ++ pieceTexts d (k + (values s).length) t := by
  induction s generalizing k with
  | nil => rfl
  | cons p s ih =>
    cases p with
    | sql _ => simp [pieceTexts, values, ih]
    | value _ => simp [pieceTexts, values, ih, Nat.add_assoc, Nat.add_comm]
    | again => simp [pieceTexts, values, ih]

/-- The text of two templates is that of the first and then that of the second, numbered
after the values of the first. -/
theorem text_append (d : Dialect) (k : Nat) (s t : Template) :
    text d k (s ++ t) = text d k s ++ text d (k + (values s).length) t := by
  rw [text, pieceTexts_append, String.join_append]
  rfl

/-! ## Building templates -/

/-- Templates with a text between each two of them. -/
def join (separator : String) : List Template → Template
  | [] => []
  | [t] => t
  | t :: ts => t ++ .sql separator :: join separator ts

/-- Values with commas between them. -/
def list (vs : List Value) : Template := join ", " (vs.map fun v => [.value v])

/-- A template in parentheses. -/
def parens (t : Template) : Template := .sql "(" :: (t ++ [.sql ")"])

theorem values_join (separator : String) (ts : List Template) :
    values (join separator ts) = (ts.map values).flatten := by
  induction ts with
  | nil => rfl
  | cons t ts ih =>
    cases ts with
    | nil => simp [join]
    | cons u us =>
      have step : values (join separator (t :: u :: us))
          = values (t ++ .sql separator :: join separator (u :: us)) := rfl
      rw [step, values_append, List.map_cons, List.flatten_cons, ← ih]
      rfl

@[simp] theorem values_list (vs : List Value) : values (list vs) = vs := by
  rw [list, values_join]
  induction vs with
  | nil => rfl
  | cons v vs ih => simpa [values] using ih

@[simp] theorem values_parens (t : Template) : values (parens t) = values t := by
  simp [parens, values]

end Template

end RowFilter.Sql
