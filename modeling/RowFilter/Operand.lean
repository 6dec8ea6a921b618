import RowFilter.Error
/-!
# Operands

What an operator reads from the value of its condition: a truth value, a number, a text, a
list of texts or a date filter.
-/
namespace RowFilter.Json

/-- Null, false, zero, empty texts, lists and objects, and the texts `false` and `0` count as
false, all else as true. -/
def truthy : Json → Bool
  | .null => false
  | .bool b => b
  | .int i => i ≠ 0
  | .float x => !x.isZero
  | .str s => !(s.isEmpty || s = "false" || s = "0")
  | .arr items => !items.isEmpty
  | .obj fields => !fields.isEmpty

/-- A finite number, or a text that writes one. -/
def numberOperand (j : Json) : Except ValueFault Binary64 :=
  let x := match j with
    | .str s => Binary64.ofText? (Text.trim s)
    | j => j.number?
  match x with
  | some x => if x.isFinite then .ok x else .error (.notANumber j)
  | none => .error (.notANumber j)

/-- A text, the text of a number, or either of these as the id of an object. -/
def textOperand : Json → Except ValueFault String
  | .str s => .ok s
  | .int i => .ok (Json.int i).text
  | .float x => .ok x.text
  | .obj fields =>
    match find? "id" fields with
    | some (.str s) => .ok s
    | some (.int i) => .ok (Json.int i).text
    | some (.float x) => .ok x.text
    | _ => .error .noId
  | j => .error (.notText j)

/-- A list of at least one text. -/
def textListOperand : Json → Except ValueFault (List String)
  | .arr items => do
    match ← items.mapM textOperand with
    | [] => .error .emptyList
    | ss => .ok ss
  | j => .error (.notAList j)

/-- The elements of a list, each where it stands first. -/
def distinct : List String → List String
  | [] => []
  | s :: ss => s :: (distinct ss).filter (· ≠ s)

/-- A list of at least one text, each text once. -/
def distinctTextListOperand (j : Json) : Except ValueFault (List String) :=
  j.textListOperand.map distinct

end RowFilter.Json
