import RowFilter.Filter
import RowFilter.Json.Embedded
/-!
# Reading filters

A filter is written as a JSON document. A group is an object with the fields `conjunction`
and `children`, a condition one with `columnId`, `operator`, `value` and `isSymbol`; either
may also be an array of the values in this order. Fields of another name are passed over,
but none of these may stand twice. What fits both is a group. The value of a condition is
kept in its settled form.

* `Filter.read`: the filter a text holds, or why it holds none.
-/
namespace RowFilter.Filter

/-! ## Fields -/

/-- A conjunction is its name, or an object with the name as the only key and null under
it. -/
def readConjunction? : Json → Option Conjunction
  | .str s => Conjunction.all.find? fun c => c.name = s
  | .obj [(s, .null)] => Conjunction.all.find? fun c => c.name = s
  | _ => none

/-- A field of a record that is being read. It must not have been read before. -/
def once? {α : Type} (old new : Option α) : Option (Option α) :=
  if old.isSome then none else new.map some

/-! ## Conditions -/

/-- A condition of which some fields have been read. -/
structure ConditionDraft where
  columnId : Option String := none
  operator : Option String := none
  value : Option Json := none
  isSymbol : Option Bool := none

namespace ConditionDraft

def text? : Json → Option String
  | .str s => some s
  | _ => none

def bool? : Json → Option Bool
  | .bool b => some b
  | _ => none

def setField? (d : ConditionDraft) (key : String) (v : Json) : Option ConditionDraft :=
  match key with
  | "columnId" => (once? d.columnId (text? v)).map fun x => { d with columnId := x }
  | "operator" => (once? d.operator (text? v)).map fun x => { d with operator := x }
  | "value" => (once? d.value v.settle?).map fun x => { d with value := x }
  | "isSymbol" => (once? d.isSymbol (bool? v)).map fun x => { d with isSymbol := x }
  | _ => some d

def finish? (d : ConditionDraft) : Option Condition := do
  return ⟨← d.columnId, ← d.operator, d.value.getD .null, d.isSymbol.getD false⟩

end ConditionDraft

/-- The fields of a condition in the order of its array form. -/
def conditionFields : List String := ["columnId", "operator", "value", "isSymbol"]

def readCondition? : Json → Option Condition
  | .obj fields => do
    let d ← fields.foldlM (fun d (key, v) => ConditionDraft.setField? d key v) {}
    d.finish?
  | .arr items =>
    if conditionFields.length < items.length then none
    else do
      let d ← (conditionFields.zip items).foldlM
        (fun d (key, v) => ConditionDraft.setField? d key v) {}
      d.finish?
  | _ => none

/-! ## Groups -/

/-- A group of which some fields have been read. -/
structure GroupDraft where
  conjunction : Option Conjunction := none
  children : Option (List Filter) := none

def GroupDraft.finish? (d : GroupDraft) : Option Filter := do
  return .group (← d.conjunction) (d.children.getD [])

mutual

/-- The filter a document is. -/
def ofJson? : Json → Option Filter
  | .obj fields => ((readGroupFields {} fields).bind GroupDraft.finish?) <|>
    (readCondition? (.obj fields)).map .leaf
  | .arr items => readGroupItems items <|> (readCondition? (.arr items)).map .leaf
  | _ => none

/-- Reads on the fields of a group. -/
def readGroupFields (d : GroupDraft) : List (String × Json) → Option GroupDraft
  | [] => some d
  | (key, v) :: fields =>
    if key = "conjunction" then do
      let c ← once? d.conjunction (readConjunction? v)
      readGroupFields { d with conjunction := c } fields
    else if key = "children" then do
      let ts ← once? d.children (readChildren? v)
      readGroupFields { d with children := ts } fields
    else readGroupFields d fields

/-- Reads the array form of a group. -/
def readGroupItems : List Json → Option Filter
  | [c] => (readConjunction? c).map fun c => .group c []
  | [c, children] => do
    let c ← readConjunction? c
    let ts ← readChildren? children
    return .group c ts
  | _ => none

def readChildren? : Json → Option (List Filter)
  | .arr items => readFilters? items
  | _ => none

def readFilters? : List Json → Option (List Filter)
  | [] => some []
  | j :: items => do
    let t ← ofJson? j
    let ts ← readFilters? items
    return t :: ts

end

/-! ## Texts -/

/-- Limits on the filters that are read. -/
structure Limits where
  maxJsonBytes : Nat
  maxConditions : Nat
  maxDepth : Nat
  deriving DecidableEq, Repr

def Limits.standard : Limits := ⟨65536, 200, 64⟩

/-- Why a text holds no filter. -/
inductive ReadError
  | tooLarge (max : Nat)
  /-- The text is no JSON document. -/
  | notJson
  /-- The document is no filter. -/
  | notAFilter
  | tooManyConditions (max : Nat)
  | tooDeep (max : Nat)
  deriving DecidableEq, Repr

/-- The filter a text holds. What stands first in the text decides whether it is no JSON
or no filter; whether anything follows is looked at last. -/
def ofText (text : String) : Except ReadError Filter :=
  match Json.read? text with
  | none => .error .notJson
  | some (j, rest) =>
    match ofJson? j with
    | none => .error .notAFilter
    | some f => if Json.isEnd rest then .ok f else .error .notJson

/-- The filter a text holds, if it keeps within the limits. -/
def read (limits : Limits) (text : String) : Except ReadError Filter :=
  if limits.maxJsonBytes < text.utf8ByteSize then .error (.tooLarge limits.maxJsonBytes)
  else do
    let f ← ofText text
    if limits.maxConditions < f.leafCount then .error (.tooManyConditions limits.maxConditions)
    else if limits.maxDepth < f.depth then .error (.tooDeep limits.maxDepth)
    else .ok f

end RowFilter.Filter
