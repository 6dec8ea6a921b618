import RowFilter.Number.Binary64
/-!
# JSON documents

A JSON document with its object fields in the order they stand in. A number
keeps the way it was written: an integer that 64 bits can hold stays one, all
else is a binary64 number.

An object read from text may hold a key more than once. `Json.settleFields` leaves one
field a key: it stands where the key stood first and has the value it had last.
-/
namespace RowFilter

inductive Json
  | null
  | bool (b : Bool)
  | int (i : Int)
  | float (x : Binary64)
  | str (s : String)
  | arr (items : List Json)
  | obj (fields : List (String × Json))
  deriving Repr

namespace Json

instance : Inhabited Json := ⟨null⟩

/-! ## Fields -/

/-- Sets the value of a key: in its place if the key is there, at the end if not. -/
def put {α : Type} (key : String) (value : α) : List (String × α) → List (String × α)
  | [] => [(key, value)]
  | (k, v) :: fields => if k = key then (k, value) :: fields else (k, v) :: put key value fields

/-- The fields with each key once. -/
def settleFields {α : Type} (fields : List (String × α)) : List (String × α) :=
  fields.foldl (fun acc (k, v) => put k v acc) []

/-- The value of a key. -/
def find? {α : Type} (key : String) : List (String × α) → Option α
  | [] => none
  | (k, v) :: fields => if k = key then some v else find? key fields

/-! ## Numbers -/

/-- Whether an integer is in the range of a signed or an unsigned 64-bit word. -/
def inWordRange (i : Int) : Bool := -0x8000000000000000 ≤ i && i < 0x10000000000000000

/-- The number a numeric document stands for. -/
def number? : Json → Option Binary64
  | .int i => some (Binary64.ofInt i)
  | .float x => some x
  | _ => none

end Json

end RowFilter
