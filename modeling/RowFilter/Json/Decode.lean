import RowFilter.Json.Writer
import RowFilter.Text.Quoted
/-!
# Reading records from JSON documents

A record is read from a document in the order in which its fields stand, and the first
field that does not fit decides the error. What is missing is noticed at the end.
-/
namespace RowFilter

/-- Why a document does not have the shape that is to be read. -/
inductive DecodeError
  | missingField (name : String)
  | unknownVariant (name : String) (variants : List String)
  /-- The document is of another kind than the one wanted. -/
  | wrongKind (found : Json) (wanted : String)
  /-- The document is of the kind wanted, but not a value of it. -/
  | wrongValue (found : Json) (wanted : String)
  | tooFew (length : Nat) (wanted : String)
  | tooMany (length : Nat)
  deriving Repr

namespace DecodeError

/-- How a message names what was found. -/
def describe : Json → String
  | .null => "null"
  | .bool b => "boolean `" ++ (if b then "true" else "false") ++ "`"
  | .int i => "integer `" ++ (Json.int i).text ++ "`"
  | .float x => "floating point `" ++ x.text ++ "`"
  | .str s => "string " ++ Text.Quoted.quote s
  | .arr _ => "sequence"
  | .obj _ => "map"

/-- How a message lists the variants there are. -/
def oneOf (variants : List String) : String :=
  match variants.map fun v => "`" ++ v ++ "`" with
  | [a, b] => a ++ " or " ++ b
  | [a] => a
  | vs => "one of " ++ String.intercalate ", " vs

def message : DecodeError → String
  | missingField name => "missing field `" ++ name ++ "`"
  | unknownVariant name variants =>
    "unknown variant `" ++ name ++ "`, expected " ++ oneOf variants
  | wrongKind found wanted => "invalid type: " ++ describe found ++ ", expected " ++ wanted
  | wrongValue found wanted => "invalid value: " ++ describe found ++ ", expected " ++ wanted
  | tooFew n wanted => "invalid length " ++ toString n ++ ", expected " ++ wanted
  | tooMany n => "invalid length " ++ toString n ++ ", expected fewer elements in array"

end DecodeError

namespace Json

/-! ## Plain values -/

def decodeString : Json → Except DecodeError String
  | .str s => .ok s
  | j => .error (.wrongKind j "a string")

def decodeBool : Json → Except DecodeError Bool
  | .bool b => .ok b
  | j => .error (.wrongKind j "a boolean")

/-- A signed 64-bit integer. -/
def decodeInt64 : Json → Except DecodeError Int
  | .int i => if i < 0x8000000000000000 then .ok i else .error (.wrongValue (.int i) "i64")
  | j => .error (.wrongKind j "i64")

/-- A value that may also be null. -/
def decodeOption {α : Type} (decode : Json → Except DecodeError α) :
    Json → Except DecodeError (Option α)
  | .null => .ok none
  | j => (decode j).map some

/-- One of the named variants: its name, or an object with the name as the only key and
null under it. -/
def decodeVariant {α : Type} (name : α → String) (variants : List α) (j : Json) :
    Except DecodeError α :=
  let ofName (s : String) : Except DecodeError α :=
    match variants.find? fun v => name v = s with
    | some v => .ok v
    | none => .error (.unknownVariant s (variants.map name))
  match j with
  | .str s => ofName s
  | .obj [(s, v)] => do
    let a ← ofName s
    match v with
    | .null => .ok a
    | v => .error (.wrongKind v "unit")
  | .obj fields => .error (.wrongValue (.obj fields) "map with a single key")
  | j => .error (.wrongKind j "string or map")

/-! ## Records -/

/-- The value of a field that must have been read. -/
def required {α : Type} (name : String) : Option α → Except DecodeError α
  | some a => .ok a
  | none => .error (.missingField name)

end Json

end RowFilter
