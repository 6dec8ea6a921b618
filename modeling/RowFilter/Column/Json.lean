import RowFilter.Column
import RowFilter.Json.Decode
/-!
# Columns as JSON documents

A column is an object with the fields `id`, `dbName`, `semanticType`, `storage`,
`isMultiValued` and `options`, or an array of their values in this order. The first three
must be there; the others have defaults. Fields of another name are passed over.
-/
namespace RowFilter

namespace ColumnOptions

def setField (o : ColumnOptions) (key : String) (v : Json) : Except DecodeError ColumnOptions :=
  match key with
  | "timeZone" => do return { o with timeZone := ← Json.decodeOption Json.decodeString v }
  | "actorReference" => do return { o with actorReference := ← Json.decodeBool v }
  | _ => return o

/-- The fields in the order of the array form. -/
def fieldNames : List String := ["timeZone", "actorReference"]

def decode : Json → Except DecodeError ColumnOptions
  | .obj fields => fields.foldlM (fun o (key, v) => o.setField key v) {}
  | .arr items => do
    let o ← (fieldNames.zip items).foldlM (fun o (key, v) => o.setField key v) {}
    if fieldNames.length < items.length then .error (.tooMany items.length) else .ok o
  | j => .error (.wrongKind j "struct ColumnOptions")

def toJson (o : ColumnOptions) : Json :=
  .obj [("timeZone", match o.timeZone with | some z => .str z | none => .null),
    ("actorReference", .bool o.actorReference)]

end ColumnOptions

namespace Column

/-- A column of which some fields have been read. -/
structure Draft where
  id : Option String := none
  dbName : Option String := none
  semanticType : Option SemanticType := none
  storage : Storage := .plain
  isMultiValued : Bool := false
  options : ColumnOptions := {}

namespace Draft

def setField (d : Draft) (key : String) (v : Json) : Except DecodeError Draft :=
  match key with
  | "id" => do return { d with id := some (← Json.decodeString v) }
  | "dbName" => do return { d with dbName := some (← Json.decodeString v) }
  | "semanticType" => do
    return { d with
      semanticType := some (← Json.decodeVariant SemanticType.name SemanticType.all v) }
  | "storage" => do return { d with storage := ← Json.decodeVariant Storage.name Storage.all v }
  | "isMultiValued" => do return { d with isMultiValued := ← Json.decodeBool v }
  | "options" => do return { d with options := ← ColumnOptions.decode v }
  | _ => return d

def finish (d : Draft) : Except DecodeError Column := do
  let id ← Json.required "id" d.id
  let dbName ← Json.required "dbName" d.dbName
  let semanticType ← Json.required "semanticType" d.semanticType
  return ⟨id, dbName, semanticType, d.storage, d.isMultiValued, d.options⟩

end Draft

/-- The fields in the order of the array form. -/
def fieldNames : List String :=
  ["id", "dbName", "semanticType", "storage", "isMultiValued", "options"]

def decode : Json → Except DecodeError Column
  | .obj fields => do
    let d ← fields.foldlM (fun d (key, v) => Draft.setField d key v) {}
    d.finish
  | .arr items => do
    let d ← (fieldNames.zip items).foldlM (fun d (key, v) => Draft.setField d key v) {}
    if items.length < 3 then .error (.tooFew items.length "struct ColumnMeta with 6 elements")
    else if fieldNames.length < items.length then .error (.tooMany items.length)
    else d.finish
  | j => .error (.wrongKind j "struct ColumnMeta")

def toJson (c : Column) : Json :=
  .obj [("id", .str c.id), ("dbName", .str c.dbName), ("semanticType", .str c.semanticType.name),
    ("storage", .str c.storage.name), ("isMultiValued", .bool c.isMultiValued),
    ("options", c.options.toJson)]

end Column

end RowFilter
