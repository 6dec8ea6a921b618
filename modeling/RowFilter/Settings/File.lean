import RowFilter.Json.Embedded
import RowFilter.Sql.Dialect
/-!
# Settings files

A settings file is a JSON object. Every field may be missing or null, none of the known ones
may stand twice. The fields of other names make up a document that is kept aside as `extra`,
in settled form.
-/
namespace RowFilter.Settings

open Sql (Dialect)

/-- The limits a file sets. -/
structure FileLimits where
  maxJsonBytes : Option Nat := none
  maxConditions : Option Nat := none
  maxDepth : Option Nat := none
  extra : Json := .obj []
  deriving Repr

/-- What a file sets. -/
structure File where
  dialect : Option Dialect := none
  limits : Option FileLimits := none
  defaultZone : Option String := none
  actorPlaceholder : Option String := none
  extra : Json := .obj []
  deriving Repr

/-! ## Values of fields -/

/-- A value that may be null. -/
def nullable? {α : Type} (read? : Json → Option α) : Json → Option (Option α)
  | .null => some none
  | j => (read? j).map some

/-- A dialect is its name, or an object with the name as the only key and null under it. -/
def dialect? : Json → Option Dialect
  | .str s => Dialect.all.find? fun d => d.name = s
  | .obj [(s, .null)] => Dialect.all.find? fun d => d.name = s
  | _ => none

/-- An unsigned 64-bit number, written as an integer. -/
def limit? : Json → Option Nat
  | .int i => if 0 ≤ i then some i.toNat else none
  | _ => none

def text? : Json → Option String
  | .str s => some s
  | _ => none

/-- Whether no key of a list stands twice among some fields. -/
def onceEach (keys : List String) (fields : List (String × Json)) : Bool :=
  keys.all fun key => (fields.filter fun (k, _) => k = key).length ≤ 1

/-- The value of a field, which may be missing or null. -/
def field? {α : Type} (fields : List (String × Json)) (key : String) (read? : Json → Option α) :
    Option (Option α) :=
  match Json.find? key fields with
  | none => some none
  | some j => nullable? read? j

/-- The document that the fields with unknown names make up. Where the first of them holds
the text of a document in its place, the others do not count. -/
def extraOf? (keys : List String) (fields : List (String × Json)) : Option Json :=
  let extra := fields.filter fun (k, _) => !keys.contains k
  Json.settle? (.obj (if Json.isEmbedded extra then extra.take 1 else extra))

/-! ## Files -/

namespace FileLimits

def keys : List String := ["max_json_bytes", "max_conditions", "max_depth"]

def ofJson? : Json → Option FileLimits
  | .obj fields =>
    if onceEach keys fields then do
      return ⟨← field? fields "max_json_bytes" limit?, ← field? fields "max_conditions" limit?,
        ← field? fields "max_depth" limit?, ← extraOf? keys fields⟩
    else none
  | _ => none

end FileLimits

namespace File

def keys : List String := ["dialect", "limits", "default_time_zone", "actor_placeholder"]

def ofJson? : Json → Option File
  | .obj fields =>
    if onceEach keys fields then do
      return ⟨← field? fields "dialect" dialect?, ← field? fields "limits" FileLimits.ofJson?,
        ← field? fields "default_time_zone" text?, ← field? fields "actor_placeholder" text?,
        ← extraOf? keys fields⟩
    else none
  | _ => none

/-- What the text of a file sets, if it is a settings file. -/
def ofText? (text : String) : Option File :=
  match Json.read? text with
  | some (j, rest) => if Json.isEnd rest then ofJson? j else none
  | none => none

end File

end RowFilter.Settings
