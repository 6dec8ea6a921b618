import RowFilter.Compiler
import RowFilter.Settings.File
import RowFilter.Text.Unsigned
/-!
# Settings

Settings come in layers: a variable of the environment goes before the file, and the file
before the default, for each setting on its own. A value that is not used is not looked at.

* `Settings.ofSources`: the settings of a file and an environment.
* `Settings.load`: the same with the file found by its path.
-/
namespace RowFilter

open Sql (Dialect)

/-- The variables of an environment. -/
abbrev Environment := String → Option String

structure Settings where
  dialect : Dialect
  limits : Filter.Limits
  defaultZone : Zone
  actorPlaceholder : String

namespace Settings

/-! ## Variables -/

def fileVariable : String := "TABULA_FILTER_CONFIG"
def dialectVariable : String := "TABULA_FILTER_DIALECT"
def maxJsonBytesVariable : String := "TABULA_FILTER_MAX_JSON_BYTES"
def maxConditionsVariable : String := "TABULA_FILTER_MAX_CONDITIONS"
def maxDepthVariable : String := "TABULA_FILTER_MAX_DEPTH"
def zoneVariable : String := "TABULA_FILTER_TIME_ZONE"
def placeholderVariable : String := "TABULA_FILTER_ACTOR_PLACEHOLDER"

/-! ## Errors -/

inductive LoadError
  | fileNotFound (path : String)
  | fileNotText (path : String)
  | fileNotSettings (path : String)
  | unknownDialect (name : String)
  | invalidLimit (name text : String) (error : Text.UnsignedError)
  | zeroLimit (name : String)
  | unknownZone (name : String)
  | blankPlaceholder
  deriving DecidableEq, Repr

/-- What went wrong, and after it the cause of that if there is one to tell. -/
def LoadError.chain : LoadError → List String
  | fileNotFound path => ["Config file not found: " ++ path]
  | fileNotText path =>
    ["Failed to read config file: " ++ path, "stream did not contain valid UTF-8"]
  | fileNotSettings path => ["Failed to parse config file: " ++ path]
  | unknownDialect name => ["Invalid " ++ dialectVariable, Dialect.unknownMessage name]
  | invalidLimit name text error => ["Invalid " ++ name ++ ": " ++ text, error.message]
  | zeroLimit name => [name ++ " must be greater than 0"]
  | unknownZone name => ["Unknown time zone: " ++ name]
  | blankPlaceholder => ["actor_placeholder must not be empty"]

/-! ## Layers -/

def resolveDialect (env : Environment) (file : Option Dialect) : Except LoadError Dialect :=
  match env dialectVariable with
  | some text => (Dialect.ofName text).mapError .unknownDialect
  | none => .ok (file.getD .postgres)

/-- A limit from its variable, the file or its default; it must not be zero. -/
def resolveLimit (env : Environment) (name : String) (file : Option Nat) (default : Nat) :
    Except LoadError Nat := do
  let n ← match env name with
    | some text => (Text.readUnsigned (Text.trim text)).mapError (.invalidLimit name text)
    | none => .ok (file.getD default)
  if n = 0 then .error (.zeroLimit name) else .ok n

def resolveZone (zones : Zone.Database) (env : Environment) (file : Option String) :
    Except LoadError Zone :=
  let name := ((env zoneVariable) <|> file).getD "UTC"
  match zones name with
  | some z => .ok z
  | none => .error (.unknownZone name)

def resolvePlaceholder (env : Environment) (file : Option String) : Except LoadError String :=
  let text := ((env placeholderVariable) <|> file).getD "me"
  if (Text.trim text).isEmpty then .error .blankPlaceholder else .ok text

/-- The settings of a file and an environment. -/
def ofSources (zones : Zone.Database) (file : File) (env : Environment) :
    Except LoadError Settings := do
  let limits := file.limits.getD {}
  let standard := Filter.Limits.standard
  let dialect ← resolveDialect env file.dialect
  let maxJsonBytes ←
    resolveLimit env maxJsonBytesVariable limits.maxJsonBytes standard.maxJsonBytes
  let maxConditions ←
    resolveLimit env maxConditionsVariable limits.maxConditions standard.maxConditions
  let maxDepth ← resolveLimit env maxDepthVariable limits.maxDepth standard.maxDepth
  let zone ← resolveZone zones env file.defaultZone
  let placeholder ← resolvePlaceholder env file.actorPlaceholder
  return ⟨dialect, ⟨maxJsonBytes, maxConditions, maxDepth⟩, zone, placeholder⟩

/-- What a file sets, given the bytes that stand under a path. -/
def decodeFile (path : String) : Option ByteArray → Except LoadError File
  | none => .error (.fileNotFound path)
  | some bytes =>
    match String.fromUTF8? bytes with
    | none => .error (.fileNotText path)
    | some text =>
      match File.ofText? text with
      | some file => .ok file
      | none => .error (.fileNotSettings path)

/-- The settings of an environment and of the file at a path, or else at the path that the
environment names. `contents` gives the bytes under a path. -/
def load (zones : Zone.Database) (contents : String → Option ByteArray) (path : Option String)
    (env : Environment) : Except LoadError Settings := do
  let file ← match path <|> env fileVariable with
    | some path => decodeFile path (contents path)
    | none => .ok {}
  ofSources zones file env

/-- The compiler of the settings. -/
def compiler (s : Settings) (zones : Zone.Database) : Compiler :=
  { dialect := s.dialect, zones, defaultZone := s.defaultZone,
    actorPlaceholder := s.actorPlaceholder }

/-! ## Logging -/

/-- Which log lines are shown: what either variable says, the first before the second, or a
default. -/
def logFilter (env : Environment) : String :=
  ((env "TABULA_LOG") <|> env "RUST_LOG").getD "warn,tabula_filter=info"

end Settings

end RowFilter
