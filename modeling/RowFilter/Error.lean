import RowFilter.Operator
import RowFilter.DateRange
import RowFilter.Filter.Reader
import RowFilter.Sql.Dialect
/-!
# Errors of filters

Every way in which a filter is refused, as a cause with what it is about. `code` is a
stable name of the cause and `message` its wording. An error is either the caller's or
an internal one: the metadata or the use of the library is at fault.
-/
namespace RowFilter

/-- Why an operator cannot be used on a column. -/
inductive OperatorFault
  | unknownSymbol
  | unknownOperator
  | notAllowed (op : Operator)
  deriving DecidableEq, Repr

/-- Why a value cannot be used with an operator. -/
inductive ValueFault
  | notANumber (found : Json)
  | notText (found : Json)
  | noId
  | notAList (found : Json)
  | emptyList
  | notADateFilter (error : DateFilter.ReadError)
  deriving Repr

inductive FilterError
  | unknownColumn (id : String)
  | invalidOperator (column operator : String) (fault : OperatorFault)
  | invalidDateMode (column : String) (op : Operator) (mode : DateMode)
  | malformedValue (column : String) (op : Operator) (fault : ValueFault)
  | noDateRange (column : String) (error : DateRangeError)
  | missingActor (column : String)
  | unreadable (error : Filter.ReadError)
  | unknownZone (column zone : String)
  | unsupported (column : String) (op : Operator) (compiler : String)
  | dialectMismatch (compiler query : Sql.Dialect)
  deriving Repr

def OperatorFault.message : OperatorFault → String
  | unknownSymbol => "unknown symbol"
  | unknownOperator => "unknown operator"
  | notAllowed op => op.name ++ " is not allowed for this column type"

def ValueFault.message : ValueFault → String
  | notANumber found => "expected a number, got " ++ found.text
  | notText found => "expected text, got " ++ found.text
  | noId => "expected an object with an id"
  | notAList found => "expected a list, got " ++ found.text
  | emptyList => "expected a non-empty list"
  | notADateFilter error => error.message

namespace Filter.ReadError

def code : ReadError → String
  | tooLarge _ => "FILTER_JSON_TOO_LARGE"
  | notJson | notAFilter => "INVALID_FILTER_JSON"
  | tooManyConditions _ => "TOO_MANY_FILTERS"
  | tooDeep _ => "FILTER_TOO_DEEP"

def message : ReadError → String
  | tooLarge max => "Filter JSON exceeds maximum size of " ++ toString max ++ " bytes"
  | notJson => "Invalid filter JSON: <json error>"
  | notAFilter =>
    "Invalid filter JSON: data did not match any variant of untagged enum FilterNode"
  | tooManyConditions max => "Maximum " ++ toString max ++ " filter conditions allowed"
  | tooDeep max => "Filter nesting exceeds maximum depth of " ++ toString max

end Filter.ReadError

namespace FilterError

def code : FilterError → String
  | unknownColumn _ => "INVALID_FILTER_COLUMN"
  | invalidOperator .. => "INVALID_FILTER_OPERATOR"
  | invalidDateMode .. => "INVALID_DATE_MODE"
  | malformedValue .. => "INVALID_FILTER_VALUE"
  | noDateRange .. => "INVALID_DATE_FILTER"
  | missingActor _ => "MISSING_ACTOR"
  | unreadable error => error.code
  | unknownZone .. => "INVALID_COLUMN_METADATA"
  | unsupported .. => "UNSUPPORTED_FILTER_OPERATION"
  | dialectMismatch .. => "DIALECT_MISMATCH"

/-- Whether the fault is not the caller's. -/
def isInternal : FilterError → Bool
  | unknownZone .. | unsupported .. | dialectMismatch .. => true
  | _ => false

/-- The status of an answer that reports the error. -/
def status (e : FilterError) : Nat := if e.isInternal then 500 else 400

def message : FilterError → String
  | unknownColumn id => "Cannot filter by unknown column: " ++ id
  | invalidOperator column operator fault =>
    "Invalid operator '" ++ operator ++ "' for column " ++ column ++ ": " ++ fault.message
  | invalidDateMode column op mode =>
    "Date mode '" ++ mode.name ++ "' cannot be used with " ++ op.name ++ " on column " ++ column
  | malformedValue column op fault =>
    "Malformed value for " ++ op.name ++ " on column " ++ column ++ ": " ++ fault.message
  | noDateRange column error =>
    "Invalid date filter on column " ++ column ++ ": " ++ error.message
  | missingActor column =>
    "Column " ++ column ++ " references the current user but no actor is set"
  | unreadable error => error.message
  | unknownZone column zone =>
    "Invalid metadata for column " ++ column ++ ": unknown time zone '" ++ zone
      ++ "': failed to parse timezone"
  | unsupported column op compiler =>
    "Operator " ++ op.name ++ " is not supported by " ++ compiler ++ " (column " ++ column ++ ")"
  | dialectMismatch compiler query =>
    "Query builder targets " ++ query.name ++ " but the compiler targets " ++ compiler.name

end FilterError

end RowFilter
