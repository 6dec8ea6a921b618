import RowFilter.Json.Decode
/-!
# Date filters

The value of a date operator: a mode, and for some modes a number of days or a date. A
day mode names one calendar day, a rolling mode a window that begins or ends today.
-/
namespace RowFilter

inductive DateMode
  | today | tomorrow | yesterday | oneWeekAgo | oneWeekFromNow | oneMonthAgo | oneMonthFromNow
  | daysAgo | daysFromNow | exactDate
  | pastWeek | pastMonth | pastYear | nextWeek | nextMonth | nextYear
  | pastNumberOfDays | nextNumberOfDays
  deriving DecidableEq, Repr

namespace DateMode

def all : List DateMode :=
  [today, tomorrow, yesterday, oneWeekAgo, oneWeekFromNow, oneMonthAgo, oneMonthFromNow, daysAgo,
    daysFromNow, exactDate, pastWeek, pastMonth, pastYear, nextWeek, nextMonth, nextYear,
    pastNumberOfDays, nextNumberOfDays]

def name : DateMode → String
  | today => "today"
  | tomorrow => "tomorrow"
  | yesterday => "yesterday"
  | oneWeekAgo => "oneWeekAgo"
  | oneWeekFromNow => "oneWeekFromNow"
  | oneMonthAgo => "oneMonthAgo"
  | oneMonthFromNow => "oneMonthFromNow"
  | daysAgo => "daysAgo"
  | daysFromNow => "daysFromNow"
  | exactDate => "exactDate"
  | pastWeek => "pastWeek"
  | pastMonth => "pastMonth"
  | pastYear => "pastYear"
  | nextWeek => "nextWeek"
  | nextMonth => "nextMonth"
  | nextYear => "nextYear"
  | pastNumberOfDays => "pastNumberOfDays"
  | nextNumberOfDays => "nextNumberOfDays"

/-- Whether the mode names a window that begins or ends today. -/
def isRolling : DateMode → Bool
  | pastWeek | pastMonth | pastYear | nextWeek | nextMonth | nextYear
  | pastNumberOfDays | nextNumberOfDays => true
  | _ => false

/-- Whether the mode names one calendar day. -/
def isDay (m : DateMode) : Bool := !m.isRolling

end DateMode

structure DateFilter where
  mode : DateMode
  numberOfDays : Option Int := none
  exactDate : Option String := none
  deriving DecidableEq, Repr

namespace DateFilter

/-- Why a value is no date filter. -/
inductive ReadError
  | notAnObject (found : Json)
  | field (error : DecodeError)
  deriving Repr

def ReadError.message : ReadError → String
  | notAnObject found => "expected a date filter object, got " ++ found.text
  | field error => error.message

/-- A date filter of which some fields have been read. -/
structure Draft where
  mode : Option DateMode := none
  numberOfDays : Option Int := none
  exactDate : Option String := none

def Draft.setField (d : Draft) (key : String) (v : Json) : Except DecodeError Draft :=
  match key with
  | "mode" => do return { d with mode := some (← Json.decodeVariant DateMode.name DateMode.all v) }
  | "numberOfDays" => do return { d with numberOfDays := ← Json.decodeOption Json.decodeInt64 v }
  | "exactDate" => do return { d with exactDate := ← Json.decodeOption Json.decodeString v }
  | _ => return d

def decodeFields (fields : List (String × Json)) : Except DecodeError DateFilter := do
  let d ← fields.foldlM (fun d (key, v) => Draft.setField d key v) {}
  return ⟨← Json.required "mode" d.mode, d.numberOfDays, d.exactDate⟩

/-- Reads a date filter from an object; a text alone is an exact date. -/
def decode : Json → Except ReadError DateFilter
  | .str s => .ok ⟨.exactDate, none, some s⟩
  | .obj fields => (decodeFields fields).mapError .field
  | j => .error (.notAnObject j)

end DateFilter

end RowFilter
