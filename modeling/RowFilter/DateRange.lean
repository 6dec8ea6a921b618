import RowFilter.DateFilter
import RowFilter.Calendar.Zone
/-!
# Date ranges

What a date filter means at an instant in a zone: the instants from the start of a first
day to the end of a last one. A day starts at the first instant its clock shows; where the
clock skips midnight, at the first of the quarter hours after it that the clock shows.
-/
namespace RowFilter

/-- Why a date filter has no range. -/
inductive DateRangeError
  | missingNumberOfDays (mode : DateMode)
  | invalidNumberOfDays (mode : DateMode) (value : Int)
  | missingExactDate
  | invalidExactDate (text : String)
  | outOfRange
  deriving DecidableEq, Repr

def DateRangeError.message : DateRangeError → String
  | missingNumberOfDays mode => mode.name ++ " requires numberOfDays"
  | invalidNumberOfDays mode value =>
    mode.name ++ " does not accept numberOfDays = " ++ toString value
  | missingExactDate => "exactDate requires a date"
  | invalidExactDate text => "invalid exact date: " ++ text
  | outOfRange => "date is out of range"

/-- The instants from `start` to `stop`, both included. -/
structure DateRange where
  start : Zoned
  stop : Zoned
  deriving DecidableEq, Repr

/-! ## Days -/

namespace Zone

/-- The seconds after midnight at which a day may start: the first three hours in quarter
hours. -/
def dayStarts : List Nat := (List.range 13).map (· * 900)

def startOfDay (z : Zone) (d : Date) : Except DateRangeError Zoned :=
  match dayStarts.findSome? fun s => z.earliest? (.atSecond d s 0) with
  | some t => .ok t
  | none => .error .outOfRange

/-- The last millisecond the clock shows on a date, or the one before the next day if the
clock skips it. -/
def endOfDay (z : Zone) (d : Date) : Except DateRangeError Zoned :=
  match z.latest? (.atSecond d 86399 999_000_000) with
  | some t => .ok t
  | none =>
    match d.addDays? 1 with
    | some next => (z.startOfDay next).map fun t => ⟨t.instant.pred, t.offset⟩
    | none => .error .outOfRange

end Zone

namespace DateFilter

def addDays (d : Date) (n : Int) : Except DateRangeError Date :=
  match d.addDays? n with
  | some d => .ok d
  | none => .error .outOfRange

def addMonths (d : Date) (n : Int) : Except DateRangeError Date :=
  match d.addMonths? n with
  | some d => .ok d
  | none => .error .outOfRange

/-- The number of days, which must be at least `least`. -/
def daysFrom (f : DateFilter) (least : Int) : Except DateRangeError Int :=
  match f.numberOfDays with
  | none => .error (.missingNumberOfDays f.mode)
  | some n => if n < least then .error (.invalidNumberOfDays f.mode n) else .ok n

/-- The date of an exact-date filter: a calendar date, or the date at an instant. -/
def dateIn (f : DateFilter) (z : Zone) : Except DateRangeError Date :=
  match f.exactDate.map Text.trim with
  | none | some "" => .error .missingExactDate
  | some s =>
    match Date.ofIsoText? s with
    | some d => .ok d
    | none =>
      match Zoned.ofRfc3339? s with
      | some t => .ok (z.dateAt t.instant)
      | none => .error (.invalidExactDate s)

/-- The first and the last day of a filter, as seen from a day. -/
def days (f : DateFilter) (z : Zone) (today : Date) : Except DateRangeError (Date × Date) :=
  let day (d : Except DateRangeError Date) := d.map fun d => (d, d)
  let since (d : Except DateRangeError Date) := d.map fun d => (d, today)
  let till (d : Except DateRangeError Date) := d.map fun d => (today, d)
  match f.mode with
  | .today => .ok (today, today)
  | .tomorrow => day (addDays today 1)
  | .yesterday => day (addDays today (-1))
  | .oneWeekAgo => day (addDays today (-7))
  | .oneWeekFromNow => day (addDays today 7)
  | .oneMonthAgo => day (addMonths today (-1))
  | .oneMonthFromNow => day (addMonths today 1)
  | .daysAgo => day (do addDays today (-(← f.daysFrom 1)))
  | .daysFromNow => day (do addDays today (← f.daysFrom 1))
  | .exactDate => day (f.dateIn z)
  | .pastWeek => since (addDays today (-7))
  | .pastMonth => since (addMonths today (-1))
  | .pastYear => since (addMonths today (-12))
  | .nextWeek => till (addDays today 7)
  | .nextMonth => till (addMonths today 1)
  | .nextYear => till (addMonths today 12)
  | .pastNumberOfDays => since (do addDays today (-(← f.daysFrom 0)))
  | .nextNumberOfDays => till (do addDays today (← f.daysFrom 0))

/-- The range of a filter at an instant in a zone. -/
def resolve (f : DateFilter) (z : Zone) (now : Instant) : Except DateRangeError DateRange := do
  let (first, last) ← f.days z (z.dateAt now)
  let start ← z.startOfDay first
  let stop ← z.endOfDay last
  return ⟨start, stop⟩

end DateFilter

end RowFilter
