import RowFilter.Text.Blank
import RowFilter.Number.Decimal
/-!
# Calendar dates

A date of the proleptic Gregorian calendar, held as a number of days from
1 January 1970, so that dates compare and shift as integers do. `civil` gives its
year, month and day, `ofCivil` goes back.

* `year`, `civil`: the civil form of a date.
* `addDays?`, `addMonths?`: shifts that stay within the supported dates.
* `ofIsoText?`: the date a text writes as year, month and day.
-/
namespace RowFilter

/-- A day, counted from 1 January 1970. -/
structure Date where
  dayNumber : Int
  deriving DecidableEq, Repr

/-- A date as the calendar writes it. -/
structure Civil where
  year : Int
  month : Nat
  day : Nat
  deriving DecidableEq, Repr

namespace Date

instance : LE Date := ⟨fun a b => a.dayNumber ≤ b.dayNumber⟩
instance : LT Date := ⟨fun a b => a.dayNumber < b.dayNumber⟩

instance (a b : Date) : Decidable (a ≤ b) :=
  inferInstanceAs (Decidable (a.dayNumber ≤ b.dayNumber))

instance (a b : Date) : Decidable (a < b) :=
  inferInstanceAs (Decidable (a.dayNumber < b.dayNumber))

/-! ## Years and months -/

def isLeapYear (y : Int) : Bool := y % 4 = 0 && (y % 100 ≠ 0 || y % 400 = 0)

/-- The day number of 1 January of a year. -/
def yearStart (y : Int) : Int :=
  365 * (y - 1970) + ((y - 1) / 4 - (y - 1) / 100 + (y - 1) / 400 - 477)

def daysInMonth (leap : Bool) : Nat → Nat
  | 2 => if leap then 29 else 28
  | 4 | 6 | 9 | 11 => 30
  | _ => 31

/-- The days of a year before the first of a month, for months from 1. -/
def daysBeforeMonth (leap : Bool) : Nat → Nat
  | 0 | 1 => 0
  | m + 1 => daysBeforeMonth leap m + daysInMonth leap m

/-! ## Civil dates -/

/-- The year of a date. The mean length of a year gives it up to one. -/
def year (d : Date) : Int :=
  let y := 1970 + d.dayNumber * 400 / 146097
  if d.dayNumber < yearStart y then y - 1
  else if yearStart (y + 1) ≤ d.dayNumber then y + 1
  else y

/-- The last month from `m` down that begins on or before a day of the year. -/
def monthFrom (leap : Bool) (dayOfYear : Nat) : Nat → Nat
  | 0 => 1
  | m + 1 => if daysBeforeMonth leap (m + 1) ≤ dayOfYear then m + 1 else monthFrom leap dayOfYear m

def civil (d : Date) : Civil :=
  let y := d.year
  let dayOfYear := (d.dayNumber - yearStart y).toNat
  let m := monthFrom (isLeapYear y) dayOfYear 12
  ⟨y, m, dayOfYear - daysBeforeMonth (isLeapYear y) m + 1⟩

/-- The date of a year, month and day that the calendar has. -/
def ofCivil (c : Civil) : Date :=
  ⟨yearStart c.year + daysBeforeMonth (isLeapYear c.year) c.month + c.day - 1⟩

/-- Whether the calendar has a date of this year, month and day. -/
def isCivil (c : Civil) : Bool :=
  1 ≤ c.month && c.month ≤ 12 && 1 ≤ c.day && c.day ≤ daysInMonth (isLeapYear c.year) c.month

/-! ## Supported dates -/

/-- The supported dates lie in the years from -262143 to 262142. -/
def isSupported (d : Date) : Bool :=
  yearStart (-262143) ≤ d.dayNumber && d.dayNumber < yearStart 262143

def supported? (d : Date) : Option Date := if d.isSupported then some d else none

/-- The supported date of a year, month and day. -/
def ofCivil? (c : Civil) : Option Date := if isCivil c then supported? (ofCivil c) else none

def addDays? (d : Date) (n : Int) : Option Date := supported? ⟨d.dayNumber + n⟩

/-- The civil date `n` months later, on the last day of the month if the month has no
such day. -/
def shiftMonths (c : Civil) (n : Int) : Civil :=
  let months := 12 * c.year + (c.month - 1 : Nat) + n
  let y := months / 12
  let m := (months % 12).toNat + 1
  ⟨y, m, min c.day (daysInMonth (isLeapYear y) m)⟩

def addMonths? (d : Date) (n : Int) : Option Date := supported? (ofCivil (shiftMonths d.civil n))

/-! ## Text -/

/-- `n` in base ten with zeros in front up to a width. -/
def padded (width n : Nat) : String :=
  let ds := Nat.toDigits 10 n
  String.ofList (List.replicate (width - ds.length) '0' ++ ds)

/-- A year of four digits; outside of 0 to 9999 with a sign. -/
def yearText (y : Int) : String :=
  if y < 0 then "-" ++ padded 4 y.natAbs
  else if 9999 < y then "+" ++ padded 4 y.natAbs
  else padded 4 y.natAbs

def isoText (d : Date) : String :=
  let c := d.civil
  yearText c.year ++ "-" ++ padded 2 c.month ++ "-" ++ padded 2 c.day

/-- Takes the digits in front, at most `width` of them and at least one. -/
def takeNumber? (width : Nat) (cs : List Char) : Option (Nat × List Char) :=
  let ds := (cs.take width).takeWhile Char.isDigit
  if ds.isEmpty then none else some (Decimal.digitsValue ds, cs.drop ds.length)

/-- Takes a year after blanks: up to four digits, or any number of them after a sign. -/
def takeYear? (cs : List Char) : Option (Int × List Char) :=
  match Text.skipBlanks cs with
  | '-' :: cs => (takeNumber? cs.length cs).map fun (n, cs) => (-(n : Int), cs)
  | '+' :: cs => (takeNumber? cs.length cs).map fun (n, cs) => ((n : Int), cs)
  | cs => (takeNumber? 4 cs).map fun (n, cs) => ((n : Int), cs)

/-- Takes a hyphen, blanks and a number of up to two digits. -/
def takePart? : List Char → Option (Nat × List Char)
  | '-' :: cs => takeNumber? 2 (Text.skipBlanks cs)
  | _ => none

def ofIsoChars? (cs : List Char) : Option Date := do
  let (year, cs) ← takeYear? cs
  let (month, cs) ← takePart? cs
  let (day, cs) ← takePart? cs
  if cs.isEmpty then ofCivil? ⟨year, month, day⟩ else none

/-- The date a text writes as year, month and day with hyphens between them. Blanks may
stand around the text and before each number, and the numbers need no zeros in front. -/
def ofIsoText? (s : String) : Option Date := ofIsoChars? (Text.trimChars s.toList)

end Date

end RowFilter
