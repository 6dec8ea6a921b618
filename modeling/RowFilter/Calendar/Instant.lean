import RowFilter.Calendar.Date
/-!
# Instants

An instant is a second of universal time and the nanoseconds since it began. In a
leap second the nanoseconds go on beyond one second of the second before it.

* `Instant.millisText`: the text in which SQLite and JSON cells hold instants.
* `Instant.nanosText`: the same with all nine digits of the fraction.
* `Zoned.ofRfc3339?`: the instant a text writes and the offset it names.
-/
namespace RowFilter

/-- A time on a clock that shows a date: whole seconds since 1970 as the clock shows
them, and nanoseconds. -/
structure LocalTime where
  seconds : Int
  nanos : Nat
  deriving DecidableEq, Repr

structure Instant where
  seconds : Int
  nanos : Nat
  deriving DecidableEq, Repr

namespace LocalTime

/-- The time of day `n` seconds after the midnight that begins a date. -/
def atSecond (d : Date) (n nanos : Nat) : LocalTime := ⟨d.dayNumber * 86400 + n, nanos⟩

def date (t : LocalTime) : Date := ⟨t.seconds / 86400⟩

def secondOfDay (t : LocalTime) : Nat := (t.seconds % 86400).toNat

/-- Date and time of day to the second; a leap second is second 60. -/
def text (t : LocalTime) : String :=
  let s := t.secondOfDay
  t.date.isoText ++ "T" ++ Date.padded 2 (s / 3600) ++ ":" ++ Date.padded 2 (s / 60 % 60) ++ ":"
    ++ Date.padded 2 (s % 60 + t.nanos / 1_000_000_000)

/-- The text with a fraction of a second of nine digits. -/
def nanosText (t : LocalTime) : String := t.text ++ "." ++ Date.padded 9 (t.nanos % 1_000_000_000)

end LocalTime

namespace Instant

/-- What a clock shows that is `offset` seconds ahead of universal time. -/
def toLocal (t : Instant) (offset : Int) : LocalTime := ⟨t.seconds + offset, t.nanos⟩

/-- The instant at which a clock that is `offset` seconds ahead shows a time, if its date
in universal time is supported. -/
def ofLocal? (t : LocalTime) (offset : Int) : Option Instant :=
  let utc : LocalTime := ⟨t.seconds - offset, t.nanos⟩
  if utc.date.isSupported then some ⟨utc.seconds, utc.nanos⟩ else none

/-- One millisecond earlier. -/
def pred (t : Instant) : Instant :=
  if 1_000_000 ≤ t.nanos then ⟨t.seconds, t.nanos - 1_000_000⟩
  else ⟨t.seconds - 1, t.nanos + 999_000_000⟩

/-- Universal time with three digits of the fraction, the rest cut off. -/
def millisText (t : Instant) : String :=
  (t.toLocal 0).text ++ "." ++ Date.padded 3 (t.nanos % 1_000_000_000 / 1_000_000) ++ "Z"

/-- Universal time with nine digits of the fraction. -/
def nanosText (t : Instant) : String := (t.toLocal 0).nanosText ++ "Z"

end Instant

/-- An instant and the offset of the clock that is read there, in seconds ahead of
universal time. -/
structure Zoned where
  instant : Instant
  offset : Int
  deriving DecidableEq, Repr

namespace Zoned

def localTime (z : Zoned) : LocalTime := z.instant.toLocal z.offset

/-! ## Reading -/

/-- Takes exactly `width` digits. -/
def takeFixed? (width : Nat) (cs : List Char) : Option (Nat × List Char) :=
  let ds := cs.take width
  if ds.length = width ∧ ds.all Char.isDigit then some (Decimal.digitsValue ds, cs.drop width)
  else none

/-- Takes one given character. -/
def takeChar? (c : Char) : List Char → Option (List Char)
  | d :: cs => if c = d then some cs else none
  | [] => none

/-- Nanoseconds from the digits of a fraction, those after the ninth cut off. -/
def fractionNanos (ds : List Char) : Nat :=
  let ds := ds.take 9
  Decimal.digitsValue ds * Nat.pow 10 (9 - ds.length)

/-- Takes a fraction if there is a point. -/
def takeFraction? : List Char → Option (Nat × List Char)
  | '.' :: cs =>
    match Decimal.takeDigits cs with
    | ([], _) => none
    | (ds, cs) => some (fractionNanos ds, cs)
  | cs => some (0, cs)

/-- Reads an offset up to the end: a letter for universal time, or hours and minutes
after a sign, which may be the minus sign of typography. -/
def readOffset? : List Char → Option Int
  | ['Z'] | ['z'] => some 0
  | c :: cs => do
    let sign : Int ← if c = '+' then some 1 else if c = '-' ∨ c = '\u2212' then some (-1) else none
    let (hours, cs) ← takeFixed? 2 cs
    let cs ← takeChar? ':' cs
    let (minutes, cs) ← takeFixed? 2 cs
    if cs.isEmpty ∧ hours ≤ 23 ∧ minutes ≤ 59 then some (sign * (hours * 3600 + minutes * 60))
    else none
  | [] => none

def ofRfc3339Chars? (cs : List Char) : Option Zoned := do
  let (year, cs) ← takeFixed? 4 cs
  let cs ← takeChar? '-' cs
  let (month, cs) ← takeFixed? 2 cs
  let cs ← takeChar? '-' cs
  let (day, cs) ← takeFixed? 2 cs
  let cs ← match cs with
    | 'T' :: cs | 't' :: cs | ' ' :: cs => some cs
    | _ => none
  let (hour, cs) ← takeFixed? 2 cs
  let cs ← takeChar? ':' cs
  let (minute, cs) ← takeFixed? 2 cs
  let cs ← takeChar? ':' cs
  let (second, cs) ← takeFixed? 2 cs
  let (nanos, cs) ← takeFraction? cs
  let offset ← readOffset? cs
  let date ← Date.ofCivil? ⟨year, month, day⟩
  if hour ≤ 23 ∧ minute ≤ 59 ∧ second ≤ 60 then
    let shown := hour * 3600 + minute * 60 + min second 59
    let leap := if second = 60 then 1_000_000_000 else 0
    let instant ← Instant.ofLocal? (.atSecond date shown (nanos + leap)) offset
    return ⟨instant, offset⟩
  else none

/-- The instant a text writes as RFC 3339 says, blanks around it aside. -/
def ofRfc3339? (s : String) : Option Zoned := ofRfc3339Chars? (Text.trimChars s.toList)

end Zoned

end RowFilter
