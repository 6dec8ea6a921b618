import RowFilter.Calendar.Instant
/-!
# Time zones

A zone is an offset from universal time that changes at given instants. The local
times under one offset make a span; a local time may lie in two spans, where the
clock was set back, or in none, where it was set forward.
-/
namespace RowFilter

/-- From this second on, counted from 1970, the clock is `offset` seconds ahead of
universal time. -/
structure Transition where
  second : Int
  offset : Int
  deriving DecidableEq, Repr

/-- Whether each transition is later than the one before it. -/
def Transition.ascend : List Transition → Bool
  | t :: u :: ts => t.second < u.second && ascend (u :: ts)
  | _ => true

structure Zone where
  name : String
  /-- The offset before the first transition. -/
  baseOffset : Int
  /-- The changes of the offset. -/
  transitions : List Transition
  /-- The changes stand in order of time. -/
  ascending : Transition.ascend transitions = true := by decide +kernel
  deriving DecidableEq, Repr

namespace Zone

/-- A zone whose offset never changes. -/
def fixed (name : String) (offset : Int) : Zone := { name, baseOffset := offset, transitions := [] }

def utc : Zone := fixed "UTC" 0

/-- The zones there are, by their names. -/
abbrev Database := String → Option Zone

/-- The offset in force at a second of universal time, starting from `offset`. -/
def offsetFrom (second : Int) : Int → List Transition → Int
  | offset, [] => offset
  | offset, t :: ts => if second < t.second then offset else offsetFrom second t.offset ts

/-- The offset in force at an instant. -/
def offsetAt (z : Zone) (t : Instant) : Int := offsetFrom t.seconds z.baseOffset z.transitions

/-- The date the zone's clock shows at an instant. -/
def dateAt (z : Zone) (t : Instant) : Date := (t.toLocal (z.offsetAt t)).date

/-- The offsets of the spans that a local second lies in. `since` is the instant from
which `offset` holds, and none if it has always held. -/
def offsetsFrom (second : Int) (since : Option Int) (offset : Int) :
    List Transition → List Int
  | [] => if since.all (· + offset ≤ second) then [offset] else []
  | t :: ts =>
    let rest := offsetsFrom second (some t.second) t.offset ts
    if since.all (· + offset ≤ second) && second < t.second + offset then offset :: rest else rest

/-- The offsets under which the clock shows a time, in order of time. -/
def offsetsOf (z : Zone) (t : LocalTime) : List Int :=
  offsetsFrom t.seconds none z.baseOffset z.transitions

/-- The instants at which the clock shows a time, in order. One that is out of the
supported range takes the others with it. -/
def readings (z : Zone) (t : LocalTime) : List Zoned :=
  ((z.offsetsOf t).mapM fun offset =>
    (Instant.ofLocal? t offset).map fun i => Zoned.mk i offset).getD []

/-- The first instant at which the clock shows a time. -/
def earliest? (z : Zone) (t : LocalTime) : Option Zoned := (z.readings t).head?

/-- The last instant at which the clock shows a time. -/
def latest? (z : Zone) (t : LocalTime) : Option Zoned := (z.readings t).getLast?

end Zone

end RowFilter
