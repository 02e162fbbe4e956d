/-!
Points in time.

A moment counts microseconds from the first instant of the year 1 on the proleptic Gregorian calendar.
It may carry the distance of its clock from universal time; a moment without one is *unanchored*, and
the two sorts cannot be ordered against each other. The service's own clock is unanchored.

`Date` is the calendar view: `Date.toDays` and `Date.ofDays` convert between a calendar date and the
number of days since the first.
-/

namespace ChatFlow

/-! ## The calendar -/

/-- A calendar date. -/
structure Date where
  year : Nat
  month : Nat
  day : Nat
deriving Repr, DecidableEq

namespace Date

/-- Every fourth year is a leap year, except full centuries that are not multiples of 400. -/
def isLeap (year : Nat) : Bool :=
  year % 4 == 0 && (year % 100 != 0 || year % 400 == 0)

/-- The number of days of a month. -/
def monthLength (year month : Nat) : Nat :=
  match month with
  | 2 => if isLeap year then 29 else 28
  | 4 | 6 | 9 | 11 => 30
  | _ => 31

/-- Days of a common year before the first of the month. -/
def daysBeforeMonth (month : Nat) : Nat :=
  [0, 31, 59, 90, 120, 151, 181, 212, 243, 273, 304, 334].getD (month - 1) 0

/-- Days from 0001-01-01 to the first of January of the year. -/
def daysBeforeYear (year : Nat) : Nat :=
  let y := year - 1
  y * 365 + y / 4 - y / 100 + y / 400

/-- Days from 0001-01-01 to the date. -/
def toDays (d : Date) : Nat :=
  daysBeforeYear d.year + daysBeforeMonth d.month
    + (if d.month > 2 && isLeap d.year then 1 else 0) + (d.day - 1)

/-- The date names a day that exists, in the years 1 to 9999. -/
def isValid (d : Date) : Bool :=
  1 ≤ d.year && d.year ≤ 9999 && 1 ≤ d.month && d.month ≤ 12 && 1 ≤ d.day
    && d.day ≤ monthLength d.year d.month

/-- The month and day of the zero-based day of a year. -/
def ofDayOfYear (year dayOfYear : Nat) : Date :=
  let leapDay := if isLeap year then 1 else 0
  let starts := (List.range 12).map fun i => daysBeforeMonth (i + 1) + if i ≥ 2 then leapDay else 0
  let month := (starts.filter (· ≤ dayOfYear)).length
  ⟨year, month, dayOfYear - starts.getD (month - 1) 0 + 1⟩

/-- The date that lies the given number of days after 0001-01-01. -/
def ofDays (days : Nat) : Date :=
  let quadCenturies := days / 146097
  let d := days % 146097
  let centuries := min (d / 36524) 3
  let d := d - centuries * 36524
  let quads := d / 1461
  let d := d % 1461
  let years := min (d / 365) 3
  ofDayOfYear (quadCenturies * 400 + centuries * 100 + quads * 4 + years + 1) (d - years * 365)

end Date

/-! ## Moments -/

/-- A point in time, by its local clock and, if known, that clock's distance from universal time. -/
structure Moment where
  /-- Microseconds on the local clock since the first instant of the year 1. -/
  micros : Nat
  /-- Seconds by which the local clock is ahead of universal time. -/
  offset : Option Int := none
deriving Repr, DecidableEq

namespace Moment

/-- Microseconds in a second. -/
def perSecond : Nat := 1000000

/-- Microseconds in a day. -/
def perDay : Nat := 86400 * perSecond

/-- The first instant after the last moment of the year 9999. -/
def endOfTime : Nat := 3652059 * perDay

/-- The moment of a date and a time of day in microseconds. -/
def ofParts (d : Date) (timeOfDay : Nat) (offset : Option Int) : Moment :=
  ⟨d.toDays * perDay + timeOfDay, offset⟩

/-- The calendar date of the moment's local clock. -/
def date (m : Moment) : Date :=
  Date.ofDays (m.micros / perDay)

/-- Microseconds since the local midnight. -/
def timeOfDay (m : Moment) : Nat :=
  m.micros % perDay

/-- The moment a number of microseconds later; `none` outside the years 1 to 9999. -/
def shift? (m : Moment) (delta : Int) : Option Moment :=
  let t := (m.micros : Int) + delta
  if 0 ≤ t && t < endOfTime then some { m with micros := t.toNat } else none

/-- Microseconds of universal time; an unanchored moment counts as if its clock showed it. -/
def universal (m : Moment) : Int :=
  (m.micros : Int) - m.offset.getD 0 * perSecond

/-- The order of two moments of the same sort; an anchored and an unanchored one have none. -/
def compare? (a b : Moment) : Option Ordering :=
  if a.offset.isSome == b.offset.isSome then some (compare a.universal b.universal) else none

/-! ## Written forms -/

/-- The decimal numeral of a number, padded with zeros on the left. -/
def padded (width n : Nat) : String :=
  let digits := Nat.toDigits 10 n
  String.ofList (List.replicate (width - digits.length) '0' ++ digits)

/-- Year, month and day with hyphens. -/
def dateText (m : Moment) : String :=
  let d := m.date
  padded 4 d.year ++ "-" ++ padded 2 d.month ++ "-" ++ padded 2 d.day

/-- The whole seconds of a time of day in hours, minutes and seconds, with colons. -/
def clockText (seconds : Nat) : String :=
  padded 2 (seconds / 3600) ++ ":" ++ padded 2 (seconds / 60 % 60) ++ ":" ++ padded 2 (seconds % 60)

/-- Hours, minutes and seconds, and six decimals of a second if they are not all zero. -/
def timeText (m : Moment) : String :=
  let fraction := m.timeOfDay % perSecond
  clockText (m.timeOfDay / perSecond) ++ if fraction == 0 then "" else "." ++ padded 6 fraction

/-- The distance from universal time with sign, hours and minutes, and seconds if there are any. -/
def offsetText (seconds : Int) : String :=
  let s := seconds.natAbs
  (if seconds < 0 then "-" else "+") ++ padded 2 (s / 3600) ++ ":" ++ padded 2 (s / 60 % 60)
    ++ if s % 60 == 0 then "" else ":" ++ padded 2 (s % 60)

/-- Date and time joined by `separator`, followed by the offset of an anchored moment. -/
def render (m : Moment) (separator : String) : String :=
  m.dateText ++ separator ++ m.timeText ++ (m.offset.map offsetText).getD ""

/-- The interchange form: a capital T between date and time. -/
def isoText (m : Moment) : String :=
  m.render "T"

/-- The form for people: a space between date and time. -/
def spacedText (m : Moment) : String :=
  m.render " "

end Moment

end ChatFlow
