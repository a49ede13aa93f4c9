/-!
Wall-clock times in the Gregorian calendar, extended in both directions to the years that a store
can hold, and their distance in seconds from the start of 1970.
-/

set_option autoImplicit false
set_option relaxedAutoImplicit false

namespace Provenance

/-- A wall-clock time. In a leap second, which counts as the second that it follows, the nanoseconds
go on from one second to two. -/
structure DateTime where
  year : Int
  month : Nat
  day : Nat
  hour : Nat
  minute : Nat
  second : Nat
  nano : Nat
deriving DecidableEq, Repr

namespace Calendar

def firstYear : Int := -262143

def lastYear : Int := 262142

def isLeap (year : Int) : Bool :=
  year % 4 == 0 && (year % 100 != 0 || year % 400 == 0)

def monthLength (year : Int) : Nat → Nat
  | 2 => if isLeap year then 29 else 28
  | 4 | 6 | 9 | 11 => 30
  | _ => 31

/-- Days from the first of January 1970. The count starts each year in March, so that the leap day
is the last of its year. -/
def dayNumber (year : Int) (month day : Nat) : Int :=
  let y := if month ≤ 2 then year - 1 else year
  let m := (month + 9) % 12
  365 * y + y / 4 - y / 100 + y / 400 + ((153 * m + 2) / 5 : Nat) + day - 719469

/-- The year that a day lies in. -/
def yearOf (number : Int) : Int :=
  let shifted := number + 719468
  let era := shifted / 146097
  let inEra := shifted % 146097
  let yearOfEra := (inEra - inEra / 1460 + inEra / 36524 - inEra / 146096) / 365
  let dayOfYear := inEra - (365 * yearOfEra + yearOfEra / 4 - yearOfEra / 100)
  era * 400 + yearOfEra + (if 306 ≤ dayOfYear then 1 else 0)

/-- Sunday is 0; the first of January 1970 was a Thursday. -/
def weekdayOf (number : Int) : Nat := ((number + 4) % 7).toNat

end Calendar

namespace DateTime

open Calendar

/-- The fields name a day and a time of day. -/
def isValid (t : DateTime) : Bool :=
  firstYear ≤ t.year && t.year ≤ lastYear &&
    1 ≤ t.month && t.month ≤ 12 && 1 ≤ t.day && t.day ≤ monthLength t.year t.month &&
    t.hour ≤ 23 && t.minute ≤ 59 && t.second ≤ 59 && t.nano < 2000000000

/-- Any second may have a leap second after it. -/
def isLeapSecond (t : DateTime) : Bool := 1000000000 ≤ t.nano

/-- The wall clock in whole seconds, read as if it stood at longitude zero. -/
def seconds (t : DateTime) : Int :=
  dayNumber t.year t.month t.day * 86400 + t.hour * 3600 + t.minute * 60 + t.second

/-- One hour earlier in whole seconds. To leave a leap second is to pass its end, so one that is
moved counts as the second after it. -/
def secondsAnHourEarlier (t : DateTime) : Int :=
  t.seconds + (if t.isLeapSecond then 1 else 0) - 3600

end DateTime

/-- The wall clock of the first and the last second of the calendar. -/
def Calendar.firstSecond : Int := Calendar.dayNumber Calendar.firstYear 1 1 * 86400

def Calendar.lastSecond : Int := Calendar.dayNumber Calendar.lastYear 12 31 * 86400 + 86399

/-- Whether a wall clock in seconds is one of the calendar. -/
def Calendar.holds (seconds : Int) : Bool :=
  Calendar.firstSecond ≤ seconds && seconds ≤ Calendar.lastSecond

end Provenance
