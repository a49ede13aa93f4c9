import Provenance.Time.Calendar

/-!
Local time. A zone has a standard offset and perhaps a daylight offset in force between two yearly
changes; `Zone.classify` says whether a wall clock was shown once, twice or never, and
`Zone.toEpoch` picks one instant for it.
-/

set_option autoImplicit false
set_option relaxedAutoImplicit false

namespace Provenance

/-- A yearly change on a weekday of a week of a month, at a time of day in seconds. Week 5 is the
last one. -/
structure YearlyChange where
  month : Nat
  week : Nat
  weekday : Nat
  time : Int
deriving DecidableEq, Repr

namespace YearlyChange

open Calendar

/-- The day of the change in a year. -/
def day (change : YearlyChange) (year : Int) : Int :=
  let first := dayNumber year change.month 1
  let offset := (change.weekday + 7 - weekdayOf first) % 7 + 7 * (change.week - 1)
  let length := monthLength year change.month
  first + (if offset < length then offset else offset - 7 : Nat)

/-- The wall clock of the change in a year, in seconds. -/
def seconds (change : YearlyChange) (year : Int) : Int :=
  change.day year * 86400 + change.time

end YearlyChange

/-- Daylight saving time: its offset in seconds east, and when it starts and ends. -/
structure Daylight where
  offset : Int
  start : YearlyChange
  stop : YearlyChange
deriving DecidableEq, Repr

/-- A zone by its offsets in seconds east. -/
structure Zone where
  standard : Int
  daylight : Option Daylight
deriving DecidableEq, Repr

/-- How often a wall clock is shown: once or twice, with the offsets in force, or never. -/
inductive Shown where
  | once (offset : Int)
  | twice (first second : Int)
  | never
deriving DecidableEq, Repr

namespace Zone

def utc : Zone := ⟨0, none⟩

/-- Classifies a wall clock of a given year. The four boundaries belong to the intervals as the
inequalities say, which is not symmetric. -/
def classify (zone : Zone) (year : Int) (clock : Int) : Shown :=
  match zone.daylight with
  | none => .once zone.standard
  | some daylight =>
    let std := zone.standard
    let dst := daylight.offset
    let s := daylight.start.seconds year
    let s' := s + (dst - std)
    let e := daylight.stop.seconds year
    let e' := e - (dst - std)
    let startsFirst := daylight.start.day year < daylight.stop.day year
    if std = dst then .once std
    else if std < dst then
      if startsFirst then
        if clock ≤ s then .once std
        else if clock < s' then .never
        else if clock < e' then .once dst
        else if clock ≤ e then .twice std dst
        else .once std
      else
        if clock < e' then .once dst
        else if clock ≤ e then .twice std dst
        else if clock < s then .once std
        else if clock < s' then .never
        else .once dst
    else
      if startsFirst then
        if clock < s' then .once std
        else if clock ≤ s then .twice dst std
        else if clock < e then .once dst
        else if clock < e' then .never
        else .once std
      else
        if clock ≤ e then .once dst
        else if clock < e' then .never
        else if clock < s' then .once std
        else if clock ≤ s then .twice dst std
        else .once dst

/-- The instant `clock - offset`, unless it lies outside the calendar. -/
def instant? (clock offset : Int) : Option Int :=
  if Calendar.holds (clock - offset) then some (clock - offset) else none

/-- The instants at which the zone shows a wall clock of a year, the preferred one last: none if it
is skipped or if an instant lies outside the calendar. -/
def instants (zone : Zone) (year : Int) (clock : Int) : List Int :=
  match zone.classify year clock with
  | .never => []
  | .once offset => (instant? clock offset).toList
  | .twice first second =>
    match instant? clock first, instant? clock second with
    | some a, some b => [a, b]
    | _, _ => []

/-- Seconds since the epoch of a local time. A time shown twice is taken at the second offset; a
time that is not shown is read an hour earlier and moved back, or as universal time if that one is
not shown either. There is no answer when the hour before is outside the calendar. -/
def toEpoch (zone : Zone) (t : DateTime) : Option Int :=
  match (zone.instants t.year t.seconds).getLast? with
  | some instant => some instant
  | none =>
    let earlier := t.secondsAnHourEarlier
    if Calendar.holds earlier then
      match (zone.instants (Calendar.yearOf (earlier / 86400)) earlier).getLast? with
      | some instant => some (instant + 3600)
      | none => some t.seconds
    else none

end Zone

end Provenance
