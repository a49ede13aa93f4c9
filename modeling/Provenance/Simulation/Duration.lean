import Provenance.Decimal.Text
import Provenance.Text.Blank
import Provenance.Word

/-!
Written durations, `2min 3s` or `1.5h`: numbers with units, blanks anywhere but inside a unit.
-/

set_option autoImplicit false
set_option relaxedAutoImplicit false

namespace Provenance.Simulation

/-- A length of time. -/
structure Duration where
  seconds : Nat
  nanoseconds : Nat
deriving DecidableEq, Repr

/-- A unit, in nanoseconds. -/
structure TimeUnit where
  names : List String
  length : Nat
deriving DecidableEq, Repr

namespace TimeUnit

def second : Nat := 1000000000

/-- A month is a twelfth of a year of 365.25 days, in whole minutes. -/
def all : List TimeUnit :=
  [⟨["nanos", "nsec", "ns"], 1⟩, ⟨["usec", "us", "µs"], 1000⟩,
    ⟨["millis", "msec", "ms"], 1000000⟩, ⟨["seconds", "second", "secs", "sec", "s"], second⟩,
    ⟨["minutes", "minute", "min", "mins", "m"], 60 * second⟩,
    ⟨["hours", "hour", "hrs", "hr", "h"], 3600 * second⟩,
    ⟨["days", "day", "d"], 86400 * second⟩, ⟨["weeks", "week", "wks", "wk", "w"], 604800 * second⟩,
    ⟨["months", "month", "M"], 2630016 * second⟩,
    ⟨["years", "year", "yrs", "yr", "y"], 31557600 * second⟩]

def ofName? (name : String) : Option TimeUnit := all.find? fun u ↦ u.names.contains name

end TimeUnit

namespace Duration

def zero : Duration := ⟨0, 0⟩

/-- Whole milliseconds, as many as a word of 64 bits can tell. -/
def milliseconds (d : Duration) : Nat :=
  min (d.seconds * 1000 + d.nanoseconds / 1000000) (Word.count64 - 1)

/-- Adds seconds and nanoseconds, all sums within a word. -/
def add? (d : Duration) (seconds nanoseconds : Nat) : Option Duration := do
  let nanos ← Word.ofNat? (d.nanoseconds + nanoseconds)
  let seconds ← Word.ofNat? (seconds + nanos / TimeUnit.second)
  let seconds ← Word.ofNat? (d.seconds + seconds)
  return ⟨seconds, nanos % TimeUnit.second⟩

/-- Adds a number of units. Units from a second up count in seconds, those below in nanoseconds. -/
def addUnits? (d : Duration) (n : Nat) (u : TimeUnit) : Option Duration :=
  if u.length < TimeUnit.second then do
    let nanos ← Word.ofNat? (n * u.length)
    d.add? 0 nanos
  else do
    let seconds ← Word.ofNat? (n * (u.length / TimeUnit.second))
    d.add? seconds 0

/-- Adds a fraction of a unit, of units from an hour up in whole seconds. -/
def addFraction? (d : Duration) (numerator denominator : Nat) (u : TimeUnit) : Option Duration :=
  if u.length < 3600 * TimeUnit.second then do
    let n ← if u.length = 1 then some numerator else Word.ofNat? (numerator * u.length)
    d.add? 0 (n / denominator)
  else do
    let n ← Word.ofNat? (numerator * (u.length / TimeUnit.second))
    d.add? (n / denominator) 0

/-- A letter that a unit may have. -/
def isUnitChar (c : Char) : Bool := c.isAlpha || c == 'µ'

/-- Digits, blanks between them left out, and what follows. -/
def scanDigits (text : List Char) : List Char × List Char :=
  ((text.takeWhile fun c ↦ c.isDigit || Text.isBlank c).filter Char.isDigit,
    text.dropWhile fun c ↦ c.isDigit || Text.isBlank c)

/-- The number that some digits write, as a word. -/
def number? (digits : List Char) : Option Nat := Word.ofNat? (Numeral.natOf digits)

/-- Digits after a point, as a numerator and a power of ten, both words. -/
def fraction? (digits : List Char) : Option (Nat × Nat) := do
  if digits.isEmpty then none
  else
    let numerator ← number? digits
    let denominator ← Word.ofNat? (tenTo digits.length)
    return (numerator, denominator)

/-- Adds the durations that the text names; each takes at least one character. -/
def sum? : (fuel : Nat) → Duration → List Char → Option Duration
  | 0, _, _ => none
  | fuel + 1, d, text => do
    let n ← number? (scanDigits text).1
    let (fraction, rest) ←
      (match (scanDigits text).2 with
        | '.' :: rest =>
          (fraction? (scanDigits rest).1).map fun fraction ↦
            (some fraction, (scanDigits rest).2)
        | rest => some (none, rest))
    let u ← TimeUnit.ofName? (String.ofList (rest.takeWhile isUnitChar))
    let d ← d.addUnits? n u
    let d ← (match fraction with
      | some (numerator, denominator) => d.addFraction? numerator denominator u
      | none => some d)
    match Text.skipBlanks (rest.dropWhile isUnitChar) with
    | [] => return d
    | c :: rest => if c.isDigit then sum? fuel d (c :: rest) else none

/-- The duration that the whole text is. Only nothing at all needs no unit. -/
def ofText? (text : String) : Option Duration :=
  if text == "0" then some zero
  else
    match Text.skipBlanks text.toList with
    | c :: rest => if c.isDigit then sum? text.length zero (c :: rest) else none
    | [] => none

end Duration

end Provenance.Simulation
