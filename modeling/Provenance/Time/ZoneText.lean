import Provenance.Time.Zone
import Provenance.Decimal.Text

/-!
Zones written as `STD offset DST offset , start , end`: names are letters or stand in angle
brackets, offsets count hours west, the daylight offset defaults to one hour ahead, and a change is
`Mm.w.d` with an optional time of day that defaults to two.
-/

set_option autoImplicit false
set_option relaxedAutoImplicit false

namespace Provenance.ZoneText

/-- A zone name and the rest. -/
def name : List Char → Option (List Char)
  | '<' :: rest =>
    match rest.dropWhile (· != '>') with
    | _ :: after => some after
    | [] => none
  | text =>
    if (text.takeWhile Char.isAlpha).isEmpty then none else some (text.dropWhile Char.isAlpha)

def number (text : List Char) : Option (Nat × List Char) :=
  let digits := text.takeWhile Char.isDigit
  if digits.isEmpty then none else some (Numeral.natOf digits, text.dropWhile Char.isDigit)

/-- A part `:nn`, zero when it is missing. -/
def part : List Char → Option (Nat × List Char)
  | ':' :: rest => number rest
  | text => some (0, text)

/-- Hours, minutes and seconds with a sign, in seconds. -/
def clock (text : List Char) : Option (Int × List Char) := do
  let (negative, text) := Numeral.sign text
  let (hours, text) ← number text
  let (minutes, text) ← part text
  let (seconds, text) ← part text
  let value : Int := hours * 3600 + minutes * 60 + seconds
  some (if negative then -value else value, text)

def literal (expected : Char) : List Char → Option (List Char)
  | c :: rest => if c = expected then some rest else none
  | [] => none

def change (text : List Char) : Option (YearlyChange × List Char) := do
  let text ← literal ',' text
  let text ← literal 'M' text
  let (month, text) ← number text
  let text ← literal '.' text
  let (week, text) ← number text
  let text ← literal '.' text
  let (weekday, text) ← number text
  match text with
  | '/' :: text =>
    let (time, text) ← clock text
    some (⟨month, week, weekday, time⟩, text)
  | text => some (⟨month, week, weekday, 7200⟩, text)

def read (text : List Char) : Option Zone := do
  let text ← name text
  let (west, text) ← clock text
  if text.isEmpty then return ⟨-west, none⟩
  let text ← name text
  let (offset, text) ←
    match text with
    | ',' :: _ => some (-west + 3600, text)
    | text => (clock text).map fun (west, text) ↦ (-west, text)
  let (start, text) ← change text
  let (stop, text) ← change text
  if text.isEmpty then some ⟨-west, some ⟨offset, start, stop⟩⟩ else none

end Provenance.ZoneText

namespace Provenance

/-- The zone that a text describes; universal time if it describes none. -/
def Zone.ofText (text : String) : Zone := (ZoneText.read text.toList).getD .utc

end Provenance
