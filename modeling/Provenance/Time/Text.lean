import Provenance.Time.Calendar
import Provenance.Decimal.Text
import Provenance.Text.Blank

/-!
Written times, `YYYY-MM-DD HH:MM:SS` with an optional fraction of a second. The writer pads every
field and signs years of more than four digits; the reader takes fields without padding and blanks
before any number. A leap second is written as the number after its second, and only 60 is read as
one.
-/

set_option autoImplicit false
set_option relaxedAutoImplicit false

namespace Provenance.DateTime

/-- A number padded with zeros on the left. -/
def padded (width n : Nat) : String :=
  let digits := Nat.toDigits 10 n
  String.ofList (List.replicate (width - digits.length) '0' ++ digits)

/-- Four digits for the years 0 to 9999; a sign and at least four digits for the others. -/
def yearText (year : Int) : String :=
  if 0 ≤ year ∧ year ≤ 9999 then padded 4 year.toNat
  else (if year < 0 then "-" else "+") ++ padded 4 year.natAbs

def dateText (t : DateTime) : String :=
  yearText t.year ++ "-" ++ padded 2 t.month ++ "-" ++ padded 2 t.day

def clockText (t : DateTime) : String :=
  padded 2 t.hour ++ ":" ++ padded 2 t.minute ++ ":" ++ padded 2 (t.second + t.nano / 1000000000)

/-- Three, six or nine digits of a second after a point, as few as are exact. -/
def fractionText (t : DateTime) : String :=
  let nano := t.nano % 1000000000
  if nano = 0 then ""
  else if nano % 1000000 = 0 then "." ++ padded 3 (nano / 1000000)
  else if nano % 1000 = 0 then "." ++ padded 6 (nano / 1000)
  else "." ++ padded 9 nano

def text (t : DateTime) : String := t.dateText ++ " " ++ t.clockText ++ t.fractionText

/-- The form in which a time is bound to a statement: whole seconds. -/
def boundText (t : DateTime) : String := t.dateText ++ " " ++ t.clockText

/-- The time that the bound form shows. The number after a second stands for its leap second only
if it is 60, and for the next second otherwise. -/
def written (t : DateTime) : DateTime :=
  if t.isLeapSecond then
    if t.second = 59 then { t with nano := 1000000000 }
    else { t with second := t.second + 1, nano := 0 }
  else { t with nano := 0 }

/-- The form used inside messages, with a letter between date and time. -/
def debugText (t : DateTime) : String := t.dateText ++ "T" ++ t.clockText ++ t.fractionText

/-- Up to `width` digits after any blanks, and the rest. -/
def digits (width : Option Nat) (text : List Char) : Option (Nat × List Char) :=
  let all := text.takeWhile Char.isDigit
  let taken := match width with
    | some width => all.take width
    | none => all
  if taken.isEmpty then none else some (Numeral.natOf taken, text.drop taken.length)

def field (text : List Char) : Option (Nat × List Char) :=
  digits (some 2) (Text.skipBlanks text)

/-- A year has one to four digits, or any number of them after a sign. -/
def yearField (text : List Char) : Option (Int × List Char) :=
  match Text.skipBlanks text with
  | '-' :: rest => (digits none rest).map fun (year, rest) ↦ (-(year : Int), rest)
  | '+' :: rest => (digits none rest).map fun (year, rest) ↦ ((year : Int), rest)
  | rest => (digits (some 4) rest).map fun (year, rest) ↦ ((year : Int), rest)

def mark (expected : Char) : List Char → Option (List Char)
  | c :: rest => if c = expected then some rest else none
  | [] => none

/-- Nanoseconds from the first nine digits of a fraction; further digits are dropped. -/
def fractionField : List Char → Option Nat
  | [] => some 0
  | '.' :: rest =>
    if rest.isEmpty || !rest.all Char.isDigit then none
    else
      let taken := rest.take 9
      some (Numeral.natOf taken * tenTo (9 - taken.length))
  | _ => none

def read? (text : List Char) : Option DateTime := do
  let (year, text) ← yearField text
  let text ← mark '-' text
  let (month, text) ← field text
  let text ← mark '-' text
  let (day, text) ← field text
  let (hour, text) ← field text
  let text ← mark ':' text
  let (minute, text) ← field text
  let text ← mark ':' text
  let (second, text) ← field text
  let nano ← fractionField text
  let t : DateTime :=
    if second = 60 then ⟨year, month, day, hour, minute, 59, 1000000000 + nano⟩
    else ⟨year, month, day, hour, minute, second, nano⟩
  if t.isValid then some t else none

/-- The time that the whole text is. -/
def ofText? (text : String) : Option DateTime := read? text.toList

end Provenance.DateTime
