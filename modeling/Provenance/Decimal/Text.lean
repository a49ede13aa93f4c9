import Provenance.Decimal.Digits

/-!
Written numbers. `Binary64.text` is the shortest text that reads back, positional from `0.0001`
up to `10 ^ 16` and with an exponent elsewhere; `Numeral.scan` reads the longest number that a text
starts with, and `Binary64.ofText?` reads a text that is one number and nothing else.
-/

set_option autoImplicit false
set_option relaxedAutoImplicit false

namespace Provenance

namespace Decimal

/-- Digits around a point that stands after the digit of power zero, zeros filling the gaps. -/
def positional (x : Decimal) : String :=
  let digits := x.chars
  if 0 ≤ x.exponent then
    String.ofList (digits ++ List.replicate x.exponent.toNat '0') ++ ".0"
  else
    let places := (-x.exponent).toNat
    let padded := List.replicate (places + 1 - digits.length) '0' ++ digits
    let split := padded.length - places
    String.ofList (padded.take split) ++ "." ++ String.ofList (padded.drop split)

/-- One digit, the rest after a point if there is a rest, and the power of ten. -/
def scientific (x : Decimal) : String :=
  match x.chars with
  | [] => ""
  | [digit] => s!"{digit}e{x.magnitude}"
  | digit :: rest => s!"{digit}." ++ String.ofList rest ++ s!"e{x.magnitude}"

end Decimal

namespace Binary64

/-- Shortest text of a number, always with a fraction or an exponent. -/
def text (x : Binary64) : String :=
  if x.isNaN then "NaN"
  else
    let sign := if x.negative then "-" else ""
    if x.isInfinite then sign ++ "inf"
    else if x.significand = 0 then sign ++ "0.0"
    else
      let digits := x.shortest
      let power := digits.magnitude
      sign ++ (if -4 ≤ power ∧ power < 16 then digits.positional else digits.scientific)

end Binary64

/-- A number as written: sign, digits before and after the point, power of ten. -/
structure Numeral where
  negative : Bool
  whole : List Char
  fraction : Option (List Char)
  exponent : Option Int
deriving DecidableEq, Repr

namespace Numeral

/-- The value of a list of decimal digits. -/
def natOf (digits : List Char) : Nat :=
  digits.foldl (fun value digit ↦ 10 * value + (digit.toNat - '0'.toNat)) 0

/-- A sign, if the text starts with one, and the rest. -/
def sign : List Char → Bool × List Char
  | '-' :: rest => (true, rest)
  | '+' :: rest => (false, rest)
  | rest => (false, rest)

/-- An exponent, if the text starts with a whole one, and the rest. -/
def scanExponent (text : List Char) : Option Int × List Char :=
  match text with
  | mark :: rest =>
    if mark = 'e' ∨ mark = 'E' then
      let (negative, rest) := sign rest
      match rest.takeWhile Char.isDigit with
      | [] => (none, text)
      | digits =>
        let value : Int := natOf digits
        (some (if negative then -value else value), rest.dropWhile Char.isDigit)
    else (none, text)
  | [] => (none, text)

/-- The longest number that the text starts with, and what follows it. At least one digit stands
before or after the point. -/
def scan (text : List Char) : Option (Numeral × List Char) :=
  let (negative, rest) := sign text
  let whole := rest.takeWhile Char.isDigit
  let rest := rest.dropWhile Char.isDigit
  let (fraction, rest) : Option (List Char) × List Char :=
    match rest with
    | '.' :: after => (some (after.takeWhile Char.isDigit), after.dropWhile Char.isDigit)
    | _ => (none, rest)
  if whole.isEmpty && (fraction.getD []).isEmpty then none
  else
    let (exponent, rest) := scanExponent rest
    some (⟨negative, whole, fraction, exponent⟩, rest)

/-- Written with neither a point nor an exponent. -/
def isInteger (n : Numeral) : Bool :=
  n.fraction.isNone && n.exponent.isNone

/-- The value of a numeral without point and exponent. -/
def toInt (n : Numeral) : Int :=
  let value : Int := natOf n.whole
  if n.negative then -value else value

/-- The binary number nearest to the numeral. -/
def toBinary (n : Numeral) : Binary64 :=
  let fraction := n.fraction.getD []
  .ofDecimal n.negative (natOf (n.whole ++ fraction)) (n.exponent.getD 0 - fraction.length)

end Numeral

/-- The number that the whole text is: a numeral, or a name of an infinity or of no number. -/
def Binary64.ofText? (text : String) : Option Binary64 :=
  match Numeral.scan text.toList with
  | some (numeral, []) => some numeral.toBinary
  | some _ => none
  | none =>
    let (negative, name) := Numeral.sign text.toList
    let name := String.ofList (name.map Char.toLower)
    if name == "inf" || name == "infinity" then some (.infinity negative)
    else if name == "nan" then some .nan
    else none

end Provenance
