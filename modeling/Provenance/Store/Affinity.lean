import Provenance.Value
import Provenance.Word

/-!
What a column makes of a value. A text column writes numbers out; a numeric column reads texts that
are wholly numbers and turns whole reals into integers. Both leave everything else as it is.
-/

set_option autoImplicit false
set_option relaxedAutoImplicit false

namespace Provenance

namespace Binary64

/-- The decimal of the leading `count` of 17 digits. -/
def leading (digits : Decimal) (count : Nat) (increment : Nat) : Decimal :=
  ⟨digits.digits / tenTo (17 - count) + increment, digits.exponent + (17 - count : Nat)⟩

/-- The digits that a store writes: 17 of them, or those before a run of nines or zeros near their
end if they read back. -/
def storedDigits (x : Binary64) : Decimal :=
  let digits := x.significant 17
  let chars := digits.chars
  let readsBack (candidate : Decimal) : Bool :=
    Binary64.ofDecimal x.negative candidate.digits candidate.exponent == x
  let run (c : Char) (stop : Nat) : Nat :=
    stop - ((chars.take stop).reverse.takeWhile (· == c)).length
  let shorter :=
    if (chars.drop 14).take 2 == ['9', '9'] then leading digits (run '9' 14) 1
    else if 0 < digits.exponent || (chars.drop 13).take 3 == ['0', '0', '0'] then
      leading digits (run '0' 13) 0
    else digits
  (if readsBack shorter then shorter else digits).strip 40

/-- A power of ten with a sign and at least two digits. -/
def exponentText (power : Int) : String :=
  let digits := Nat.toDigits 10 power.natAbs
  (if power < 0 then "e-" else "e+") ++
    String.ofList (List.replicate (2 - digits.length) '0' ++ digits)

/-- A real as a text column holds it: positional from `0.0001` up to `10 ^ 17`. -/
def storedText (x : Binary64) : String :=
  if x.isNaN then ""
  else if x.significand = 0 then "0.0"
  else
    let sign := if x.negative then "-" else ""
    if x.isInfinite then sign ++ "Inf"
    else
      let digits := x.storedDigits
      let power := digits.magnitude
      if -4 ≤ power ∧ power ≤ 16 then sign ++ digits.positional
      else
        match digits.chars with
        | [] => sign
        | first :: rest =>
          let rest := if rest.isEmpty then ['0'] else rest
          sign ++ String.ofList (first :: '.' :: rest) ++ exponentText power

end Binary64

namespace Value

def fitsColumn (i : Int) : Bool := Word.least ≤ i && i ≤ Word.greatest

/-- As stored in a text column. -/
def inTextColumn : Value → Value
  | int i => text (toString i)
  | real x => text x.storedText
  | value => value

/-- A real as stored in a numeric column; the two ends of the range stay reals. -/
def ofReal (x : Binary64) : Value :=
  match x.toInt? with
  | some i => if Word.least < i ∧ i < Word.greatest then int i else real x
  | none => real x

def isSpace (c : Char) : Bool :=
  c == ' ' || (9 ≤ c.toNat && c.toNat ≤ 13)

/-- The number that a text is but for spaces around it. -/
def numberOf? (s : String) : Option Value :=
  match Numeral.scan (s.toList.dropWhile isSpace) with
  | some (numeral, rest) =>
    if rest.all isSpace then
      if numeral.isInteger && fitsColumn numeral.toInt then some (int numeral.toInt)
      else some (ofReal numeral.toBinary)
    else none
  | none => none

/-- As stored in a numeric column. -/
def inNumericColumn : Value → Value
  | text s => (numberOf? s).getD (text s)
  | real x => ofReal x
  | value => value

/-- The row id that a value compares equal to, if there is one. -/
def rowId? (value : Value) : Option Nat :=
  match value.inNumericColumn with
  | int i => if 0 ≤ i then some i.toNat else none
  | _ => none

/-- Whether a text column equals a value. Nothing equals null. -/
def equalsText (column value : Value) : Bool :=
  !value.isNull && column == value.inTextColumn

/-- Whether a numeric column equals a value. -/
def equalsNumber (column value : Value) : Bool :=
  !value.isNull && column == value.inNumericColumn

/-- Whether a numeric column holds a number below `limit`. -/
def isBelow (column : Value) (limit : Int) : Bool :=
  match column with
  | int i => i < limit
  | real x => if x.isInfinite then x.negative else x.ltInt limit
  | _ => false

/-- The text that a pattern match sees in a value, if it sees one. -/
def patternText? : Value → Option String
  | null => none
  | int i => some (toString i)
  | real x => some x.storedText
  | text s => some s
  | timestamp t => some t.boundText
  | blob bytes | garbled ⟨bytes, _⟩ =>
    let array := ByteArray.mk bytes.toArray
    some ((String.fromUTF8? array).getD (String.ofList (bytes.map fun b ↦ Char.ofNat b.toNat)))

/-- The number that a value stands for in a sum: texts and blobs count as the number they start
with, and as zero if they start with none. -/
def asNumber : Value → Value
  | null => null
  | int i => int i
  | real x => real x
  | text s => ofPrefix s.toList
  | timestamp t => ofPrefix t.boundText.toList
  | blob bytes | garbled ⟨bytes, _⟩ => ofPrefix (bytes.map fun b ↦ Char.ofNat b.toNat)
where
  ofPrefix (chars : List Char) : Value :=
    match Numeral.scan (chars.dropWhile isSpace) with
    | some (numeral, _) =>
      if numeral.isInteger && fitsColumn numeral.toInt then int numeral.toInt
      else real numeral.toBinary
    | none => int 0

/-- One more. A sum that leaves the range of integers is a real. -/
def successor (value : Value) : Value :=
  match value.asNumber with
  | int i =>
    if fitsColumn (i + 1) then int (i + 1)
    else real (Binary64.add (Binary64.ofInt i) (Binary64.ofInt 1))
  | real x =>
    let sum := Binary64.add x (Binary64.ofInt 1)
    if sum.isNaN then null else real sum
  | _ => null

/-- A parameter as a store takes it: times written out, and what is no number left out. -/
def asParameter (value : Value) : Value :=
  match value.bound with
  | real x => if x.isNaN then null else real x
  | value => value

end Value

end Provenance
