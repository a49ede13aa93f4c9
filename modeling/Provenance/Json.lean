import Provenance.Decimal.Text
import Provenance.Text.Hexadecimal

/-!
JSON texts. `Json.read` accepts exactly the well-formed texts and keeps what a record needs to know
about them: numbers as written, strings with their escaped units, fields in order and with repeats.
-/

set_option autoImplicit false
set_option relaxedAutoImplicit false

namespace Provenance

/-- A part of a string: a character, or a unit of 16 bits written as an escape. -/
inductive JsonPiece where
  | char (c : Char)
  | unit (value : Nat)
deriving DecidableEq, Repr

inductive Json where
  | null
  | bool (value : Bool)
  | number (value : Numeral)
  | string (pieces : List JsonPiece)
  | array (items : List Json)
  | object (fields : List (List JsonPiece × Json))
deriving Repr

namespace JsonPiece

/-- The text of some pieces, if every unit is a character or belongs to a pair that is one. -/
def text? : List JsonPiece → Option (List Char)
  | [] => some []
  | char c :: rest => (text? rest).map (c :: ·)
  | unit value :: rest =>
    if value < 0xD800 ∨ 0xDFFF < value then (text? rest).map (Char.ofNat value :: ·)
    else if 0xDBFF < value then none
    else
      match rest with
      | unit low :: rest =>
        if 0xDC00 ≤ low ∧ low ≤ 0xDFFF then
          (text? rest).map (Char.ofNat (0x10000 + (value - 0xD800) * 0x400 + (low - 0xDC00)) :: ·)
        else none
      | _ => none

end JsonPiece

namespace Json

def isSpace (c : Char) : Bool := c == ' ' || c == '\t' || c == '\n' || c == '\r'

def skipSpaces (text : List Char) : List Char := text.dropWhile isSpace

/-- The unit that four hexadecimal digits name. -/
def unit? (a b c d : Char) : Option JsonPiece := do
  let a ← Text.hexValue? a
  let b ← Text.hexValue? b
  let c ← Text.hexValue? c
  let d ← Text.hexValue? d
  return .unit (((a * 16 + b) * 16 + c) * 16 + d)

/-- The character that a letter after a backslash stands for. -/
def escaped? : Char → Option Char
  | '"' => some '"'
  | '\\' => some '\\'
  | '/' => some '/'
  | 'b' => some '\x08'
  | 'f' => some '\x0c'
  | 'n' => some '\n'
  | 'r' => some '\r'
  | 't' => some '\t'
  | _ => none

/-- The pieces up to the closing quote, and what follows it. -/
def readString : List Char → Option (List JsonPiece × List Char)
  | [] => none
  | '"' :: rest => some ([], rest)
  | '\\' :: 'u' :: a :: b :: c :: d :: rest => do
    let piece ← unit? a b c d
    let (pieces, rest) ← readString rest
    return (piece :: pieces, rest)
  | '\\' :: c :: rest => do
    let c ← escaped? c
    let (pieces, rest) ← readString rest
    return (.char c :: pieces, rest)
  | c :: rest =>
    if c.toNat < 0x20 ∨ c = '\\' then none
    else do
      let (pieces, rest) ← readString rest
      return (.char c :: pieces, rest)

/-- A number without superfluous zeros: digits before a point, digits after it, an exponent. -/
def readNumber (text : List Char) : Option (Numeral × List Char) :=
  let (negative, rest) : Bool × List Char :=
    match text with
    | '-' :: rest => (true, rest)
    | rest => (false, rest)
  let whole := rest.takeWhile Char.isDigit
  let rest := rest.dropWhile Char.isDigit
  if whole.isEmpty || (whole.head? == some '0' && whole.length != 1) then none
  else
    let (fraction, rest) : Option (List Char) × List Char :=
      match rest with
      | '.' :: after => (some (after.takeWhile Char.isDigit), after.dropWhile Char.isDigit)
      | rest => (none, rest)
    if fraction == some [] then none
    else
      match Numeral.scanExponent rest with
      | (some exponent, rest) => some (⟨negative, whole, fraction, some exponent⟩, rest)
      | (none, rest) =>
        match rest with
        | 'e' :: _ | 'E' :: _ => none
        | rest => some (⟨negative, whole, fraction, none⟩, rest)

mutual

/-- A value after any spaces, and what follows it. -/
def readValue : (fuel : Nat) → List Char → Option (Json × List Char)
  | 0, _ => none
  | fuel + 1, text =>
    match skipSpaces text with
    | 'n' :: 'u' :: 'l' :: 'l' :: rest => some (.null, rest)
    | 't' :: 'r' :: 'u' :: 'e' :: rest => some (.bool true, rest)
    | 'f' :: 'a' :: 'l' :: 's' :: 'e' :: rest => some (.bool false, rest)
    | '"' :: rest => (readString rest).map fun (pieces, rest) ↦ (.string pieces, rest)
    | '[' :: rest =>
      match skipSpaces rest with
      | ']' :: rest => some (.array [], rest)
      | rest => (readItems fuel rest).map fun (items, rest) ↦ (.array items, rest)
    | '{' :: rest =>
      match skipSpaces rest with
      | '}' :: rest => some (.object [], rest)
      | rest => (readFields fuel rest).map fun (fields, rest) ↦ (.object fields, rest)
    | rest => (readNumber rest).map fun (numeral, rest) ↦ (.number numeral, rest)

/-- The items up to the closing bracket. -/
def readItems : (fuel : Nat) → List Char → Option (List Json × List Char)
  | 0, _ => none
  | fuel + 1, text =>
    match readValue fuel text with
    | none => none
    | some (item, rest) =>
      match skipSpaces rest with
      | ']' :: rest => some ([item], rest)
      | ',' :: rest => (readItems fuel rest).map fun (items, rest) ↦ (item :: items, rest)
      | _ => none

/-- The fields up to the closing brace. -/
def readFields : (fuel : Nat) → List Char → Option (List (List JsonPiece × Json) × List Char)
  | 0, _ => none
  | fuel + 1, text =>
    match skipSpaces text with
    | '"' :: rest =>
      match readString rest with
      | none => none
      | some (key, rest) =>
        match skipSpaces rest with
        | ':' :: rest =>
          match readValue fuel rest with
          | none => none
          | some (value, rest) =>
            match skipSpaces rest with
            | '}' :: rest => some ([(key, value)], rest)
            | ',' :: rest =>
              (readFields fuel rest).map fun (fields, rest) ↦ ((key, value) :: fields, rest)
            | _ => none
        | _ => none
    | _ => none

end

/-- The value that the whole text is. A value takes at most two calls per character. -/
def read (text : String) : Option Json :=
  let chars := text.toList
  match readValue (2 * chars.length + 2) chars with
  | some (json, rest) => if (skipSpaces rest).isEmpty then some json else none
  | none => none

/-! ## Parts of records -/

def text? : Json → Option String
  | string pieces => (JsonPiece.text? pieces).map String.ofList
  | _ => none

/-- A number written as an integer; minus zero is none. -/
def int? : Json → Option Int
  | number n =>
    if n.isInteger && !(n.negative && n.toInt == 0) then some n.toInt else none
  | _ => none

/-- An integer from `least` to `greatest`. -/
def intWithin? (least greatest : Int) (json : Json) : Option Int :=
  json.int?.bind fun i ↦ if least ≤ i ∧ i ≤ greatest then some i else none

/-- A natural number below a bound. -/
def natBelow? (bound : Nat) (json : Json) : Option Nat :=
  json.int?.bind fun i ↦ if 0 ≤ i ∧ i < bound then some i.toNat else none

/-- A name, or a record whose only field has that name and holds nothing. -/
def variant? {α : Type} (ofName? : String → Option α) : Json → Option α
  | string pieces => (string pieces).text?.bind ofName?
  | object [(key, null)] => (string key).text?.bind ofName?
  | _ => none

/-- The values of one field among those of a record. -/
def valuesOf (name : String) (fields : List (String × Json)) : List Json :=
  (fields.filter fun field ↦ field.1 == name).map (·.2)

/-- The values of the named fields, each given at most once: by name in an object, which may have
further fields, or in order in an array, which may not. -/
def fields? (names : List String) : Json → Option (List (Option Json))
  | object fields => do
    let fields ← fields.mapM fun (key, value) ↦ (string key).text?.map fun name ↦ (name, value)
    names.mapM fun name ↦
      match valuesOf name fields with
      | [] => some none
      | [value] => some (some value)
      | _ => none
  | array items =>
    if names.length < items.length then none
    else some (items.map some ++ List.replicate (names.length - items.length) none)
  | _ => none

/-- As `fields?`, with no field left out. -/
def record? (names : List String) (json : Json) : Option (List Json) := do
  let fields ← json.fields? names
  fields.mapM id

end Json

end Provenance
