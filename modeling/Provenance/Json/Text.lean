import Provenance.Json

/-!
JSON values as texts without spaces. In strings, quotes, backslashes and control characters are
escaped; so is a unit that is part of no character.
-/

set_option autoImplicit false
set_option relaxedAutoImplicit false

namespace Provenance

/-- The characters of a number as written. -/
def Numeral.chars (n : Numeral) : List Char :=
  (if n.negative then ['-'] else []) ++ n.whole ++
    (match n.fraction with
      | some digits => '.' :: digits
      | none => []) ++
    (match n.exponent with
      | some power => 'e' :: (toString power).toList
      | none => [])

namespace JsonPiece

/-- The escape of a unit of 16 bits. -/
def escape (value : Nat) : List Char :=
  let digit (shift : Nat) : Char := Nat.digitChar (value / shift % 16)
  ['\\', 'u', digit 4096, digit 256, digit 16, digit 1]

def chars : JsonPiece → List Char
  | char c =>
    if c = '"' ∨ c = '\\' then ['\\', c]
    else if c.toNat < 0x20 then escape c.toNat
    else [c]
  | unit value => escape value

end JsonPiece

namespace Json

def quoted (pieces : List JsonPiece) : List Char :=
  '"' :: pieces.flatMap JsonPiece.chars ++ ['"']

mutual

def chars : Json → List Char
  | null => "null".toList
  | bool true => "true".toList
  | bool false => "false".toList
  | number n => n.chars
  | string pieces => quoted pieces
  | array items => '[' :: itemChars items ++ [']']
  | object fields => '{' :: fieldChars fields ++ ['}']

/-- Items with commas between them. -/
def itemChars : List Json → List Char
  | [] => []
  | [item] => item.chars
  | item :: rest => item.chars ++ ',' :: itemChars rest

/-- Fields with commas between them. -/
def fieldChars : List (List JsonPiece × Json) → List Char
  | [] => []
  | [(key, value)] => quoted key ++ ':' :: value.chars
  | (key, value) :: rest => quoted key ++ ':' :: value.chars ++ ',' :: fieldChars rest

end

def text (json : Json) : String := String.ofList json.chars

/-! ## Values from parts -/

def piecesOf (text : String) : List JsonPiece := text.toList.map .char

def ofText (text : String) : Json := string (piecesOf text)

def ofInt (i : Int) : Json :=
  number ⟨decide (i < 0), (toString i.natAbs).toList, none, none⟩

def ofNat (n : Nat) : Json := ofInt n

/-- An object with the given fields, in their order. -/
def ofFields (fields : List (String × Json)) : Json :=
  object (fields.map fun (key, value) ↦ (piecesOf key, value))

def ofOption {α : Type} (encode : α → Json) : Option α → Json
  | some a => encode a
  | none => null

/-- An object with further fields after its own. -/
def withFields (fields : List (String × Json)) : Json → Json
  | object own => object (own ++ fields.map fun (key, value) ↦ (piecesOf key, value))
  | json => json

end Json

end Provenance
