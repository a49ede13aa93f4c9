import Provenance.Json
import Provenance.Word

/-!
Fields of records that may leave any of them out. A field that is missing, or of another kind than
asked for, reads as the empty value of its kind.
-/

set_option autoImplicit false
set_option relaxedAutoImplicit false

namespace Provenance.Json

def id? (json : Json) : Option Nat := json.natBelow? Word.count64

/-- An integer of 64 bits with a sign. -/
def signed? (json : Json) : Option Int := json.intWithin? Word.least Word.greatest

/-- The items of an array; other values have none. -/
def items : Json → List Json
  | array items => items
  | _ => []

/-- The value of the first field with a name. -/
def field? (json : Json) (key : String) : Option Json :=
  match json with
  | object fields => (fields.find? fun field ↦ (string field.1).text? == some key).map (·.2)
  | _ => none

def textAt? (json : Json) (key : String) : Option String := (json.field? key).bind text?

def natAt? (json : Json) (key : String) : Option Nat := (json.field? key).bind id?

def intAt? (json : Json) (key : String) : Option Int := (json.field? key).bind signed?

def textAt (json : Json) (key : String) : String := (json.textAt? key).getD ""

def natAt (json : Json) (key : String) : Nat := (json.natAt? key).getD 0

def intAt (json : Json) (key : String) : Int := (json.intAt? key).getD 0

def flagAt (json : Json) (key : String) : Bool :=
  match json.field? key with
  | some (bool value) => value
  | _ => false

def listAt (json : Json) (key : String) : List Json := ((json.field? key).map items).getD []

def textsAt (json : Json) (key : String) : List String := (json.listAt key).filterMap text?

def natsAt (json : Json) (key : String) : List Nat := (json.listAt key).filterMap id?

def intsAt (json : Json) (key : String) : List Int := (json.listAt key).filterMap signed?

end Provenance.Json
