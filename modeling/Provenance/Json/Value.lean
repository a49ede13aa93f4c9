import Provenance.Json.Field
import Provenance.Json.Text
import Provenance.Value

/-!
Values and diagnostic records as JSON. Null, integers and texts stand for themselves; the other
values are objects with one field, named `float`, `blob`, `ts` or `garbled` for the kind of value.
-/

set_option autoImplicit false
set_option relaxedAutoImplicit false

namespace Provenance

/-- A list of up to six numbers from the year to the second, where zeros may be left out. -/
def DateTime.ofJson? (json : Json) : Option DateTime :=
  let part (index : Nat) : Int := (json.items[index]?.bind Json.signed?).getD 0
  let time : DateTime :=
    ⟨part 0, (part 1).toNat, (part 2).toNat, (part 3).toNat, (part 4).toNat, (part 5).toNat, 0⟩
  if time.isValid && [1, 2, 3, 4, 5].all (fun index ↦ 0 ≤ part index) then some time else none

namespace Value

def ofJson (json : Json) : Value :=
  match json with
  | .string _ => (json.text?.map Value.text).getD .null
  | .number _ => (json.signed?.map Value.int).getD .null
  | _ =>
    match json.textAt? "float", json.field? "blob", json.field? "ts" with
    | some digits, _, _ => ((Binary64.ofText? digits).map Value.real).getD .null
    | _, some bytes, _ => .blob (bytes.items.map fun byte ↦ UInt8.ofNat (byte.id?.getD 0))
    | _, _, some time => ((DateTime.ofJson? time).map Value.timestamp).getD .null
    | _, _, _ => .null

def bytesJson (bytes : List UInt8) : Json := .array (bytes.map fun byte ↦ .ofNat byte.toNat)

def toJson : Value → Json
  | .null => .null
  | .int i => .ofInt i
  | .real x => .ofFields [("float", .ofText x.text)]
  | .text s => .ofText s
  | .timestamp t => .ofFields [("ts", .ofText t.text)]
  | .blob bytes => .ofFields [("blob", bytesJson bytes)]
  | .garbled value => .ofFields [("garbled", bytesJson value.bytes)]

end Value

/-- A list of the state, the store's own code and its text. -/
def Diagnostic.ofJson (json : Json) : Diagnostic :=
  let part (index : Nat) : Json := json.items.getD index .null
  ⟨(part 0).text?.getD "", Word.wrap ((part 1).signed?.getD 0), (part 2).text?.getD ""⟩

def DriverError.ofJson (json : Json) : DriverError := ⟨json.items.map Diagnostic.ofJson⟩

/-- A list of records; anything else is no failure. -/
def DriverError.ofJson? : Json → Option DriverError
  | .array records => some (ofJson (.array records))
  | _ => none

end Provenance
