import Provenance.Driver.Scripted
import Provenance.Json.Value

/-!
Scripts of a scripted driver as JSON, and the calls that it recorded. A record gives the attempts
anew; it replaces the other parts of a script only where it names them.
-/

set_option autoImplicit false
set_option relaxedAutoImplicit false

namespace Provenance.Scripted

/-- The failure that a field describes. -/
def failureAt? (json : Json) (key : String) : Option DriverError :=
  (json.field? key).bind DriverError.ofJson?

def Attempt.ofJson (json : Json) : Attempt where
  bind := failureAt? json "bind"
  execute := failureAt? json "execute"
  close := failureAt? json "close"
  rows := (json.listAt "rows").map fun row ↦ row.items.map Value.ofJson
  fetch := do
    let fetch ← json.field? "fetch"
    let err ← failureAt? fetch "records"
    return (fetch.natAt "at", err)
  column := do
    let column ← json.field? "get"
    let err ← failureAt? column "records"
    return (column.natAt "row", column.natAt "column", err)

def Refusal.ofJson (json : Json) : Refusal :=
  ⟨json.textAt "query", json.natAt "nth", (failureAt? json "records").getD ⟨[]⟩⟩

namespace Script

def empty : Script := ⟨[], [], [], [], [], []⟩

/-- The list that a field gives, or the one there is. -/
def replaced {α : Type} (json : Json) (key : String) (convert : Json → α) (old : List α) :
    List α :=
  match json.field? key with
  | some (.array items) => items.map convert
  | _ => old

/-- The script with the parts that a record gives. -/
def amend (json : Json) (script : Script) : Script :=
  { script with
    attempts := (json.listAt "attempts").map Attempt.ofJson
    connects := replaced json "connects" DriverError.ofJson? script.connects
    disconnects := replaced json "disconnects" DriverError.ofJson? script.disconnects
    refusals := replaced json "prepares" Refusal.ofJson script.refusals }

end Script

namespace Call

/-- A call with the number of times that it came in a row, which is written for preparations and
discards only. -/
def toJson (call : Call) (count : Nat) : Json :=
  match call with
  | connect target => .array [.ofText "connect", .ofText target]
  | prepare => .array [.ofText "prepare", .ofNat count]
  | prepareFailed query => .array [.ofText "prepare failed", .ofText query.name]
  | discard => .array [.ofText "drop", .ofNat count]
  | disconnect => .array [.ofText "disconnect"]
  | bind query params =>
    .array [.ofText "bind", .ofText query.name, .array (params.map Value.toJson)]
  | execute => .array [.ofText "execute"]
  | fetch => .array [.ofText "fetch"]
  | column index => .array [.ofText "get", .ofNat index]
  | close => .array [.ofText "close"]

/-- Whether a call that is repeated is written once. -/
def isCounted (call : Call) : Bool := call == prepare || call == discard

/-- One more call before some that are counted already. -/
def countIn (call : Call) : List (Call × Nat) → List (Call × Nat)
  | (next, count) :: rest =>
    if call == next && call.isCounted then (next, count + 1) :: rest
    else (call, 1) :: (next, count) :: rest
  | [] => [(call, 1)]

def traceJson (calls : List Call) : Json :=
  .array ((calls.foldr countIn []).map fun (call, count) ↦ call.toJson count)

end Call

end Provenance.Scripted
