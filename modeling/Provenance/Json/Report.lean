import Provenance.Driver.Faulty
import Provenance.Event
import Provenance.Json.Field
import Provenance.Json.Text
import Provenance.Json.Value

/-!
What goes wrong, as JSON: errors, diagnostic records, events and the counters of a fault plan.
-/

set_option autoImplicit false
set_option relaxedAutoImplicit false

namespace Provenance

namespace Error

def toJson (err : Error) : Json :=
  .ofFields [("error", .ofText err.name), ("code", .ofInt err.code),
    ("message", .ofText err.message)]

/-- The failure whose kind a record names, with its text or code; without a kind, that of a
callback. -/
def ofJson (json : Json) : Error :=
  let text := json.textAt "text"
  match json.textAt "kind" with
  | "InvalidArgument" => .invalidArgument text
  | "InsufficientResources" => .insufficientResources text
  | "Connection" => .connection text
  | "NotImplemented" => .notImplemented text
  | "AlreadyInitialized" => .alreadyInitialized
  | "NotInitialized" => .notInitialized
  | "Prepare" => .prepare text
  | "Statement" => .statement text
  | "Internal" => .internal text
  | "BackendInternal" => .backendInternal text
  | "NotFound" => .notFound
  | "AlreadyExists" => .alreadyExists
  | "DbNull" => .nullValue
  | "InvalidType" => .invalidType text
  | _ => .callback (Word.wrap (json.intAt "code"))

end Error

/-- The text of a record may be withheld. -/
def Diagnostic.toJson (withhold : Diagnostic → Bool) (record : Diagnostic) : Json :=
  .array [.ofText record.state, .ofInt record.native,
    if withhold record then .null else .ofText record.message]

def FieldValue.toJson : FieldValue → Json
  | text value => .ofText value
  | number value => .ofInt value

/-- The message of an event about a record is that of the record, which may be withheld. -/
def Event.toJson (withhold : Diagnostic → Bool) (event : Event) : Json :=
  let withheld := match event with
    | .record _ _ entry => withhold entry
    | _ => false
  .ofFields [("level", .ofText event.level.name),
    ("message", if withheld then .null else .ofText event.message),
    ("fields", .ofFields (event.fields.map fun (key, value) ↦ (key, value.toJson)))]

def FaultPlan.toJson (plan : FaultPlan) : Json :=
  .ofFields [("connects", .ofNat plan.connects), ("open", .ofNat plan.opened),
    ("live", .ofNat plan.live), ("injected", .ofNat plan.injected)]

/-- The kind of call that a name stands for; execution where it stands for no other. -/
def FaultPoint.ofName : String → FaultPoint
  | "connect" => .connect
  | "prepare" => .prepare
  | "bind" => .bind
  | "fetch" => .fetch
  | _ => .execute

/-- The plan after an instruction to let calls fail, to forget that, or only to count, and the
number of calls of the kind named that will fail. -/
def FaultPlan.instructed? (plan : FaultPlan) (json : Json) : Option (Nat × FaultPlan) :=
  let point := FaultPoint.ofName (json.textAt "point")
  let counted (plan : FaultPlan) : Nat × FaultPlan := (plan.pending point, plan)
  match json.textAt "do" with
  | "fail" =>
    let err := ((json.field? "records").bind DriverError.ofJson?).getD linkFailure
    some (counted (plan.failNext point ((json.natAt? "count").getD 1) err))
  | "clear_faults" => some (counted plan.clear)
  | "pending" => some (counted plan)
  | _ => none

end Provenance
