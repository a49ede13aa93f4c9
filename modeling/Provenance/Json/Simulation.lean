import Provenance.Json.Model
import Provenance.Simulation.Config
import Provenance.Simulation.Run

/-!
Configurations, ledgers and summaries of simulations as JSON. Rates are written as texts.
-/

set_option autoImplicit false
set_option relaxedAutoImplicit false

namespace Provenance.Simulation

def Config.toJson (config : Config) : Json :=
  .ofFields [("duration_ms", .ofOption .ofNat config.durationMs),
    ("iterations", .ofOption .ofNat config.iterations),
    ("seed", (config.seed.map Json.ofNat).getD (.ofText "random")),
    ("pool_size", .ofNat config.poolSize), ("workers", .ofNat config.workers),
    ("link_failure_rate", .ofText config.linkFailureRate.text),
    ("fetch_failure_rate", .ofText config.fetchFailureRate.text),
    ("reconnect_rate", .ofText config.reconnectRate.text),
    ("delete_rate", .ofText config.deleteRate.text), ("db", .ofOption .ofText config.db),
    ("log", .ofOption .ofText config.log), ("preset", .ofOption .ofText config.preset),
    ("first_steps", .ofNat config.firstSteps), ("tail_steps", .ofNat config.tailSteps)]

def Summary.toJson (summary : Summary) : Json :=
  .ofFields [("steps", .ofNat summary.steps), ("gave_up", .ofNat summary.gaveUp),
    ("injected", .ofNat summary.injected), ("reconnects", .ofNat summary.reconnects),
    ("objects", .ofNat summary.totals.objects), ("relations", .ofNat summary.totals.relations),
    ("bundles", .ofNat summary.totals.bundles)]

/-- An unknown kind of object counts as an entity. -/
def ObjectRecord.ofJson (json : Json) : ObjectRecord :=
  ⟨json.textAt "name", (ObjectKind.ofCode (json.intAt "type")).toOption.getD .entity⟩

/-- An unknown kind of relation counts as use. -/
def RelationRecord.ofJson (json : Json) : RelationRecord :=
  ⟨json.natAt "from", json.natAt "to",
    (RelationKind.ofCode (json.intAt "type")).toOption.getD .used⟩

namespace Ledger

/-- The ids of objects and relations, the members of bundles, and what was deleted. -/
def toJson (ledger : Ledger) : Json :=
  let ids (list : List Nat) : Json := .array (list.map .ofNat)
  .ofFields [("objects", ids (ledger.objects.map (·.1))),
    ("relations", ids (ledger.relations.map (·.1))),
    ("bundles", .array (ledger.bundles.map fun (id, members) ↦ .array [.ofNat id, ids members])),
    ("deleted_objects", ids ledger.deletedObjects),
    ("deleted_bundles", ids ledger.deletedBundles)]

/-- One more entry, of the kind that `entry` names. -/
def enter (entry : String) (json : Json) (ledger : Ledger) : Ledger :=
  let id := json.natAt "id"
  match entry with
  | "object" => ledger.putObject id (.ofJson json)
  | "relation" => ledger.putRelation id (.ofJson json)
  | "bundle" => ledger.putBundle id (Ascending.ofList (json.natsAt "members"))
  | "delete_bundle" => ledger.deleteBundle id
  | _ => ledger

/-- The ledger of a worker with the rows that a record lists. -/
def ofJson (json : Json) : Ledger :=
  let start := ofWorker (json.natAt "worker")
  let enterAll (key entry : String) (ledger : Ledger) : Ledger :=
    (json.listAt key).foldl (fun ledger row ↦ ledger.enter entry row) ledger
  let withRelations := enterAll "relations" "relation" (enterAll "objects" "object" start)
  let filled := enterAll "bundles" "bundle" withRelations
  { filled with
    space := (json.textAt? "prefix").getD start.space
    deletedObjects := Ascending.ofList (json.natsAt "deleted_objects")
    deletedBundles := Ascending.ofList (json.natsAt "deleted_bundles") }

end Ledger

end Provenance.Simulation
