import Provenance.Backend
import Provenance.Driver.Faulty
import Provenance.Simulation.Ledger

/-!
The check after a simulation: every handle is accounted for, what the workers recorded can be read
back, and what they deleted is gone.
-/

set_option autoImplicit false
set_option relaxedAutoImplicit false

namespace Provenance.Simulation

/-- What one worker did. -/
structure Report where
  ledger : Ledger
  steps : Nat
  /-- Operations that failed for good. -/
  gaveUp : Nat
  /-- Reconnects that the worker asked for. -/
  reconnects : Nat
deriving DecidableEq, Repr

/-- How many rows were found. -/
structure Totals where
  objects : Nat
  relations : Nat
  bundles : Nat
deriving DecidableEq, Repr

/-- A computation on a state that fails with a text. -/
abbrev Checking (σ α : Type) := ExceptT String (StateM σ) α

/-- An action, its failure put into words. -/
def Checking.ofAction {σ α : Type} (describe : Error → String) (action : Action σ α) :
    Checking σ α := fun s ↦
  match action s with
  | (.ok a, s) => (.ok a, s)
  | (.error err, s) => (.error (describe err), s)

namespace Check

variable {W H α : Type}

/-- Every handle of a query is in its pool. -/
def pool (size : Nat) (backend : Backend (Faulty W) H) (query : Query) : Except String Unit :=
  match backend.connection.available query with
  | .error err => .error s!"pool {query.name}: {err.message}"
  | .ok available =>
    if available ≠ size then .error s!"pool {query.name} has {available} of {size} statements"
    else .ok ()

/-- Every pool is full, and no handle or connection is left over. -/
def pools (size : Nat) (backend : Backend (Faulty W) H) : Except String Unit := do
  Query.all.forM (pool size backend)
  let plan := backend.connection.world.plan
  let expected := Query.all.length * size
  if plan.live ≠ expected then
    throw s!"{plan.live} statement handles alive, expected {expected}"
  if plan.opened ≠ 1 then throw s!"{plan.opened} connections open"

/-- The sum of a number over all reports. -/
def total (number : Report → Nat) (reports : List Report) : Nat :=
  reports.foldr (fun report sum ↦ number report + sum) 0

/-- No more reconnects than failures and requests for one. -/
def reconnects (reports : List Report) (backend : Backend (Faulty W) H) : Except String Unit :=
  let allowed := total (·.reconnects) reports + backend.connection.world.plan.injected
  let made := backend.connection.reconnects
  if allowed < made then
    .error s!"{made} reconnects for {allowed} injected failures and explicit reconnects"
  else .ok ()

/-- A question that only looks at the backend. -/
def look (question : Backend (Faulty W) H → Except String α) :
    Checking (Backend (Faulty W) H) α := fun backend ↦ (question backend, backend)

/-- The action must fail because nothing is found. -/
def gone (what : String) (id : Nat) (debug : α → String)
    (action : Action (Backend (Faulty W) H) α) :
    Checking (Backend (Faulty W) H) Unit := fun backend ↦
  match action backend with
  | (.error .notFound, backend) => (.ok (), backend)
  | (.error err, backend) =>
    (.error s!"{what} {id}: expected NotFound, got Err({err.debug})", backend)
  | (.ok a, backend) => (.error s!"{what} {id}: expected NotFound, got Ok({debug a})", backend)

def object (driver : Driver (Faulty W) H) (space : String) (id : Nat) (record : ObjectRecord) :
    Checking (Backend (Faulty W) H) Unit := do
  let info ← Checking.ofAction (fun err ↦ s!"object {id}: {err.message}")
    (Backend.objectInfo driver id)
  if info.name ≠ record.name ∨ info.kind ≠ record.kind ∨ info.space ≠ space then
    throw s!"object {id} reads back as {info.debug}, expected {record.debug}"

def relation (driver : Driver (Faulty W) H) (id : Nat) (record : RelationRecord) :
    Checking (Backend (Faulty W) H) Unit := do
  let _ ← Checking.ofAction (fun err ↦ s!"relation {id}: {err.message}")
    (Backend.lookupRelation driver record.source record.destination record.kind)

def bundle (driver : Driver (Faulty W) H) (id : Nat) (members : List Nat) :
    Checking (Backend (Faulty W) H) Unit := do
  let _ ← Checking.ofAction (fun err ↦ s!"bundle {id}: {err.message}")
    (Backend.bundleInfo driver id)
  let listed ← Checking.ofAction (fun err ↦ s!"bundle {id} objects: {err.message}")
    (Backend.collect (Backend.bundleObjects driver id))
  let listed := Ascending.ofList (listed.map (·.id))
  if !members.all listed.contains then
    throw s!"bundle {id} lost members: {Ascending.debug members} vs {Ascending.debug listed}"

def ledger (driver : Driver (Faulty W) H) (ledger : Ledger) :
    Checking (Backend (Faulty W) H) Unit := do
  ledger.objects.forM fun (id, record) ↦ object driver ledger.space id record
  ledger.deletedObjects.forM fun id ↦
    gone "deleted object" id ObjectInfo.debug (Backend.objectInfo driver id)
  ledger.relations.forM fun (id, record) ↦ relation driver id record
  ledger.bundles.forM fun (id, members) ↦ bundle driver id members
  ledger.deletedBundles.forM fun id ↦
    gone "deleted bundle" id BundleInfo.debug (Backend.bundleInfo driver id)

def totals (reports : List Report) : Totals :=
  ⟨total (·.ledger.objects.length) reports, total (·.ledger.relations.length) reports,
    total (·.ledger.bundles.length) reports⟩

/-- The whole check; the pools are looked at before and after. -/
def run (driver : Driver (Faulty W) H) (poolSize : Nat) (reports : List Report) :
    Checking (Backend (Faulty W) H) Totals := do
  look (pools poolSize)
  look (reconnects reports)
  reports.forM fun report ↦ ledger driver report.ledger
  look (pools poolSize)
  return totals reports

end Check

end Provenance.Simulation
