import Provenance.Action
import Provenance.ConnectionString
import Provenance.Options
import Provenance.Request.Bundle
import Provenance.Request.Object
import Provenance.Request.Relation
import Provenance.Request.Session

/-!
A backend: options and a connection, and the operations on them. Enumerations take all rows and put
the statement back before they hand the rows to a callback, which may therefore use the backend
itself; its state is that of the caller next to that of the backend.
-/

set_option autoImplicit false
set_option relaxedAutoImplicit false

namespace Provenance

structure Backend (W H : Type) where
  options : Options
  /-- The zone of the local times in the store. -/
  zone : Zone
  connection : Connection W H

/-- Hands rows to a callback until it fails. -/
def deliverRows {σ α : Type} (callback : α → Action σ Unit) : List α → Action σ Unit
  | [] => pure ()
  | row :: rest => do
    callback row
    deliverRows callback rest

/-- Hands rows to a callback; without rows there is no data. -/
def deliver {σ α : Type} (rows : List α) (callback : α → Action σ Unit) : Action σ Status :=
  match rows with
  | [] => pure .noData
  | rows => do
    deliverRows callback rows
    return .ok

/-- As `deliver`, but without rows nothing was found, unless the flags allow for that. -/
def deliverLookup {σ α : Type} (rows : List α) (flags : LookupFlags)
    (callback : α → Action σ Unit) : Action σ Status :=
  if rows.isEmpty && !flags.contains ⟨true⟩ then .fail .notFound else deliver rows callback

namespace Backend

variable {W H C α : Type}

/-- Connects and prepares every statement. -/
def start (driver : Driver W H) (target : String) (options : Options) (zone : Zone) (world : W) :
    Except Error Unit × Backend W H :=
  let (result, connection) := Connection.start driver target options.poolSize world
  (result, ⟨options, zone, connection⟩)

/-- As `start`, to a named data source and with standard options for a kind of store. -/
def startSource (driver : Driver W H) (source : String) (kind : StoreKind) (zone : Zone)
    (world : W) : Except Error Unit × Backend W H :=
  let options : Options := { kind }
  match ConnectionString.ofSource source with
  | .ok target => start driver target options zone world
  | .error err => (.error err, ⟨options, zone, .unopened "" options.poolSize world⟩)

def reader (backend : Backend W H) : Reader := ⟨backend.options.maxStringLength, backend.zone⟩

/-- An action on the connection. -/
def onConnection (action : Connection W H → Except Error α × Connection W H) :
    Action (Backend W H) α := fun backend ↦
  let (result, connection) := action backend.connection
  (result, { backend with connection })

/-- Runs the request that valid arguments make; invalid ones do not reach the driver. -/
def call (driver : Driver W H) (request : Reader → Except Error (Request α)) :
    Action (Backend W H) α := fun backend ↦
  match request backend.reader with
  | .error err => (.error err, backend)
  | .ok request =>
    onConnection (Connection.perform driver request backend.options.maxRetries 0) backend

/-- Runs a request for rows, then hands the rows to a callback. -/
def each (driver : Driver W H) (request : Reader → Except Error (Request (List α)))
    (callback : α → Action (C × Backend W H) Unit) : Action (C × Backend W H) Status := do
  let rows ← Action.onSecond (call driver request)
  deliver rows callback

/-- As `each`, for a lookup. -/
def eachFound (driver : Driver W H) (request : Reader → Except Error (Request (List α)))
    (flags : LookupFlags) (callback : α → Action (C × Backend W H) Unit) :
    Action (C × Backend W H) Status := do
  let rows ← Action.onSecond (call driver request)
  deliverLookup rows flags callback

/-- The rows that an enumeration hands out. -/
def collect (enumerate : (α → Action (List α × Backend W H) Unit) →
    Action (List α × Backend W H) Status) : Action (Backend W H) (List α) := fun backend ↦
  match enumerate (fun row (rows, backend) ↦ (.ok (), (rows ++ [row], backend))) ([], backend) with
  | (.ok _, (rows, backend)) => (.ok rows, backend)
  | (.error err, (_, backend)) => (.error err, backend)

/-! ## Sessions -/

def createSession (driver : Driver W H) (session : SessionDescriptor) :
    Action (Backend W H) Nat :=
  call driver fun _ ↦ Request.createSession session

def sessionInfo (driver : Driver W H) (id : Nat) : Action (Backend W H) SessionInfo :=
  call driver fun reader ↦ Request.sessionInfo reader id

/-! ## Objects -/

def createObject (driver : Driver W H) (space name : String) (kind : ObjectKind)
    (session : Nat) : Action (Backend W H) Nat :=
  call driver fun _ ↦ Request.createObject space name kind session

def lookupObject (driver : Driver W H) (space name : String) (kind : Option ObjectKind) :
    Action (Backend W H) Nat :=
  call driver fun _ ↦ Request.lookupObject space name kind

def lookupObjects (driver : Driver W H) (space name : String) (kind : Option ObjectKind)
    (flags : LookupFlags) (callback : LookupEntry → Action (C × Backend W H) Unit) :
    Action (C × Backend W H) Status :=
  eachFound driver (fun reader ↦ Request.lookupObjects reader space name kind) flags callback

def objectInfo (driver : Driver W H) (id : Nat) : Action (Backend W H) ObjectInfo :=
  call driver fun reader ↦ Request.objectInfo reader id

def allObjects (driver : Driver W H) (space : Option String)
    (callback : ObjectInfo → Action (C × Backend W H) Unit) : Action (C × Backend W H) Status :=
  each driver (fun reader ↦ Request.allObjects reader space) callback

def addObjectProperty (driver : Driver W H) (id : Nat) (space key value : String) :
    Action (Backend W H) Unit :=
  call driver fun _ ↦ Request.addObjectProperty id space key value

def objectProperties (driver : Driver W H) (id : Nat) (filter : PropertyFilter)
    (callback : PropertyEntry → Action (C × Backend W H) Unit) :
    Action (C × Backend W H) Status :=
  each driver (fun reader ↦ Request.objectProperties reader id filter) callback

def objectsWithProperty (driver : Driver W H) (space key value : String) (flags : LookupFlags)
    (callback : Nat → Action (C × Backend W H) Unit) : Action (C × Backend W H) Status :=
  eachFound driver (fun _ ↦ Request.objectsWithProperty space key value) flags callback

def objectsMatching (driver : Driver W H) (pattern : String) (flags : LookupFlags)
    (callback : Nat → Action (C × Backend W H) Unit) : Action (C × Backend W H) Status :=
  eachFound driver (fun _ ↦ Request.objectsMatching pattern) flags callback

/-! ## Relations -/

def addRelation (driver : Driver W H) (source destination : Nat) (kind : RelationKind) :
    Action (Backend W H) Nat :=
  call driver fun _ ↦ Request.addRelation source destination kind

def lookupRelation (driver : Driver W H) (source destination : Nat) (kind : RelationKind) :
    Action (Backend W H) Nat :=
  call driver fun _ ↦ Request.lookupRelation source destination kind

def hasImmediateAncestor (driver : Driver W H) (object ancestor : Nat) :
    Action (Backend W H) Bool :=
  call driver fun _ ↦ Request.hasImmediateAncestor object ancestor

def objectRelations (driver : Driver W H) (id : Nat) (direction : Direction)
    (callback : RelationInfo → Action (C × Backend W H) Unit) :
    Action (C × Backend W H) Status :=
  each driver (fun _ ↦ Request.objectRelations id direction) callback

def addRelationProperty (driver : Driver W H) (id : Nat) (space key value : String) :
    Action (Backend W H) Unit :=
  call driver fun _ ↦ Request.addRelationProperty id space key value

def relationProperties (driver : Driver W H) (id : Nat) (filter : PropertyFilter)
    (callback : PropertyEntry → Action (C × Backend W H) Unit) :
    Action (C × Backend W H) Status :=
  each driver (fun reader ↦ Request.relationProperties reader id filter) callback

/-! ## Bundles -/

def createBundle (driver : Driver W H) (name space : String) (session : Nat) :
    Action (Backend W H) Nat :=
  call driver fun _ ↦ Request.createBundle name space session

def lookupBundle (driver : Driver W H) (name space : String) : Action (Backend W H) Nat :=
  call driver fun _ ↦ Request.lookupBundle name space

def lookupBundles (driver : Driver W H) (name space : String) (flags : LookupFlags)
    (callback : LookupEntry → Action (C × Backend W H) Unit) : Action (C × Backend W H) Status :=
  eachFound driver (fun reader ↦ Request.lookupBundles reader name space) flags callback

def deleteBundle (driver : Driver W H) (id : Nat) : Action (Backend W H) Unit :=
  call driver fun _ ↦ Request.deleteBundle id

def bundleInfo (driver : Driver W H) (id : Nat) : Action (Backend W H) BundleInfo :=
  call driver fun reader ↦ Request.bundleInfo reader id

def bundleObjects (driver : Driver W H) (id : Nat)
    (callback : ObjectInfo → Action (C × Backend W H) Unit) : Action (C × Backend W H) Status :=
  each driver (fun reader ↦ Request.bundleObjects reader id) callback

def bundleRelations (driver : Driver W H) (id : Nat)
    (callback : RelationInfo → Action (C × Backend W H) Unit) :
    Action (C × Backend W H) Status :=
  each driver (fun _ ↦ Request.bundleRelations id) callback

def addBundleProperty (driver : Driver W H) (id : Nat) (space key value : String) :
    Action (Backend W H) Unit :=
  call driver fun _ ↦ Request.addBundleProperty id space key value

def bundleProperties (driver : Driver W H) (id : Nat) (filter : PropertyFilter)
    (callback : PropertyEntry → Action (C × Backend W H) Unit) :
    Action (C × Backend W H) Status :=
  each driver (fun reader ↦ Request.bundleProperties reader id filter) callback

def addPrefix (driver : Driver W H) (bundle : Nat) (space iri : String) :
    Action (Backend W H) Unit :=
  call driver fun _ ↦ Request.addPrefix bundle space iri

def prefixes (driver : Driver W H) (bundle : Nat) (space : Option String)
    (callback : PrefixEntry → Action (C × Backend W H) Unit) : Action (C × Backend W H) Status :=
  each driver (fun reader ↦ Request.prefixes reader bundle space) callback

/-! ## The connection -/

def reconnect (driver : Driver W H) : Action (Backend W H) Unit :=
  onConnection (Connection.reconnect driver)

/-- Gives up every statement, then closes the connection. -/
def close (driver : Driver W H) (backend : Backend W H) : Backend W H :=
  { backend with connection := backend.connection.disconnect driver }

/-- What has been logged, and the backend with an empty log. -/
def takeLog (backend : Backend W H) : List Event × Backend W H :=
  (backend.connection.log, { backend with connection := { backend.connection with log := [] } })

def debug (driver : Driver W H) (backend : Backend W H) : String :=
  "RelationalBackend \x7b manager: " ++ backend.connection.debug driver ++ ", options: " ++
    backend.options.debug ++ " \x7d"

end Backend

end Provenance
