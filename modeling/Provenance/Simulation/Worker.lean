import Provenance.Simulation.Check
import Provenance.Simulation.EventLog
import Provenance.Simulation.Workload

/-!
A worker: it runs randomly chosen operations, with failures planned at random before each, compares
what they report with its ledger, and keeps the ledger in step with the store. An operation that
fails for good may have had its effect; the ledger is brought in line by reading.
-/

set_option autoImplicit false
set_option relaxedAutoImplicit false

namespace Provenance.Simulation

variable {σ W H : Type}

/-- The backend, the state of the dice, and what the worker knows. -/
structure Worker (σ W H : Type) where
  backend : Backend (Faulty W) H
  dice : σ
  ledger : Ledger

namespace Worker

/-- What a worker works with. -/
structure Tools (σ W H : Type) where
  driver : Driver (Faulty W) H
  dice : Dice σ
  config : Config
  /-- The session that owns everything. -/
  session : Nat

def onBackend {α : Type} (action : Action (Backend (Faulty W) H) α) :
    Action (Worker σ W H) α := fun w ↦
  let (result, backend) := action w.backend
  (result, { w with backend })

def roll {α : Type} (draw : σ → α × σ) : Action (Worker σ W H) α := fun w ↦
  let (a, dice) := draw w.dice
  (.ok a, { w with dice })

def ledgerOf : Action (Worker σ W H) Ledger := fun w ↦ (.ok w.ledger, w)

def note (change : Ledger → Ledger) : Action (Worker σ W H) Unit :=
  Action.modify fun w ↦ { w with ledger := change w.ledger }

/-- Plans a dropped link for the next call of a kind, at a rate. -/
def planFailure (tools : Tools σ W H) (rate : Binary64) (point : FaultPoint) (w : Worker σ W H) :
    Worker σ W H :=
  let (r, dice) := tools.dice.fraction w.dice
  let w := { w with dice }
  if r.lt rate then
    let connection := w.backend.connection
    let plan := connection.world.plan.failNext point 1 FaultPlan.linkFailure
    { w with backend := { w.backend with
                          connection := { connection with
                                          world := { connection.world with plan } } } }
  else w

def skip : Action (Worker σ W H) String := pure "skip"

def createObject (tools : Tools σ W H) : Action (Worker σ W H) String := do
  let ledger ← ledgerOf
  let name := s!"obj{ledger.objects.length + ledger.deletedObjects.length}"
  let index ← roll (tools.dice.below 3)
  let kind := [ObjectKind.entity, .activity, .agent].getD index .entity
  let id ← onBackend (Backend.createObject tools.driver ledger.space name kind tools.session)
  note (Ledger.putObject id ⟨name, kind⟩)
  return s!"id={id}"

def lookupObject (tools : Tools σ W H) : Action (Worker σ W H) String := do
  let ledger ← ledgerOf
  match ← roll (tools.dice.pick ledger.objects) with
  | none => skip
  | some (id, record) =>
    let found ← onBackend
      (Backend.lookupObject tools.driver ledger.space record.name (some record.kind))
    if found ≠ id then
      Action.fail (.internal s!"lookup of {record.name} returned {found}, expected {id}")
    else return s!"id={id}"

def addRelation (tools : Tools σ W H) : Action (Worker σ W H) String := do
  let ledger ← ledgerOf
  let ids := ledger.objects.map (·.1)
  let source ← roll (tools.dice.pick ids)
  let destination ← roll (tools.dice.pick ids)
  match source, destination with
  | some source, some destination =>
    let index ← roll (tools.dice.below 18)
    let kind := RelationKind.all.getD index .alternateOf
    let id ← onBackend (Backend.addRelation tools.driver source destination kind)
    note (Ledger.putRelation id ⟨source, destination, kind⟩)
    return s!"{source}-{kind.vocabularyName}->{destination} id={id}"
  | _, _ => skip

def addProperty (tools : Tools σ W H) : Action (Worker σ W H) String := do
  let ledger ← ledgerOf
  match ← roll (tools.dice.pick (ledger.objects.map (·.1))) with
  | none => skip
  | some id =>
    let number ← roll (tools.dice.below 1000)
    let value := s!"v{number}"
    onBackend (Backend.addObjectProperty tools.driver id ledger.space "tag" value)
    return s!"id={id} tag={value}"

def listAncestors (tools : Tools σ W H) : Action (Worker σ W H) String := do
  let ledger ← ledgerOf
  match ← roll (tools.dice.pick (ledger.objects.map (·.1))) with
  | none => skip
  | some id =>
    let rows ← onBackend
      (Backend.collect (Backend.objectRelations tools.driver id .ancestors))
    let seen := Ascending.ofList (rows.map (·.id))
    let expected := (ledger.relations.filter fun entry ↦ entry.2.source == id).map (·.1)
    match expected.find? fun relation ↦ !seen.contains relation with
    | some relation =>
      Action.fail (.internal s!"relation {relation} missing from ancestors of {id}")
    | none => return s!"id={id} count={seen.length}"

def createBundle (tools : Tools σ W H) : Action (Worker σ W H) String := do
  let ledger ← ledgerOf
  let name := s!"bundle{ledger.bundles.length + ledger.deletedBundles.length}"
  let id ← onBackend (Backend.createBundle tools.driver name ledger.space tools.session)
  note (Ledger.putBundle id [])
  return s!"id={id}"

def addToBundle (tools : Tools σ W H) : Action (Worker σ W H) String := do
  let ledger ← ledgerOf
  let bundle ← roll (tools.dice.pick (ledger.bundles.map (·.1)))
  let member ← roll (tools.dice.pick (ledger.objects.map (·.1)))
  match bundle, member with
  | some bundle, some member =>
    let _ ← onBackend (Backend.addRelation tools.driver bundle member .inBundle)
    note (Ledger.addMember bundle member)
    return s!"bundle={bundle} member={member}"
  | _, _ => skip

/-- The objects that a bundle lists, in ascending order. -/
def listed (tools : Tools σ W H) (bundle : Nat) : Action (Worker σ W H) (List Nat) := do
  let rows ← onBackend (Backend.collect (Backend.bundleObjects tools.driver bundle))
  return Ascending.ofList (rows.map (·.id))

def listBundle (tools : Tools σ W H) : Action (Worker σ W H) String := do
  let ledger ← ledgerOf
  match ← roll (tools.dice.pick ledger.bundles) with
  | none => skip
  | some (bundle, members) =>
    let seen ← listed tools bundle
    if members.all seen.contains then return s!"bundle={bundle} count={seen.length}"
    else
      let expected := Ascending.debug members
      Action.fail (.internal
        s!"bundle {bundle} lists {Ascending.debug seen}, expected at least {expected}")

def deleteBundle (tools : Tools σ W H) : Action (Worker σ W H) String := do
  let ledger ← ledgerOf
  match ← roll (tools.dice.pick (ledger.bundles.map (·.1))) with
  | none => skip
  | some bundle =>
    onBackend (Backend.deleteBundle tools.driver bundle)
    note (Ledger.deleteBundle bundle)
    return s!"bundle={bundle}"

def reconnect (tools : Tools σ W H) : Action (Worker σ W H) String := do
  onBackend (Backend.reconnect tools.driver)
  let generation ← onBackend fun backend ↦ (backend.connection.generation, backend)
  return s!"generation={generation}"

/-- Runs one operation, checks what it reports and puts it into words. -/
def apply (tools : Tools σ W H) : Op → Action (Worker σ W H) String
  | .createObject => createObject tools
  | .lookupObject => lookupObject tools
  | .addRelation => addRelation tools
  | .addProperty => addProperty tools
  | .listAncestors => listAncestors tools
  | .createBundle => createBundle tools
  | .addToBundle => addToBundle tools
  | .listBundle => listBundle tools
  | .deleteBundle => deleteBundle tools
  | .reconnect => reconnect tools

/-- A read that is repeated while it fails for good, `budget` times at most. -/
def persist {α : Type} (read : Action (Worker σ W H) α) : (budget : Nat) → Action (Worker σ W H) α
  | 0 => read
  | budget + 1 => fun w ↦
    match read w with
    | (.error (.statement _), w) => persist read budget w
    | outcome => outcome

/-- Brings what the ledger knows about one bundle in line with the store. -/
def reconcileBundle (tools : Tools σ W H) (bundle : Nat) : Checking (Worker σ W H) Unit := do
  let describe (err : Error) := s!"reconcile bundle {bundle}: {err.message}"
  let info ← Checking.ofAction describe
    (Action.attempt (persist (onBackend (Backend.bundleInfo tools.driver bundle)) 8))
  match info with
  | .error .notFound => Checking.ofAction describe (note (Ledger.deleteBundle bundle))
  | .error err => throw (describe err)
  | .ok _ =>
    let members ← Checking.ofAction describe (persist (listed tools bundle) 8)
    Checking.ofAction describe
      (note fun ledger ↦ ledger.putBundle bundle (members.filter ledger.hasObject))

/-- Brings the ledger in line after an operation that failed for good. Only those on bundles can
have changed what the ledger tells about. -/
def reconcile (tools : Tools σ W H) (op : Op) : Checking (Worker σ W H) Unit := do
  match op with
  | .deleteBundle | .addToBundle =>
    let ledger ← Checking.ofAction Error.message ledgerOf
    ledger.bundles.forM fun (bundle, _) ↦ reconcileBundle tools bundle
  | _ => return ()

/-- What a worker has done so far. -/
structure Tally where
  events : EventLog
  gaveUp : Nat
  reconnects : Nat
deriving DecidableEq, Repr

/-- Why a worker stopped, and the report that goes with it. -/
structure Failure where
  reason : String
  lines : List String
deriving DecidableEq, Repr

def failure (index : Nat) (tally : Tally) (reason : String) : Failure :=
  ⟨s!"worker {index}: {reason}", tally.events.dump s!"worker {index} failed: {reason}"⟩

/-- Plans failures and chooses an operation. -/
def prepare (tools : Tools σ W H) (w : Worker σ W H) : Op × Worker σ W H :=
  let w := planFailure tools tools.config.linkFailureRate .execute w
  let w := planFailure tools tools.config.fetchFailureRate .fetch w
  let chosen := Op.next tools.dice tools.config w.ledger w.dice
  (chosen.1, { w with dice := chosen.2 })

/-- Ends a step whose operation has been run. A failure comes with what was done until then. -/
def conclude (tools : Tools σ W H) (number : Nat) (tally : Tally) (op : Op)
    (outcome : Except Error String × Worker σ W H) :
    Except (Tally × String) Tally × Worker σ W H :=
  let reconnects := if op = .reconnect then tally.reconnects + 1 else tally.reconnects
  match outcome with
  | (.ok label, w) =>
    (.ok ⟨tally.events.record s!"step={number} op={op.name} {label}", tally.gaveUp, reconnects⟩, w)
  | (.error (.statement query), w) =>
    let events := tally.events.record s!"step={number} op={op.name} gave up in {query}"
    let tally : Tally := ⟨events, tally.gaveUp + 1, reconnects⟩
    match reconcile tools op w with
    | (.ok (), w) => (.ok tally, w)
    | (.error reason, w) => (.error (tally, reason), w)
  | (.error err, w) => (.error (tally, s!"step {number} op {op.name}: {err.message}"), w)

/-- One step: an operation is prepared and run, and what it comes to is noted. -/
def step (tools : Tools σ W H) (number : Nat) (tally : Tally) (w : Worker σ W H) :
    Except (Tally × String) Tally × Worker σ W H :=
  let prepared := prepare tools w
  conclude tools number tally prepared.1 ((apply tools prepared.1).run prepared.2)

/-- Goes on after a step, or puts its failure into words. -/
def proceed (index : Nat) (next : Tally → Worker σ W H → Except Failure Tally × Worker σ W H) :
    Except (Tally × String) Tally × Worker σ W H → Except Failure Tally × Worker σ W H
  | (.ok tally, w) => next tally w
  | (.error (tally, reason), w) => (.error (failure index tally reason), w)

/-- Runs `count` steps, the first of them with the given number. -/
def steps (tools : Tools σ W H) (index : Nat) :
    (count number : Nat) → Tally → Worker σ W H → Except Failure Tally × Worker σ W H
  | 0, _, tally, w => (.ok tally, w)
  | count + 1, number, tally, w =>
    proceed index (steps tools index count (number + 1)) (step tools number tally w)

/-- The worker with a number before its first step. -/
def begin (tools : Tools σ W H) (index : Nat) (dice : σ) (backend : Backend (Faulty W) H) :
    Tally × Worker σ W H :=
  (⟨.empty tools.config.firstSteps tools.config.tailSteps, 0, 0⟩,
    ⟨backend, dice, .ofWorker index⟩)

/-- The report of a worker that has taken all its steps. -/
def reported (count : Nat) :
    Except Failure Tally × Worker σ W H → Except Failure Report × Backend (Faulty W) H
  | (.ok tally, w) => (.ok ⟨w.ledger, count, tally.gaveUp, tally.reconnects⟩, w.backend)
  | (.error failure, w) => (.error failure, w.backend)

/-- A whole run of the worker with a number. -/
def run (tools : Tools σ W H) (index count : Nat) (dice : σ) (backend : Backend (Faulty W) H) :
    Except Failure Report × Backend (Faulty W) H :=
  let first := begin tools index dice backend
  reported count (steps tools index count 0 first.1 first.2)

end Worker

end Provenance.Simulation
