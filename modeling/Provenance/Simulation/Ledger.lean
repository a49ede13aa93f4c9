import Provenance.Ascending
import Provenance.Model

/-!
What a worker expects the store to hold of the rows that it wrote.
-/

set_option autoImplicit false
set_option relaxedAutoImplicit false

namespace Provenance.Simulation

structure ObjectRecord where
  name : String
  kind : ObjectKind
deriving DecidableEq, Repr

structure RelationRecord where
  source : Nat
  destination : Nat
  kind : RelationKind
deriving DecidableEq, Repr

/-- Tables in ascending order of ids. -/
structure Ledger where
  /-- The space of everything that the worker names. -/
  space : String
  objects : List (Nat × ObjectRecord)
  relations : List (Nat × RelationRecord)
  /-- The members of each bundle. -/
  bundles : List (Nat × List Nat)
  deletedObjects : List Nat
  deletedBundles : List Nat
deriving DecidableEq, Repr

def ObjectRecord.debug (record : ObjectRecord) : String :=
  "ObjectRecord \x7b name: " ++ Text.quoted record.name ++ ", object_type: " ++
    record.kind.name ++ " \x7d"

namespace Ledger

def ofWorker (worker : Nat) : Ledger := ⟨s!"sim{worker}", [], [], [], [], []⟩

def putObject (id : Nat) (record : ObjectRecord) (ledger : Ledger) : Ledger :=
  { ledger with objects := Ascending.put id record ledger.objects }

def putRelation (id : Nat) (record : RelationRecord) (ledger : Ledger) : Ledger :=
  { ledger with relations := Ascending.put id record ledger.relations }

def putBundle (id : Nat) (members : List Nat) (ledger : Ledger) : Ledger :=
  { ledger with bundles := Ascending.put id members ledger.bundles }

def hasObject (ledger : Ledger) (id : Nat) : Bool :=
  ledger.objects.any fun entry ↦ entry.1 == id

/-- One more member of a bundle. -/
def addMember (bundle member : Nat) (ledger : Ledger) : Ledger :=
  let members := (Ascending.get? bundle ledger.bundles).getD []
  ledger.putBundle bundle (Ascending.insert member members)

/-- Forgets a bundle with everything that it takes along when it is deleted. -/
def deleteBundle (bundle : Nat) (ledger : Ledger) : Ledger :=
  match Ascending.get? bundle ledger.bundles with
  | none => ledger
  | some members =>
    let lost := members.filter ledger.hasObject
    let rest := Ascending.erase bundle ledger.bundles
    { ledger with
      objects := ledger.objects.filter fun entry ↦ !members.contains entry.1
      relations := ledger.relations.filter fun (_, record) ↦
        !members.contains record.source && !members.contains record.destination
      bundles := rest.map fun (id, others) ↦ (id, others.filter fun id ↦ !members.contains id)
      deletedObjects := lost.foldr Ascending.insert ledger.deletedObjects
      deletedBundles := Ascending.insert bundle ledger.deletedBundles }

end Ledger

end Provenance.Simulation
