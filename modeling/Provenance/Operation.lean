import Provenance.Backend

/-!
The operations of a backend as data: each with its arguments, the rows that it lists and what it
answers. `Operation.run` is the one way in for whatever holds of every operation.
-/

set_option autoImplicit false
set_option relaxedAutoImplicit false

namespace Provenance

inductive Operation where
  | createSession (session : SessionDescriptor)
  | sessionInfo (id : Nat)
  | createObject (space name : String) (kind : ObjectKind) (session : Nat)
  | lookupObject (space name : String) (kind : Option ObjectKind)
  | lookupObjects (space name : String) (kind : Option ObjectKind) (flags : LookupFlags)
  | objectInfo (id : Nat)
  | allObjects (space : Option String)
  | addObjectProperty (id : Nat) (space key value : String)
  | objectProperties (id : Nat) (filter : PropertyFilter)
  | objectsWithProperty (space key value : String) (flags : LookupFlags)
  | objectsMatching (pattern : String) (flags : LookupFlags)
  | addRelation (source destination : Nat) (kind : RelationKind)
  | lookupRelation (source destination : Nat) (kind : RelationKind)
  | hasImmediateAncestor (object ancestor : Nat)
  | objectRelations (id : Nat) (direction : Direction)
  | addRelationProperty (id : Nat) (space key value : String)
  | relationProperties (id : Nat) (filter : PropertyFilter)
  | createBundle (name space : String) (session : Nat)
  | lookupBundle (name space : String)
  | lookupBundles (name space : String) (flags : LookupFlags)
  | deleteBundle (id : Nat)
  | bundleInfo (id : Nat)
  | bundleObjects (id : Nat)
  | bundleRelations (id : Nat)
  | addBundleProperty (id : Nat) (space key value : String)
  | bundleProperties (id : Nat) (filter : PropertyFilter)
  | addPrefix (bundle : Nat) (space iri : String)
  | prefixes (bundle : Nat) (space : Option String)
deriving DecidableEq, Repr

/-- A row that an operation lists. -/
inductive Listed where
  | id (id : Nat)
  | lookup (entry : LookupEntry)
  | object (info : ObjectInfo)
  | relation (info : RelationInfo)
  | property (entry : PropertyEntry)
  | abbreviation (entry : PrefixEntry)
deriving DecidableEq, Repr

/-- What an operation answers unless it fails. -/
inductive Answer where
  | done
  | id (id : Nat)
  | truth (holds : Bool)
  | session (info : SessionInfo)
  | object (info : ObjectInfo)
  | bundle (info : BundleInfo)
  /-- How a listing ended. -/
  | listed (status : Status)
deriving DecidableEq, Repr

namespace Operation

variable {W H C α : Type}

/-- An action that answers with what it returns. -/
def answering (wrap : α → Answer) (action : Action (Backend W H) α) :
    Action (C × Backend W H) Answer := do
  let a ← Action.onSecond action
  return wrap a

/-- An action that hands rows to a callback. -/
def listing (wrap : α → Listed) (callback : Listed → Action (C × Backend W H) Unit)
    (enumerate : (α → Action (C × Backend W H) Unit) → Action (C × Backend W H) Status) :
    Action (C × Backend W H) Answer := do
  let status ← enumerate fun row ↦ callback (wrap row)
  return .listed status

/-- Runs an operation; the rows that it lists go to the callback. -/
def run (driver : Driver W H) (callback : Listed → Action (C × Backend W H) Unit) :
    Operation → Action (C × Backend W H) Answer
  | createSession session => answering .id (Backend.createSession driver session)
  | sessionInfo id => answering .session (Backend.sessionInfo driver id)
  | createObject space name kind session =>
    answering .id (Backend.createObject driver space name kind session)
  | lookupObject space name kind => answering .id (Backend.lookupObject driver space name kind)
  | lookupObjects space name kind flags =>
    listing .lookup callback (Backend.lookupObjects driver space name kind flags)
  | objectInfo id => answering .object (Backend.objectInfo driver id)
  | allObjects space => listing .object callback (Backend.allObjects driver space)
  | addObjectProperty id space key value =>
    answering (fun _ ↦ .done) (Backend.addObjectProperty driver id space key value)
  | objectProperties id filter =>
    listing .property callback (Backend.objectProperties driver id filter)
  | objectsWithProperty space key value flags =>
    listing .id callback (Backend.objectsWithProperty driver space key value flags)
  | objectsMatching pattern flags =>
    listing .id callback (Backend.objectsMatching driver pattern flags)
  | addRelation source destination kind =>
    answering .id (Backend.addRelation driver source destination kind)
  | lookupRelation source destination kind =>
    answering .id (Backend.lookupRelation driver source destination kind)
  | hasImmediateAncestor object ancestor =>
    answering .truth (Backend.hasImmediateAncestor driver object ancestor)
  | objectRelations id direction =>
    listing .relation callback (Backend.objectRelations driver id direction)
  | addRelationProperty id space key value =>
    answering (fun _ ↦ .done) (Backend.addRelationProperty driver id space key value)
  | relationProperties id filter =>
    listing .property callback (Backend.relationProperties driver id filter)
  | createBundle name space session =>
    answering .id (Backend.createBundle driver name space session)
  | lookupBundle name space => answering .id (Backend.lookupBundle driver name space)
  | lookupBundles name space flags =>
    listing .lookup callback (Backend.lookupBundles driver name space flags)
  | deleteBundle id => answering (fun _ ↦ .done) (Backend.deleteBundle driver id)
  | bundleInfo id => answering .bundle (Backend.bundleInfo driver id)
  | bundleObjects id => listing .object callback (Backend.bundleObjects driver id)
  | bundleRelations id => listing .relation callback (Backend.bundleRelations driver id)
  | addBundleProperty id space key value =>
    answering (fun _ ↦ .done) (Backend.addBundleProperty driver id space key value)
  | bundleProperties id filter =>
    listing .property callback (Backend.bundleProperties driver id filter)
  | addPrefix bundle space iri =>
    answering (fun _ ↦ .done) (Backend.addPrefix driver bundle space iri)
  | prefixes bundle space => listing .abbreviation callback (Backend.prefixes driver bundle space)

/-- Whether an operation hands rows to a callback. -/
def lists : Operation → Bool
  | lookupObjects .. | allObjects .. | objectProperties .. | objectsWithProperty ..
  | objectsMatching .. | objectRelations .. | relationProperties .. | lookupBundles ..
  | bundleObjects .. | bundleRelations .. | bundleProperties .. | prefixes .. => true
  | _ => false

end Operation

end Provenance
