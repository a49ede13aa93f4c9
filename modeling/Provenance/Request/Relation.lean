import Provenance.Request.Argument

/-!
Requests about relations and their properties.
-/

set_option autoImplicit false
set_option relaxedAutoImplicit false

namespace Provenance.Request

/-- Both ends of a relation and its kind, as parameters. -/
def relationParams (source destination : Nat) (kind : RelationKind) :
    Except Error (List Value) := do
  let source ← Argument.id "source" source
  let destination ← Argument.id "destination" destination
  return [source, destination, .int kind.code]

def addRelation (source destination : Nat) (kind : RelationKind) :
    Except Error (Request Nat) := do
  return oneId .addRelation (← relationParams source destination kind)

def lookupRelation (source destination : Nat) (kind : RelationKind) :
    Except Error (Request Nat) := do
  return oneId .lookupRelation (← relationParams source destination kind)

/-- Whether a relation that is no bundle membership leads from one object to another. -/
def hasImmediateAncestor (object ancestor : Nat) : Except Error (Request Bool) := do
  let object ← Argument.id "object" object
  let ancestor ← Argument.id "query object" ancestor
  return ⟨.hasImmediateAncestor, [object, ancestor], fun _ ↦
    (Reading.single 0 Value.toId .standard).andThen fun fetched ↦
      .stop (.ok fetched.toOption.isSome)⟩

def endRow (queried : Nat) : Reading RelationInfo := do
  let id ← Reading.required 0 Value.toId
  let other ← Reading.required 1 Value.toId
  let kind ← Reading.required 2 Value.toRelationKind
  return ⟨id, queried, other, kind⟩

/-- The relations that leave an object, or those that enter it. -/
def objectRelations (id : Nat) (direction : Direction) :
    Except Error (Request (List RelationInfo)) := do
  let param ← Argument.id "object" id
  let query := match direction with
    | .ancestors => Query.getObjectAncestors
    | .descendants => .getObjectDescendants
  return list query [param] (endRow id)

def addRelationProperty (id : Nat) (space key value : String) : Except Error (Request Unit) :=
  addProperty .addRelationProperty "relation" id space key value

def relationProperties (reader : Reader) (id : Nat) (filter : PropertyFilter) :
    Except Error (Request (List PropertyEntry)) :=
  properties .ofRelations "relation" reader id filter

end Provenance.Request
