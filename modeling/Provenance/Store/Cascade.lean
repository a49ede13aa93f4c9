import Provenance.Store

/-!
Deleting. A relation takes its properties along and, unless it records a membership of a relation
itself, the records of its own membership in bundles. An object takes along its properties, its
prefixes, the relations from it and those to it. A bundle first takes its member relations, then
the objects that its remaining records name, then goes itself; a bundle among those objects goes
without its members.
-/

set_option autoImplicit false
set_option relaxedAutoImplicit false

namespace Provenance.Store

/-- Deletes the relations that satisfy the test. -/
def deleteRelations (doomed : RelationRow → Bool) (s : Store) : Store :=
  let named := (s.relations.filter fun row ↦ doomed row && !row.holdsRelation).map (·.id)
  let relations := s.relations.filter fun row ↦
    !doomed row && !(row.holdsRelation && named.contains row.destination)
  let left : Store := { s with relations }
  { left with
    relationProperties := s.relationProperties.filter fun row ↦ left.hasRelation row.owner }

/-- Deletes the objects that satisfy the test. -/
def deleteObjects (doomed : ObjectRow → Bool) (s : Store) : Store :=
  let lost := (s.objects.filter doomed).map (·.id)
  let left : Store := { s with objects := s.objects.filter fun row ↦ !doomed row }
  deleteRelations
    (fun row ↦ lost.contains row.source || (lost.contains row.destination && !row.holdsRelation))
    { left with
      objectProperties := s.objectProperties.filter fun row ↦ left.hasObject row.owner
      bundleProperties := s.bundleProperties.filter fun row ↦ left.hasObject row.owner
      prefixes := s.prefixes.filter fun row ↦ left.hasObject row.bundle }

/-- The relations that a bundle records as its members. -/
def memberRelations (s : Store) (bundle : Nat) : List Nat :=
  (s.relations.filter fun row ↦ row.source == bundle && row.holdsRelation).map (·.destination)

/-- The objects that a bundle records as its members. -/
def memberObjects (s : Store) (bundle : Nat) : List Nat :=
  (s.relations.filter fun row ↦ row.source == bundle && row.holdsObject).map (·.destination)

/-- What deleting a bundle takes before the bundle itself goes. -/
def deleteMembers (bundle : Nat) (s : Store) : Store :=
  let s := s.deleteRelations fun row ↦ (s.memberRelations bundle).contains row.id
  s.deleteObjects fun row ↦ (s.memberObjects bundle).contains row.id

/-- Deletes the bundle with this id. A bundle that is a member of itself is gone before its turn
comes, and is not returned. -/
def deleteBundle (id : Value) (s : Store) : List Row × Store :=
  match s.objects.find? fun row ↦ id.rowId? == some row.id && row.isBundle with
  | none => ([], s)
  | some bundle =>
    let s := s.deleteMembers bundle.id
    if s.hasObject bundle.id then
      (returned bundle.id, s.deleteObjects fun row ↦ row.id == bundle.id)
    else ([], s)

end Provenance.Store
