import Provenance.Store.Affinity

/-!
The tables of a store and the rows that inserting adds to them. Ids count up from one in each of
the three tables that hand them out, and are never handed out twice; an insert that is refused hands
out none. Objects and bundles share a table.
-/

set_option autoImplicit false
set_option relaxedAutoImplicit false

namespace Provenance

structure SessionRow where
  id : Nat
  macAddress : Value
  user : Value
  pid : Value
  program : Value
  commandLine : Value
  started : Value
deriving DecidableEq, Repr

structure ObjectRow where
  id : Nat
  created : Value
  space : Value
  name : Value
  kind : Value
  session : Value
deriving DecidableEq, Repr

/-- `destination` is the id of a relation if the relation records that one's membership in a
bundle, and of an object otherwise. -/
structure RelationRow where
  id : Nat
  source : Nat
  destination : Nat
  kind : Value
deriving DecidableEq, Repr

structure PropertyRow where
  owner : Nat
  space : Value
  key : Value
  value : Value
deriving DecidableEq, Repr

structure PrefixRow where
  bundle : Nat
  space : Value
  iri : Value
deriving DecidableEq, Repr

def ObjectRow.isBundle (row : ObjectRow) : Bool := row.kind == .int 4

/-- The relation records that an object is in a bundle. -/
def RelationRow.holdsObject (row : RelationRow) : Bool := row.kind == .int 19

/-- The relation records that a relation is in a bundle. -/
def RelationRow.holdsRelation (row : RelationRow) : Bool := row.kind == .int 20

structure Store where
  sessions : List SessionRow
  objects : List ObjectRow
  relations : List RelationRow
  objectProperties : List PropertyRow
  relationProperties : List PropertyRow
  bundleProperties : List PropertyRow
  prefixes : List PrefixRow
  lastSession : Nat
  lastObject : Nat
  lastRelation : Nat
deriving DecidableEq, Repr

/-- Why a statement was refused. -/
inductive Violation where
  /-- A row that another row must refer to is missing. -/
  | foreignKey
  | notNull (table column : String)
  | noDestination
  | noMemberRelation
  | parameterCount (given needed : Nat)
  /-- A value that is to be given out in a column is a text in another form than UTF-8. -/
  | garbledText (column : Nat)
deriving DecidableEq, Repr

def Violation.toError : Violation → DriverError
  | foreignKey => .single "23000" 787 "FOREIGN KEY constraint failed"
  | notNull table column => .single "23000" 1299 s!"NOT NULL constraint failed: {table}.{column}"
  | noDestination => .single "23000" 1811 "relation destination object does not exist"
  | noMemberRelation => .single "23000" 1811 "bundle relation destination relation does not exist"
  | parameterCount given needed =>
    .single "07002" 0 s!"Wrong number of parameters passed to query. Got {given}, needed {needed}"
  | garbledText column =>
    .single "HY000" 0 s!"Conversion error from type Text at index: {column}, invalid utf-8 sequence"

namespace Store

def empty : Store := ⟨[], [], [], [], [], [], [], 0, 0, 0⟩

def hasSession (s : Store) (id : Nat) : Bool := s.sessions.any fun row ↦ row.id == id

def hasObject (s : Store) (id : Nat) : Bool := s.objects.any fun row ↦ row.id == id

def hasRelation (s : Store) (id : Nat) : Bool := s.relations.any fun row ↦ row.id == id

/-- The test holds of the row id that a value stands for. -/
def refersTo (test : Nat → Bool) (value : Value) : Bool :=
  match value.rowId? with
  | some id => test id
  | none => false

/-- The id of a new row, as the one column of the one row that an insert returns. -/
def returned (id : Nat) : List Row := [[.int id]]

def addSession (started macAddress user pid program commandLine : Value) (s : Store) :
    Except Violation (List Row × Store) :=
  if started.isNull then .error (.notNull "cpl_sessions" "initialization_time")
  else
    let id := s.lastSession + 1
    let row : SessionRow :=
      ⟨id, macAddress.inTextColumn, user.inTextColumn, pid.inNumericColumn,
        program.inTextColumn, commandLine.inTextColumn, started.inNumericColumn⟩
    .ok (returned id, { s with sessions := s.sessions ++ [row], lastSession := id })

/-- A new object or bundle. The session may be left out; one that is given must exist. -/
def addObject (created space name kind session : Value) (s : Store) :
    Except Violation (List Row × Store) :=
  if created.isNull then .error (.notNull "cpl_objects" "creation_time")
  else if space.isNull then .error (.notNull "cpl_objects" "prefix")
  else if kind.isNull then .error (.notNull "cpl_objects" "type")
  else if !session.isNull && !refersTo s.hasSession session then .error .foreignKey
  else
    let id := s.lastObject + 1
    let row : ObjectRow :=
      ⟨id, created.inNumericColumn, space.inTextColumn, name.inTextColumn, kind.inNumericColumn,
        session.inNumericColumn⟩
    .ok (returned id, { s with objects := s.objects ++ [row], lastObject := id })

/-- A new relation. The destination is looked for first, among the relations if the kind records
the membership of a relation and among the objects otherwise. -/
def addRelation (source destination kind : Value) (s : Store) :
    Except Violation (List Row × Store) :=
  let kind := kind.inNumericColumn
  if kind == .int 20 && !refersTo s.hasRelation destination then .error .noMemberRelation
  else if !kind.isNull && kind != .int 20 && !refersTo s.hasObject destination then
    .error .noDestination
  else if source.isNull then .error (.notNull "cpl_relations" "from_id")
  else if destination.isNull then .error (.notNull "cpl_relations" "to_id")
  else if kind.isNull then .error (.notNull "cpl_relations" "type")
  else if !refersTo s.hasObject source then .error .foreignKey
  else
    let id := s.lastRelation + 1
    let row : RelationRow := ⟨id, (source.rowId?).getD 0, (destination.rowId?).getD 0, kind⟩
    .ok (returned id, { s with relations := s.relations ++ [row], lastRelation := id })

/-- A new row of a property table, whose owner must satisfy the test. -/
def newProperty (table : String) (exists? : Nat → Bool) (owner space key value : Value) :
    Except Violation PropertyRow :=
  if owner.isNull then .error (.notNull table "id")
  else if space.isNull then .error (.notNull table "prefix")
  else if key.isNull then .error (.notNull table "name")
  else if value.isNull then .error (.notNull table "value")
  else if !refersTo exists? owner then .error .foreignKey
  else
    .ok ⟨(owner.rowId?).getD 0, space.inTextColumn, key.inTextColumn, value.inTextColumn⟩

def addObjectProperty (owner space key value : Value) (s : Store) :
    Except Violation (List Row × Store) :=
  match newProperty "cpl_object_properties" s.hasObject owner space key value with
  | .ok row => .ok ([], { s with objectProperties := s.objectProperties ++ [row] })
  | .error violation => .error violation

def addRelationProperty (owner space key value : Value) (s : Store) :
    Except Violation (List Row × Store) :=
  match newProperty "cpl_relation_properties" s.hasRelation owner space key value with
  | .ok row => .ok ([], { s with relationProperties := s.relationProperties ++ [row] })
  | .error violation => .error violation

def addBundleProperty (owner space key value : Value) (s : Store) :
    Except Violation (List Row × Store) :=
  match newProperty "cpl_bundle_properties" s.hasObject owner space key value with
  | .ok row => .ok ([], { s with bundleProperties := s.bundleProperties ++ [row] })
  | .error violation => .error violation

def addPrefix (bundle space iri : Value) (s : Store) : Except Violation (List Row × Store) :=
  if bundle.isNull then .error (.notNull "cpl_prefixes" "id")
  else if space.isNull then .error (.notNull "cpl_prefixes" "prefix")
  else if iri.isNull then .error (.notNull "cpl_prefixes" "iri")
  else if !refersTo s.hasObject bundle then .error .foreignKey
  else
    let row : PrefixRow := ⟨(bundle.rowId?).getD 0, space.inTextColumn, iri.inTextColumn⟩
    .ok ([], { s with prefixes := s.prefixes ++ [row] })

end Store

end Provenance
