import Provenance.Ascending
import Provenance.Store.Cascade
import Provenance.Text.Like

/-!
What statements read. Rows come in ascending order of id, properties in the order in which they
were added.
-/

set_option autoImplicit false
set_option relaxedAutoImplicit false

namespace Provenance.Store

/-- The columns of an object that every enumeration of objects returns. -/
def objectColumns (row : ObjectRow) : Row :=
  [.int row.id, row.created, row.space, row.name, row.kind, row.session]

/-- The columns of a bundle that asking for it returns. -/
def bundleColumns (row : ObjectRow) : Row :=
  [.int row.id, row.created, row.space, row.name, row.session]

def propertyColumns (row : PropertyRow) : Row :=
  [.int row.owner, row.space, row.key, row.value]

/-- Whether an id equals a value. -/
def idEquals (id : Nat) (value : Value) : Bool := value.rowId? == some id

def sessionsById (id : Value) (s : Store) : List Row :=
  (s.sessions.filter fun row ↦ idEquals row.id id).map fun row ↦
    [row.macAddress, row.user, row.pid, row.program, row.commandLine, row.started]

/-- The objects of a name, without the bundles. -/
def named (space name : Value) (s : Store) : List ObjectRow :=
  s.objects.filter fun row ↦
    row.space.equalsText space && row.name.equalsText name && !row.isBundle

/-- The objects of a name and a kind. -/
def namedOfKind (space name kind : Value) (s : Store) : List ObjectRow :=
  s.objects.filter fun row ↦
    row.space.equalsText space && row.name.equalsText name && row.kind.equalsNumber kind

/-- The id of the last of some objects. -/
def latest (rows : List ObjectRow) : List Row :=
  (rows.getLast?.map fun row ↦ [Value.int row.id]).toList

def withTimes (rows : List ObjectRow) : List Row :=
  rows.map fun row ↦ [.int row.id, row.created]

def objectsById (id : Value) (s : Store) : List Row :=
  (s.objects.filter fun row ↦ idEquals row.id id).map objectColumns

def plainObjects (s : Store) : List Row :=
  (s.objects.filter fun row ↦ !row.isBundle).map objectColumns

def plainObjectsIn (space : Value) (s : Store) : List Row :=
  (s.objects.filter fun row ↦ !row.isBundle && row.space.equalsText space).map objectColumns

def bundlesById (id : Value) (s : Store) : List Row :=
  (s.objects.filter fun row ↦ idEquals row.id id && row.isBundle).map bundleColumns

/-- The owners of the properties that satisfy a test. -/
def owners (test : PropertyRow → Bool) (rows : List PropertyRow) : List Row :=
  (Ascending.ofList ((rows.filter test).map (·.owner))).map fun (id : Nat) ↦ [Value.int id]

def objectsWithProperty (space key value : Value) (s : Store) : List Row :=
  owners (fun row ↦
    row.space.equalsText space && row.key.equalsText key && row.value.equalsText value)
    s.objectProperties

/-- Whether a column matches a pattern. Neither matches null. -/
def matchesPattern (pattern column : Value) : Bool :=
  match pattern.patternText?, column.patternText? with
  | some pattern, some text =>
    Text.like (Text.untilNul pattern.toList) (Text.untilNul text.toList)
  | _, _ => false

def objectsMatching (pattern : Value) (s : Store) : List Row :=
  owners (fun row ↦ matchesPattern pattern row.value) s.objectProperties

/-- The properties of an owner that satisfy a test. -/
def propertiesOf (owner : Value) (test : PropertyRow → Bool) (rows : List PropertyRow) :
    List Row :=
  (rows.filter fun row ↦ idEquals row.owner owner && test row).map propertyColumns

def prefixesOf (bundle : Value) (test : PrefixRow → Bool) (s : Store) : List Row :=
  (s.prefixes.filter fun row ↦ idEquals row.bundle bundle && test row).map fun row ↦
    [.int row.bundle, row.space, row.iri]

/-- One of the eighteen kinds of the vocabulary, which have the codes below 19. -/
def isPlain (row : RelationRow) : Bool := row.kind.isBelow 19

def relationsBetween (source destination kind : Value) (s : Store) : List Row :=
  ((s.relations.filter fun row ↦
    idEquals row.source source && idEquals row.destination destination &&
      row.kind.equalsNumber kind).take 1).map fun row ↦ [.int row.id]

/-- Whether one relation comes before another in an index by kind. Reals only occur as kinds that
no integer equals. -/
def kindBefore (a b : RelationRow) : Bool :=
  match a.kind, b.kind with
  | .int i, .int j => i < j
  | .real x, .int j => x.isInfinite || x.ltInt j
  | .int i, .real x => !(x.isInfinite || x.ltInt i)
  | _, _ => false

/-- One relation of the vocabulary from one object to another: of the least kind the oldest. -/
def immediate (source destination : Value) (s : Store) : List Row :=
  let found := s.relations.filter fun row ↦
    idEquals row.source source && idEquals row.destination destination && isPlain row
  match found with
  | [] => []
  | row :: rest =>
    [[.int (rest.foldl (fun best row ↦ if kindBefore row best then row else best) row).id]]

def leaving (object : Value) (s : Store) : List Row :=
  (s.relations.filter fun row ↦ idEquals row.source object && isPlain row).map fun row ↦
    [.int row.id, .int row.destination, row.kind]

def entering (object : Value) (s : Store) : List Row :=
  (s.relations.filter fun row ↦ idEquals row.destination object && isPlain row).map fun row ↦
    [.int row.id, .int row.source, row.kind]

/-- The relations that a bundle records as members, once per record. -/
def membersOf (bundle : Value) (s : Store) : List RelationRow :=
  let records := s.relations.filter fun row ↦ idEquals row.source bundle && row.holdsRelation
  s.relations.flatMap fun row ↦
    (records.filter fun entry ↦ entry.destination == row.id).map fun _ ↦ row

def bundleRelations (bundle : Value) (s : Store) : List Row :=
  (s.membersOf bundle).map fun row ↦
    [.int row.id, .int row.source, .int row.destination, row.kind]

/-- The objects that a bundle records as members, and both ends of the relations that it does. -/
def bundleObjects (bundle : Value) (s : Store) : List Row :=
  let recorded := (s.relations.filter fun row ↦
    idEquals row.source bundle && row.holdsObject).map (·.destination)
  let members := s.membersOf bundle
  let ids := recorded ++ members.map (·.source) ++ members.map (·.destination)
  (s.objects.filter fun row ↦ ids.contains row.id).map objectColumns

end Provenance.Store
