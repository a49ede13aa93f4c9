import Provenance.Model
import Provenance.Request
import Provenance.Word

/-!
Arguments of operations, checked before any request is made: texts have limits in bytes, ids lie
between one and the greatest integer a column can hold.
-/

set_option autoImplicit false
set_option relaxedAutoImplicit false

namespace Provenance

namespace Limit

def macAddress : Nat := 18

def user : Nat := 255

def program : Nat := 4095

def commandLine : Nat := 4095

/-- A prefix, which is the space that a name, a key or an abbreviation lives in. -/
def space : Nat := 255

def name : Nat := 255

def key : Nat := 255

/-- Property values, patterns and the targets of prefixes. -/
def value : Nat := 4095

/-- The greatest integer that a column can hold. -/
def id : Nat := Word.greatest.toNat

end Limit

namespace Argument

def tooLong (what : String) (bytes limit : Nat) : Error :=
  .invalidArgument s!"{what} is {bytes} bytes, longer than {limit}"

def checkLength (what value : String) (limit : Nat) : Except Error Unit :=
  if limit < value.utf8ByteSize then .error (tooLong what value.utf8ByteSize limit) else .ok ()

/-- An id as a parameter. -/
def id (what : String) (id : Nat) : Except Error Value :=
  if id = 0 then .error (.invalidArgument s!"{what} id must not be zero")
  else if Limit.id < id then .error (.invalidArgument s!"{what} id {id} out of range")
  else .ok (.int id)

def checkName (space name : String) : Except Error Unit := do
  checkLength "prefix" space Limit.space
  checkLength "name" name Limit.name

def checkProperty (space key value : String) : Except Error Unit := do
  checkLength "prefix" space Limit.space
  checkLength "key" key Limit.key
  checkLength "value" value Limit.value

end Argument

namespace Request

variable {α : Type}

/-- A request whose rows nobody reads. -/
def command (query : Query) (params : List Value) : Request Unit :=
  ⟨query, params, fun _ ↦ .stop (.ok ())⟩

/-- A request for the id in the first column of the first row. -/
def oneId (query : Query) (params : List Value) : Request Nat :=
  ⟨query, params, fun _ ↦
    (Reading.single 0 Value.toId .standard).andThen fun fetched ↦ .stop fetched.toExcept⟩

/-- A request for every row. -/
def list (query : Query) (params : List Value) (row : Reading α) : Request (List α) :=
  ⟨query, params, fun bound ↦ Reading.rows row bound⟩

/-- A request that reads every row and answers with the first. -/
def first (query : Query) (params : List Value) (row : Reading α) : Request α :=
  ⟨query, params, fun bound ↦
    (Reading.rows row bound).andThen fun rows ↦
      match rows with
      | [] => .stop (.error .notFound)
      | a :: _ => .stop (.ok a)⟩

end Request

/-- The three statements that enumerate the properties of one kind of owner. -/
structure PropertyQueries where
  all : Query
  inSpace : Query
  withKey : Query

namespace PropertyQueries

def ofObjects : PropertyQueries :=
  ⟨.getObjectProperties, .getObjectPropertiesWithPrefix, .getObjectPropertiesWithKey⟩

def ofRelations : PropertyQueries :=
  ⟨.getRelationProperties, .getRelationPropertiesWithPrefix, .getRelationPropertiesWithKey⟩

def ofBundles : PropertyQueries :=
  ⟨.getBundleProperties, .getBundlePropertiesWithPrefix, .getBundlePropertiesWithKey⟩

end PropertyQueries

namespace Request

def propertyRow (reader : Reader) : Reading PropertyEntry := do
  let owner ← Reading.required 0 Value.toId
  let space ← Reading.required 1 (Value.toText reader)
  let key ← Reading.required 2 (Value.toText reader)
  let value ← Reading.required 3 (Value.toText reader)
  return ⟨owner, space, key, value⟩

/-- The properties of an owner that pass a filter. -/
def properties (queries : PropertyQueries) (what : String) (reader : Reader) (owner : Nat)
    (filter : PropertyFilter) : Except Error (Request (List PropertyEntry)) := do
  let owner ← Argument.id what owner
  match filter with
  | .all => return list queries.all [owner] (propertyRow reader)
  | .space space =>
    Argument.checkLength "prefix" space Limit.space
    return list queries.inSpace [owner, .text space] (propertyRow reader)
  | .key space key =>
    Argument.checkLength "prefix" space Limit.space
    Argument.checkLength "key" key Limit.key
    return list queries.withKey [owner, .text space, .text key] (propertyRow reader)

/-- One more property of an owner. -/
def addProperty (query : Query) (what : String) (owner : Nat) (space key value : String) :
    Except Error (Request Unit) := do
  Argument.checkProperty space key value
  let owner ← Argument.id what owner
  return command query [owner, .text space, .text key, .text value]

def lookupRow (reader : Reader) : Reading LookupEntry := do
  let id ← Reading.required 0 Value.toId
  let time ← Reading.required 1 (Value.toEpoch reader)
  return ⟨id, time⟩

def objectRow (reader : Reader) : Reading ObjectInfo := do
  let id ← Reading.required 0 Value.toId
  let created ← Reading.required 1 (Value.toEpoch reader)
  let space ← Reading.required 2 (Value.toText reader)
  let name ← Reading.optional 3 (Value.toText reader)
  let kind ← Reading.required 4 Value.toObjectKind
  let session ← Reading.optional 5 Value.toId
  return ⟨id, session.getD 0, created, space, name.getD "", kind⟩

end Request

end Provenance
