import Provenance.Request.Argument

/-!
Requests about objects and their properties.
-/

set_option autoImplicit false
set_option relaxedAutoImplicit false

namespace Provenance.Request

def createObject (space name : String) (kind : ObjectKind) (session : Nat) :
    Except Error (Request Nat) := do
  Argument.checkName space name
  let session ← Argument.id "session" session
  return oneId .createObject [.text space, .text name, .int kind.code, session]

/-- The parameters of a lookup by name, with a kind or without one. -/
def nameParams (space name : String) (kind : Option ObjectKind) : List Value :=
  match kind with
  | some kind => [.text space, .text name, .int kind.code]
  | none => [.text space, .text name]

/-- The most recent object with a name. Without a kind, bundles are left out. -/
def lookupObject (space name : String) (kind : Option ObjectKind) :
    Except Error (Request Nat) := do
  Argument.checkName space name
  let query := if kind.isSome then Query.lookupObjectByType else .lookupObject
  return oneId query (nameParams space name kind)

/-- Every object with a name, oldest first. -/
def lookupObjects (reader : Reader) (space name : String) (kind : Option ObjectKind) :
    Except Error (Request (List LookupEntry)) := do
  Argument.checkName space name
  let query := if kind.isSome then Query.lookupObjectExtByType else .lookupObjectExt
  return list query (nameParams space name kind) (lookupRow reader)

def objectInfo (reader : Reader) (id : Nat) : Except Error (Request ObjectInfo) := do
  let param ← Argument.id "object" id
  return first .getObjectInfo [param] (objectRow reader)

/-- Every object but the bundles, or those of them in one space. -/
def allObjects (reader : Reader) (space : Option String) :
    Except Error (Request (List ObjectInfo)) :=
  match space with
  | some space => do
    Argument.checkLength "prefix" space Limit.space
    return list .getAllObjectsWithPrefix [.text space] (objectRow reader)
  | none => return list .getAllObjects [] (objectRow reader)

def addObjectProperty (id : Nat) (space key value : String) : Except Error (Request Unit) :=
  addProperty .addObjectProperty "object" id space key value

def objectProperties (reader : Reader) (id : Nat) (filter : PropertyFilter) :
    Except Error (Request (List PropertyEntry)) :=
  properties .ofObjects "object" reader id filter

/-- The objects that carry exactly this property. -/
def objectsWithProperty (space key value : String) : Except Error (Request (List Nat)) := do
  Argument.checkProperty space key value
  return list .lookupObjectByProperty [.text space, .text key, .text value]
    (Reading.required 0 Value.toId)

/-- The objects with a property value that matches a pattern. -/
def objectsMatching (pattern : String) : Except Error (Request (List Nat)) := do
  Argument.checkLength "value pattern" pattern Limit.value
  return list .lookupObjectPropertyWildcard [.text pattern] (Reading.required 0 Value.toId)

end Provenance.Request
