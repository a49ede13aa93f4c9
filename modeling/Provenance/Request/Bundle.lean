import Provenance.Request.Argument

/-!
Requests about bundles: their contents, their properties and their prefixes.
-/

set_option autoImplicit false
set_option relaxedAutoImplicit false

namespace Provenance.Request

def createBundle (name space : String) (session : Nat) : Except Error (Request Nat) := do
  Argument.checkName space name
  let session ← Argument.id "session" session
  return oneId .createBundle [.text space, .text name, session]

def lookupBundle (name space : String) : Except Error (Request Nat) := do
  Argument.checkName space name
  return oneId .lookupBundle [.text space, .text name]

def lookupBundles (reader : Reader) (name space : String) :
    Except Error (Request (List LookupEntry)) := do
  Argument.checkName space name
  return list .lookupBundleExt [.text space, .text name] (lookupRow reader)

/-- Deletes a bundle with its members. -/
def deleteBundle (id : Nat) : Except Error (Request Unit) := do
  let param ← Argument.id "bundle" id
  return ⟨.deleteBundle, [param], fun _ ↦
    (Reading.single 0 Value.toId .standard).andThen fun fetched ↦
      .stop (fetched.toExcept.map fun _ ↦ ())⟩

/-- One bundle, column by column from one row. A missing name reads as the empty one. -/
def bundleReading (reader : Reader) : Reading BundleInfo := do
  let sameRow := FetchOptions.standard.currentRow.keepCursor
  let id ← (Reading.single 0 Value.toId FetchOptions.standard.keepCursor)
  let id ← Reading.stop id.toExcept
  let created ← Reading.single 1 (Value.toEpoch reader) sameRow
  let created ← Reading.stop created.toExcept
  let space ← Reading.single 2 (Value.toText reader) sameRow
  let space ← Reading.stop space.toExcept
  let name ← Reading.single 3 (Value.toText reader) sameRow.nullDistinct
  let name ← Reading.stop (match name with
    | .value name => .ok name
    | .null => .ok ""
    | .notFound => .error .notFound)
  let session ← Reading.single 4 Value.toId FetchOptions.standard.currentRow
  return ⟨id, session.toOption.getD 0, created, space, name⟩

def bundleInfo (reader : Reader) (id : Nat) : Except Error (Request BundleInfo) := do
  let param ← Argument.id "bundle" id
  return ⟨.getBundleInfo, [param], fun _ ↦ bundleReading reader⟩

/-- The members of a bundle and both ends of its member relations. -/
def bundleObjects (reader : Reader) (id : Nat) : Except Error (Request (List ObjectInfo)) := do
  let param ← Argument.id "bundle" id
  return list .getBundleObjects [param] (objectRow reader)

def memberRow : Reading RelationInfo := do
  let id ← Reading.required 0 Value.toId
  let source ← Reading.required 1 Value.toId
  let destination ← Reading.required 2 Value.toId
  let kind ← Reading.required 3 Value.toRelationKind
  return ⟨id, source, destination, kind⟩

def bundleRelations (id : Nat) : Except Error (Request (List RelationInfo)) := do
  let param ← Argument.id "bundle" id
  return list .getBundleRelations [param] memberRow

def addBundleProperty (id : Nat) (space key value : String) : Except Error (Request Unit) :=
  addProperty .addBundleProperty "bundle" id space key value

def bundleProperties (reader : Reader) (id : Nat) (filter : PropertyFilter) :
    Except Error (Request (List PropertyEntry)) :=
  properties .ofBundles "bundle" reader id filter

def addPrefix (bundle : Nat) (space iri : String) : Except Error (Request Unit) := do
  Argument.checkLength "prefix" space Limit.space
  Argument.checkLength "IRI" iri Limit.value
  let bundle ← Argument.id "bundle" bundle
  return command .addPrefix [bundle, .text space, .text iri]

def prefixRow (reader : Reader) : Reading PrefixEntry := do
  let bundle ← Reading.required 0 Value.toId
  let space ← Reading.required 1 (Value.toText reader)
  let iri ← Reading.required 2 (Value.toText reader)
  return ⟨bundle, space, iri⟩

/-- The prefixes of a bundle, or those of one name. -/
def prefixes (reader : Reader) (bundle : Nat) (space : Option String) :
    Except Error (Request (List PrefixEntry)) := do
  let bundle ← Argument.id "bundle" bundle
  match space with
  | some space =>
    Argument.checkLength "prefix" space Limit.space
    return list .getPrefixesWithPrefix [bundle, .text space] (prefixRow reader)
  | none => return list .getPrefixes [bundle] (prefixRow reader)

end Provenance.Request
