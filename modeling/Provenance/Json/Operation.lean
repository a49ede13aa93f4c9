import Provenance.Json.Model
import Provenance.Operation

/-!
Operations as JSON: a record names the operation under `do` and gives its arguments, any of which it
may leave out. What is listed and what is answered is written as JSON too.
-/

set_option autoImplicit false
set_option relaxedAutoImplicit false

namespace Provenance

/-- A description whose fields may be left out. -/
def SessionDescriptor.ofFields (json : Json) : SessionDescriptor :=
  ⟨json.textAt "mac_address", json.textAt "user", json.intAt "pid", json.textAt "program",
    json.textAt "cmdline"⟩

/-- A key counts only together with its prefix. -/
def PropertyFilter.ofJson (json : Json) : PropertyFilter :=
  match json.textAt? "prefix", json.textAt? "key" with
  | some p, some k => .key p k
  | some p, none => .space p
  | none, _ => .all

/-- The kind of object whose code is given, if one is. -/
def ObjectKind.ofField (json : Json) : Except Error (Option ObjectKind) :=
  match json.field? "type" with
  | some (.number _) => (ofCode (json.intAt "type")).map some
  | _ => .ok none

/-- As `ofField`; without a code, an entity. -/
def ObjectKind.ofFieldOrEntity (json : Json) : Except Error ObjectKind :=
  (ofField json).map fun kind ↦ kind.getD .entity

def RelationKind.ofField (json : Json) : Except Error RelationKind := ofCode (json.intAt "type")

namespace Operation

/-- The operation that a record names, if it names one. Its kind of object or relation may be
unknown. -/
def ofJson? (json : Json) : Option (Except Error Operation) :=
  let id := json.natAt "id"
  let space := json.textAt "prefix"
  let name := json.textAt "name"
  let key := json.textAt "key"
  let value := json.textAt "value"
  let session := json.natAt "session"
  let source := json.natAt "from"
  let destination := json.natAt "to"
  let flags : LookupFlags := ⟨json.flagAt "no_fail"⟩
  let filter := PropertyFilter.ofJson json
  match json.textAt "do" with
  | "create_session" => some (.ok (.createSession (.ofFields json)))
  | "get_session_info" => some (.ok (.sessionInfo id))
  | "create_object" =>
    some ((ObjectKind.ofFieldOrEntity json).map fun kind ↦ .createObject space name kind session)
  | "lookup_object" =>
    some ((ObjectKind.ofField json).map fun kind ↦ .lookupObject space name kind)
  | "lookup_object_ext" =>
    some ((ObjectKind.ofField json).map fun kind ↦ .lookupObjects space name kind flags)
  | "get_object_info" => some (.ok (.objectInfo id))
  | "get_all_objects" => some (.ok (.allObjects (json.textAt? "prefix")))
  | "add_object_property" => some (.ok (.addObjectProperty id space key value))
  | "get_object_properties" => some (.ok (.objectProperties id filter))
  | "lookup_object_by_property" => some (.ok (.objectsWithProperty space key value flags))
  | "lookup_object_property_wildcard" => some (.ok (.objectsMatching value flags))
  | "add_relation" =>
    some ((RelationKind.ofField json).map fun kind ↦ .addRelation source destination kind)
  | "lookup_relation" =>
    some ((RelationKind.ofField json).map fun kind ↦ .lookupRelation source destination kind)
  | "has_immediate_ancestor" =>
    some (.ok (.hasImmediateAncestor (json.natAt "object") (json.natAt "query")))
  | "get_object_relations" =>
    let down := json.textAt "direction" == Direction.descendants.name
    some (.ok (.objectRelations id (if down then .descendants else .ancestors)))
  | "add_relation_property" => some (.ok (.addRelationProperty id space key value))
  | "get_relation_properties" => some (.ok (.relationProperties id filter))
  | "create_bundle" => some (.ok (.createBundle name space session))
  | "lookup_bundle" => some (.ok (.lookupBundle name space))
  | "lookup_bundle_ext" => some (.ok (.lookupBundles name space flags))
  | "delete_bundle" => some (.ok (.deleteBundle id))
  | "get_bundle_info" => some (.ok (.bundleInfo id))
  | "get_bundle_objects" => some (.ok (.bundleObjects id))
  | "get_bundle_relations" => some (.ok (.bundleRelations id))
  | "add_bundle_property" => some (.ok (.addBundleProperty id space key value))
  | "get_bundle_properties" => some (.ok (.bundleProperties id filter))
  | "add_prefix" => some (.ok (.addPrefix id space (json.textAt "iri")))
  | "get_prefixes" => some (.ok (.prefixes id (json.textAt? "prefix")))
  | _ => none

end Operation

def Listed.toJson : Listed → Json
  | id i => .ofNat i
  | lookup entry => entry.toJson
  | object info => info.toJson
  | relation info => info.toJson
  | property entry => entry.toJson
  | abbreviation entry => entry.toJson

def Answer.toJson : Answer → Json
  | done => .null
  | id i => .ofNat i
  | truth holds => .bool holds
  | session info => info.toJson
  | object info => info.toJson
  | bundle info => info.toJson
  | listed status => .ofText status.name

end Provenance
