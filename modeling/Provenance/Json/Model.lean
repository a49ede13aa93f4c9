import Provenance.Json.Field
import Provenance.Json.Text
import Provenance.Model

/-!
Records of the model as JSON, every field given. A kind is its name.
-/

set_option autoImplicit false
set_option relaxedAutoImplicit false

namespace Provenance

def ObjectKind.ofJson? : Json → Option ObjectKind :=
  Json.variant? fun name ↦ ObjectKind.all.find? fun kind ↦ kind.name == name

def ObjectKind.toJson (kind : ObjectKind) : Json := .ofText kind.name

def RelationKind.ofJson? : Json → Option RelationKind :=
  Json.variant? fun name ↦ RelationKind.all.find? fun kind ↦ kind.name == name

def RelationKind.toJson (kind : RelationKind) : Json := .ofText kind.name

def Direction.ofJson? : Json → Option Direction :=
  Json.variant? fun name ↦ [Direction.ancestors, .descendants].find? fun d ↦ d.name == name

def Direction.toJson (direction : Direction) : Json := .ofText direction.name

def SessionDescriptor.ofJson? (json : Json) : Option SessionDescriptor := do
  match ← json.record? ["mac_address", "user", "pid", "program", "cmdline"] with
  | [macAddress, user, pid, program, commandLine] =>
    return ⟨← macAddress.text?, ← user.text?, ← pid.signed?, ← program.text?,
      ← commandLine.text?⟩
  | _ => none

def SessionDescriptor.toJson (session : SessionDescriptor) : Json :=
  .ofFields [("mac_address", .ofText session.macAddress), ("user", .ofText session.user),
    ("pid", .ofInt session.pid), ("program", .ofText session.program),
    ("cmdline", .ofText session.commandLine)]

def SessionInfo.ofJson? (json : Json) : Option SessionInfo := do
  match ← json.record?
      ["id", "mac_address", "user", "pid", "program", "cmdline", "start_time"] with
  | [id, macAddress, user, pid, program, commandLine, startTime] =>
    return ⟨← id.id?, ← macAddress.text?, ← user.text?, ← pid.signed?, ← program.text?,
      ← commandLine.text?, ← startTime.signed?⟩
  | _ => none

def SessionInfo.toJson (info : SessionInfo) : Json :=
  .ofFields [("id", .ofNat info.id), ("mac_address", .ofText info.macAddress),
    ("user", .ofText info.user), ("pid", .ofInt info.pid), ("program", .ofText info.program),
    ("cmdline", .ofText info.commandLine), ("start_time", .ofInt info.startTime)]

def ObjectInfo.ofJson? (json : Json) : Option ObjectInfo := do
  match ← json.record?
      ["id", "creation_session", "creation_time", "prefix", "name", "object_type"] with
  | [id, session, created, space, name, kind] =>
    return ⟨← id.id?, ← session.id?, ← created.signed?, ← space.text?, ← name.text?,
      ← ObjectKind.ofJson? kind⟩
  | _ => none

def ObjectInfo.toJson (info : ObjectInfo) : Json :=
  .ofFields [("id", .ofNat info.id), ("creation_session", .ofNat info.session),
    ("creation_time", .ofInt info.created), ("prefix", .ofText info.space),
    ("name", .ofText info.name), ("object_type", info.kind.toJson)]

def BundleInfo.ofJson? (json : Json) : Option BundleInfo := do
  match ← json.record? ["id", "creation_session", "creation_time", "prefix", "name"] with
  | [id, session, created, space, name] =>
    return ⟨← id.id?, ← session.id?, ← created.signed?, ← space.text?, ← name.text?⟩
  | _ => none

def BundleInfo.toJson (info : BundleInfo) : Json :=
  .ofFields [("id", .ofNat info.id), ("creation_session", .ofNat info.session),
    ("creation_time", .ofInt info.created), ("prefix", .ofText info.space),
    ("name", .ofText info.name)]

def RelationInfo.ofJson? (json : Json) : Option RelationInfo := do
  match ← json.record? ["id", "query_object_id", "other_object_id", "relation_type"] with
  | [id, queried, other, kind] =>
    return ⟨← id.id?, ← queried.id?, ← other.id?, ← RelationKind.ofJson? kind⟩
  | _ => none

def RelationInfo.toJson (info : RelationInfo) : Json :=
  .ofFields [("id", .ofNat info.id), ("query_object_id", .ofNat info.queried),
    ("other_object_id", .ofNat info.other), ("relation_type", info.kind.toJson)]

def PropertyEntry.ofJson? (json : Json) : Option PropertyEntry := do
  match ← json.record? ["id", "prefix", "key", "value"] with
  | [id, space, key, value] =>
    return ⟨← id.id?, ← space.text?, ← key.text?, ← value.text?⟩
  | _ => none

def PropertyEntry.toJson (entry : PropertyEntry) : Json :=
  .ofFields [("id", .ofNat entry.owner), ("prefix", .ofText entry.space),
    ("key", .ofText entry.key), ("value", .ofText entry.value)]

def PrefixEntry.ofJson? (json : Json) : Option PrefixEntry := do
  match ← json.record? ["id", "prefix", "iri"] with
  | [id, space, iri] => return ⟨← id.id?, ← space.text?, ← iri.text?⟩
  | _ => none

def PrefixEntry.toJson (entry : PrefixEntry) : Json :=
  .ofFields [("id", .ofNat entry.bundle), ("prefix", .ofText entry.space),
    ("iri", .ofText entry.iri)]

def LookupEntry.toJson (entry : LookupEntry) : Json :=
  .ofFields [("id", .ofNat entry.id), ("timestamp", .ofInt entry.time)]

end Provenance
