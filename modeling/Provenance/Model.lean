import Provenance.Value

/-!
What is recorded: sessions, objects of four kinds, relations of twenty, bundles, properties and
prefixes, in the form in which they cross the interface of a backend.
-/

set_option autoImplicit false
set_option relaxedAutoImplicit false

namespace Provenance

inductive ObjectKind where
  | entity
  | activity
  | agent
  | bundle
deriving DecidableEq, Repr

namespace ObjectKind

def all : List ObjectKind := [entity, activity, agent, bundle]

def name : ObjectKind → String
  | entity => "Entity"
  | activity => "Activity"
  | agent => "Agent"
  | bundle => "Bundle"

def code : ObjectKind → Int
  | entity => 1
  | activity => 2
  | agent => 3
  | bundle => 4

def ofCode (code : Int) : Except Error ObjectKind :=
  match all.find? fun kind ↦ kind.code == code with
  | some kind => .ok kind
  | none => .error (.invalidType s!"object type {code}")

end ObjectKind

/-- The eighteen kinds of the provenance vocabulary, then the two that record what a bundle
contains: `inBundle` leads from a bundle to a member object, `bundleRelation` from a bundle to a
member relation. -/
inductive RelationKind where
  | alternateOf
  | derivedByInsertionFrom
  | derivedByRemovalFrom
  | hadMember
  | hadDictionaryMember
  | specializationOf
  | wasDerivedFrom
  | wasGeneratedBy
  | wasInvalidatedBy
  | wasAttributedTo
  | used
  | wasInformedBy
  | wasStartedBy
  | wasEndedBy
  | hadPlan
  | wasAssociatedWith
  | actedOnBehalfOf
  | wasInfluencedBy
  | inBundle
  | bundleRelation
deriving DecidableEq, Repr

namespace RelationKind

/-- In the order of their codes, which start at 1. -/
def all : List RelationKind :=
  [alternateOf, derivedByInsertionFrom, derivedByRemovalFrom, hadMember, hadDictionaryMember,
    specializationOf, wasDerivedFrom, wasGeneratedBy, wasInvalidatedBy, wasAttributedTo, used,
    wasInformedBy, wasStartedBy, wasEndedBy, hadPlan, wasAssociatedWith, actedOnBehalfOf,
    wasInfluencedBy, inBundle, bundleRelation]

def name : RelationKind → String
  | alternateOf => "AlternateOf"
  | derivedByInsertionFrom => "DerivedByInsertionFrom"
  | derivedByRemovalFrom => "DerivedByRemovalFrom"
  | hadMember => "HadMember"
  | hadDictionaryMember => "HadDictionaryMember"
  | specializationOf => "SpecializationOf"
  | wasDerivedFrom => "WasDerivedFrom"
  | wasGeneratedBy => "WasGeneratedBy"
  | wasInvalidatedBy => "WasInvalidatedBy"
  | wasAttributedTo => "WasAttributedTo"
  | used => "Used"
  | wasInformedBy => "WasInformedBy"
  | wasStartedBy => "WasStartedBy"
  | wasEndedBy => "WasEndedBy"
  | hadPlan => "HadPlan"
  | wasAssociatedWith => "WasAssociatedWith"
  | actedOnBehalfOf => "ActedOnBehalfOf"
  | wasInfluencedBy => "WasInfluencedBy"
  | inBundle => "InBundle"
  | bundleRelation => "BundleRelation"

def code : RelationKind → Int
  | alternateOf => 1
  | derivedByInsertionFrom => 2
  | derivedByRemovalFrom => 3
  | hadMember => 4
  | hadDictionaryMember => 5
  | specializationOf => 6
  | wasDerivedFrom => 7
  | wasGeneratedBy => 8
  | wasInvalidatedBy => 9
  | wasAttributedTo => 10
  | used => 11
  | wasInformedBy => 12
  | wasStartedBy => 13
  | wasEndedBy => 14
  | hadPlan => 15
  | wasAssociatedWith => 16
  | actedOnBehalfOf => 17
  | wasInfluencedBy => 18
  | inBundle => 19
  | bundleRelation => 20

def ofCode (code : Int) : Except Error RelationKind :=
  match all.find? fun kind ↦ kind.code == code with
  | some kind => .ok kind
  | none => .error (.invalidType s!"relation type {code}")

/-- One of the two kinds that only record what a bundle contains. -/
def isBookkeeping : RelationKind → Bool
  | inBundle | bundleRelation => true
  | _ => false

/-- The name in the provenance vocabulary, which starts with a small letter. -/
def vocabularyName (kind : RelationKind) : String :=
  match kind.name.toList with
  | [] => ""
  | c :: rest => String.ofList (c.toLower :: rest)

end RelationKind

/-- Which end of the relations of an object is asked for. -/
inductive Direction where
  | ancestors
  | descendants
deriving DecidableEq, Repr

def Direction.name : Direction → String
  | ancestors => "Ancestors"
  | descendants => "Descendants"

/-- Options of the lookups that list every match. -/
structure LookupFlags where
  /-- An empty result is no failure. -/
  noFail : Bool
deriving DecidableEq, Repr

namespace LookupFlags

def none : LookupFlags := ⟨false⟩

def bits (flags : LookupFlags) : Nat := if flags.noFail then 1 else 0

def union (a b : LookupFlags) : LookupFlags := ⟨a.noFail || b.noFail⟩

def contains (a b : LookupFlags) : Bool := !b.noFail || a.noFail

end LookupFlags

/-- Which properties of an owner are asked for. -/
inductive PropertyFilter where
  | all
  | space (space : String)
  | key (space key : String)
deriving DecidableEq, Repr

/-- What a process records about itself. -/
structure SessionDescriptor where
  macAddress : String
  user : String
  pid : Int
  program : String
  commandLine : String
deriving DecidableEq, Repr

structure SessionInfo where
  id : Nat
  macAddress : String
  user : String
  pid : Int
  program : String
  commandLine : String
  startTime : Int
deriving DecidableEq, Repr

structure ObjectInfo where
  id : Nat
  session : Nat
  created : Int
  space : String
  name : String
  kind : ObjectKind
deriving DecidableEq, Repr

structure BundleInfo where
  id : Nat
  session : Nat
  created : Int
  space : String
  /-- Empty when the store holds none. -/
  name : String
deriving DecidableEq, Repr

/-- A relation as seen from one of its ends. -/
structure RelationInfo where
  id : Nat
  queried : Nat
  other : Nat
  kind : RelationKind
deriving DecidableEq, Repr

/-- One match of a lookup, with its time in seconds since the epoch. -/
structure LookupEntry where
  id : Nat
  time : Int
deriving DecidableEq, Repr

structure PropertyEntry where
  owner : Nat
  space : String
  key : String
  value : String
deriving DecidableEq, Repr

structure PrefixEntry where
  bundle : Nat
  space : String
  iri : String
deriving DecidableEq, Repr

/-- The message form of an object, as a reader of the library would write its fields. -/
def ObjectInfo.debug (info : ObjectInfo) : String :=
  "ObjectInfo \x7b id: " ++ toString info.id ++ ", creation_session: " ++ toString info.session ++
    ", creation_time: " ++ toString info.created ++ ", prefix: " ++ Text.quoted info.space ++
    ", name: " ++ Text.quoted info.name ++ ", object_type: " ++ info.kind.name ++ " \x7d"

def BundleInfo.debug (info : BundleInfo) : String :=
  "BundleInfo \x7b id: " ++ toString info.id ++ ", creation_session: " ++ toString info.session ++
    ", creation_time: " ++ toString info.created ++ ", prefix: " ++ Text.quoted info.space ++
    ", name: " ++ Text.quoted info.name ++ " \x7d"

namespace Value

def toObjectKind (value : Value) : Except Error ObjectKind :=
  match value.toInt with
  | .ok code => ObjectKind.ofCode code
  | .error err => .error err

def toRelationKind (value : Value) : Except Error RelationKind :=
  match value.toInt with
  | .ok code => RelationKind.ofCode code
  | .error err => .error err

end Value

end Provenance
