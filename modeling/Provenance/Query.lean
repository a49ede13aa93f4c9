/-!
The statements a backend prepares, each known by its name. `Query.all` lists them in the order in
which a connection prepares them.
-/

set_option autoImplicit false
set_option relaxedAutoImplicit false

namespace Provenance

inductive Query where
  | createSession
  | getSessionInfo
  | createObject
  | lookupObject
  | lookupObjectByType
  | lookupObjectExt
  | lookupObjectExtByType
  | getObjectInfo
  | getAllObjects
  | getAllObjectsWithPrefix
  | addObjectProperty
  | getObjectProperties
  | getObjectPropertiesWithPrefix
  | getObjectPropertiesWithKey
  | lookupObjectByProperty
  | lookupObjectPropertyWildcard
  | addRelation
  | lookupRelation
  | hasImmediateAncestor
  | getObjectAncestors
  | getObjectDescendants
  | addRelationProperty
  | getRelationProperties
  | getRelationPropertiesWithPrefix
  | getRelationPropertiesWithKey
  | createBundle
  | lookupBundle
  | lookupBundleExt
  | getBundleInfo
  | deleteBundle
  | getBundleObjects
  | getBundleRelations
  | addBundleProperty
  | getBundleProperties
  | getBundlePropertiesWithPrefix
  | getBundlePropertiesWithKey
  | addPrefix
  | getPrefixes
  | getPrefixesWithPrefix
deriving DecidableEq, Repr

namespace Query

def all : List Query :=
  [createSession, getSessionInfo, createObject, lookupObject, lookupObjectByType,
    lookupObjectExt, lookupObjectExtByType, getObjectInfo, getAllObjects,
    getAllObjectsWithPrefix, addObjectProperty, getObjectProperties,
    getObjectPropertiesWithPrefix, getObjectPropertiesWithKey, lookupObjectByProperty,
    lookupObjectPropertyWildcard, addRelation, lookupRelation, hasImmediateAncestor,
    getObjectAncestors, getObjectDescendants, addRelationProperty, getRelationProperties,
    getRelationPropertiesWithPrefix, getRelationPropertiesWithKey, createBundle, lookupBundle,
    lookupBundleExt, getBundleInfo, deleteBundle, getBundleObjects, getBundleRelations,
    addBundleProperty, getBundleProperties, getBundlePropertiesWithPrefix,
    getBundlePropertiesWithKey, addPrefix, getPrefixes, getPrefixesWithPrefix]

def name : Query → String
  | createSession => "CreateSession"
  | getSessionInfo => "GetSessionInfo"
  | createObject => "CreateObject"
  | lookupObject => "LookupObject"
  | lookupObjectByType => "LookupObjectByType"
  | lookupObjectExt => "LookupObjectExt"
  | lookupObjectExtByType => "LookupObjectExtByType"
  | getObjectInfo => "GetObjectInfo"
  | getAllObjects => "GetAllObjects"
  | getAllObjectsWithPrefix => "GetAllObjectsWithPrefix"
  | addObjectProperty => "AddObjectProperty"
  | getObjectProperties => "GetObjectProperties"
  | getObjectPropertiesWithPrefix => "GetObjectPropertiesWithPrefix"
  | getObjectPropertiesWithKey => "GetObjectPropertiesWithKey"
  | lookupObjectByProperty => "LookupObjectByProperty"
  | lookupObjectPropertyWildcard => "LookupObjectPropertyWildcard"
  | addRelation => "AddRelation"
  | lookupRelation => "LookupRelation"
  | hasImmediateAncestor => "HasImmediateAncestor"
  | getObjectAncestors => "GetObjectAncestors"
  | getObjectDescendants => "GetObjectDescendants"
  | addRelationProperty => "AddRelationProperty"
  | getRelationProperties => "GetRelationProperties"
  | getRelationPropertiesWithPrefix => "GetRelationPropertiesWithPrefix"
  | getRelationPropertiesWithKey => "GetRelationPropertiesWithKey"
  | createBundle => "CreateBundle"
  | lookupBundle => "LookupBundle"
  | lookupBundleExt => "LookupBundleExt"
  | getBundleInfo => "GetBundleInfo"
  | deleteBundle => "DeleteBundle"
  | getBundleObjects => "GetBundleObjects"
  | getBundleRelations => "GetBundleRelations"
  | addBundleProperty => "AddBundleProperty"
  | getBundleProperties => "GetBundleProperties"
  | getBundlePropertiesWithPrefix => "GetBundlePropertiesWithPrefix"
  | getBundlePropertiesWithKey => "GetBundlePropertiesWithKey"
  | addPrefix => "AddPrefix"
  | getPrefixes => "GetPrefixes"
  | getPrefixesWithPrefix => "GetPrefixesWithPrefix"

/-- The query with this name. -/
def ofName? (name : String) : Option Query :=
  all.find? fun query ↦ query.name == name

end Query

end Provenance
