import Provenance.Query
import Provenance.Store.Select

/-!
Running a query: its parameters and a store give rows and a store, or a violation that leaves the
store as it was.
-/

set_option autoImplicit false
set_option relaxedAutoImplicit false

namespace Provenance

namespace Query

/-- How many parameters a query takes. -/
def arity : Query → Nat
  | createSession => 5
  | getSessionInfo => 1
  | createObject => 4
  | lookupObject | lookupObjectExt => 2
  | lookupObjectByType | lookupObjectExtByType => 3
  | getObjectInfo => 1
  | getAllObjects => 0
  | getAllObjectsWithPrefix => 1
  | addObjectProperty | addRelationProperty | addBundleProperty => 4
  | getObjectProperties | getRelationProperties | getBundleProperties => 1
  | getObjectPropertiesWithPrefix | getRelationPropertiesWithPrefix
  | getBundlePropertiesWithPrefix => 2
  | getObjectPropertiesWithKey | getRelationPropertiesWithKey | getBundlePropertiesWithKey => 3
  | lookupObjectByProperty => 3
  | lookupObjectPropertyWildcard => 1
  | addRelation | lookupRelation => 3
  | hasImmediateAncestor => 2
  | getObjectAncestors | getObjectDescendants => 1
  | createBundle => 3
  | lookupBundle | lookupBundleExt => 2
  | getBundleInfo | deleteBundle | getBundleObjects | getBundleRelations => 1
  | addPrefix => 3
  | getPrefixes => 1
  | getPrefixesWithPrefix => 2

/-- The query changes the store. -/
def writes : Query → Bool
  | createSession | createObject | addObjectProperty | addRelation | addRelationProperty
  | createBundle | deleteBundle | addBundleProperty | addPrefix => true
  | _ => false

/-- The table that a query names first. -/
def table : Query → String
  | createSession | getSessionInfo => "cpl_sessions"
  | addObjectProperty | getObjectProperties | getObjectPropertiesWithPrefix
  | getObjectPropertiesWithKey | lookupObjectByProperty | lookupObjectPropertyWildcard =>
    "cpl_object_properties"
  | addRelation | lookupRelation | hasImmediateAncestor | getObjectAncestors
  | getObjectDescendants | getBundleRelations => "cpl_relations"
  | addRelationProperty | getRelationProperties | getRelationPropertiesWithPrefix
  | getRelationPropertiesWithKey => "cpl_relation_properties"
  | addBundleProperty | getBundleProperties | getBundlePropertiesWithPrefix
  | getBundlePropertiesWithKey => "cpl_bundle_properties"
  | addPrefix | getPrefixes | getPrefixesWithPrefix => "cpl_prefixes"
  | _ => "cpl_objects"

end Query

namespace Store

/-- What a query reads, for the queries that only read. -/
def select (query : Query) (p : Nat → Value) (s : Store) : List Row :=
  match query with
  | .getSessionInfo => s.sessionsById (p 0)
  | .lookupObject => latest (s.named (p 0) (p 1))
  | .lookupObjectByType => latest (s.namedOfKind (p 0) (p 1) (p 2))
  | .lookupObjectExt => withTimes (s.named (p 0) (p 1))
  | .lookupObjectExtByType => withTimes (s.namedOfKind (p 0) (p 1) (p 2))
  | .getObjectInfo => s.objectsById (p 0)
  | .getAllObjects => s.plainObjects
  | .getAllObjectsWithPrefix => s.plainObjectsIn (p 0)
  | .getObjectProperties => propertiesOf (p 0) (fun _ ↦ true) s.objectProperties
  | .getObjectPropertiesWithPrefix =>
    propertiesOf (p 0) (fun row ↦ row.space.equalsText (p 1)) s.objectProperties
  | .getObjectPropertiesWithKey =>
    propertiesOf (p 0) (fun row ↦ row.space.equalsText (p 1) && row.key.equalsText (p 2))
      s.objectProperties
  | .lookupObjectByProperty => s.objectsWithProperty (p 0) (p 1) (p 2)
  | .lookupObjectPropertyWildcard => s.objectsMatching (p 0)
  | .lookupRelation => s.relationsBetween (p 0) (p 1) (p 2)
  | .hasImmediateAncestor => s.immediate (p 0) (p 1)
  | .getObjectAncestors => s.leaving (p 0)
  | .getObjectDescendants => s.entering (p 0)
  | .getRelationProperties => propertiesOf (p 0) (fun _ ↦ true) s.relationProperties
  | .getRelationPropertiesWithPrefix =>
    propertiesOf (p 0) (fun row ↦ row.space.equalsText (p 1)) s.relationProperties
  | .getRelationPropertiesWithKey =>
    propertiesOf (p 0) (fun row ↦ row.space.equalsText (p 1) && row.key.equalsText (p 2))
      s.relationProperties
  | .lookupBundle => latest (s.namedOfKind (p 0) (p 1) (.int 4))
  | .lookupBundleExt => withTimes (s.namedOfKind (p 0) (p 1) (.int 4))
  | .getBundleInfo => s.bundlesById (p 0)
  | .getBundleObjects => s.bundleObjects (p 0)
  | .getBundleRelations => s.bundleRelations (p 0)
  | .getBundleProperties => propertiesOf (p 0) (fun _ ↦ true) s.bundleProperties
  | .getBundlePropertiesWithPrefix =>
    propertiesOf (p 0) (fun row ↦ row.space.equalsText (p 1)) s.bundleProperties
  | .getBundlePropertiesWithKey =>
    propertiesOf (p 0) (fun row ↦ row.space.equalsText (p 1) && row.key.equalsText (p 2))
      s.bundleProperties
  | .getPrefixes => s.prefixesOf (p 0) fun _ ↦ true
  | .getPrefixesWithPrefix => s.prefixesOf (p 0) fun row ↦ row.space.equalsText (p 1)
  | _ => []

/-- The rows of a query that only reads. None is given out if there is a text among them that is in
another form than UTF-8. -/
def giveOut (rows : List Row) (s : Store) : Except Violation (List Row × Store) :=
  match rows.findSome? fun row ↦ row.findIdx? Value.isGarbled with
  | some column => .error (.garbledText column)
  | none => .ok (rows, s)

/-- Every value of the rows can be given out. -/
def Readable (rows : List Row) : Prop := ∀ row ∈ rows, ∀ value ∈ row, value.isGarbled = false

instance (rows : List Row) : Decidable (Readable rows) :=
  inferInstanceAs (Decidable (∀ row ∈ rows, ∀ value ∈ row, value.isGarbled = false))

theorem readable_nil : Readable [] := nofun

theorem readable_map {ρ : Type} {rows : List ρ} {columns : ρ → Row}
    (h : ∀ row ∈ rows, ∀ value ∈ columns row, value.isGarbled = false) :
    Readable (rows.map columns) := List.forall_mem_map.mpr h

theorem readable_ids (ids : List Nat) : Readable (ids.map fun (id : Nat) ↦ [.int id]) :=
  readable_map fun _ _ ↦ List.forall_mem_singleton.mpr rfl

theorem readable_returned (id : Nat) : Readable (returned id) := readable_ids [id]

theorem giveOut_of_readable {rows : List Row} (h : Readable rows) (s : Store) :
    s.giveOut rows = .ok (rows, s) := by
  have hnone : (rows.findSome? fun row ↦ row.findIdx? Value.isGarbled) = none := by
    rw [List.findSome?_eq_none_iff]
    intro row hrow
    rw [List.findIdx?_eq_none_iff]
    exact h row hrow
  rw [giveOut, hnone]

theorem giveOut_of_not_readable {rows : List Row} (h : ¬Readable rows) (s : Store) :
    ∃ column, s.giveOut rows = .error (.garbledText column) := by
  cases hfound : rows.findSome? fun row ↦ row.findIdx? Value.isGarbled with
  | some column => exact ⟨column, by rw [giveOut, hfound]⟩
  | none =>
    rw [List.findSome?_eq_none_iff] at hfound
    exact absurd (fun row hrow ↦ List.findIdx?_eq_none_iff.mp (hfound row hrow)) h

/-- Rows that are given out are those that were found, and the store stays as it is. -/
theorem eq_of_giveOut {rows found : List Row} {s s' : Store}
    (h : s.giveOut found = .ok (rows, s')) : rows = found ∧ s' = s := by
  by_cases hreadable : Readable found
  · rw [giveOut_of_readable hreadable] at h
    obtain ⟨rfl, rfl⟩ := Prod.mk.inj (Except.ok.inj h)
    exact ⟨rfl, rfl⟩
  · obtain ⟨column, herror⟩ := giveOut_of_not_readable hreadable s
    cases herror.symm.trans h

/-- Runs a query at a time `now`. -/
def run (now : Value) (query : Query) (params : List Value) (s : Store) :
    Except Violation (List Row × Store) :=
  if params.length ≠ query.arity then .error (.parameterCount params.length query.arity)
  else
    let p (index : Nat) : Value := params.getD index .null
    match query with
    | .createSession => s.addSession now (p 0) (p 1) (p 2) (p 3) (p 4)
    | .createObject => s.addObject now (p 0) (p 1) (p 2) (p 3)
    | .createBundle => s.addObject now (p 0) (p 1) (.int 4) (p 2)
    | .addObjectProperty => s.addObjectProperty (p 0) (p 1) (p 2) (p 3)
    | .addRelation => s.addRelation (p 0) (p 1) (p 2)
    | .addRelationProperty => s.addRelationProperty (p 0) (p 1) (p 2) (p 3)
    | .addBundleProperty => s.addBundleProperty (p 0) (p 1) (p 2) (p 3)
    | .addPrefix => s.addPrefix (p 0) (p 1) (p 2)
    | .deleteBundle => .ok (s.deleteBundle (p 0))
    | query => s.giveOut (s.select query p)

/-- A query that only reads is given the rows that it selects. -/
theorem run_of_reads {query : Query} {params : List Value} (hreads : query.writes = false)
    (harity : params.length = query.arity) (now : Value) (s : Store) :
    s.run now query params = s.giveOut (s.select query (params.getD · .null)) := by
  rw [run, if_neg (not_not_intro harity)]
  cases query <;> first
    | rfl
    | cases hreads

theorem run_of_readable (query : Query) (params : List Value) {rows : List Row} {s : Store}
    {now : Value} (hreads : query.writes = false) (harity : params.length = query.arity)
    (hrows : s.select query (params.getD · .null) = rows) (hreadable : Readable rows) :
    s.run now query params = .ok (rows, s) := by
  rw [run_of_reads hreads harity, hrows, giveOut_of_readable hreadable]

end Store

end Provenance
