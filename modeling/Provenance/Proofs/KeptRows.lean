import Provenance.Proofs.ArgumentChecks
import Provenance.Proofs.LegibleStore

/-!
Rows are written once. What makes a session, an object, a bundle or a relation stores its arguments
as they are, in a row with the next id of its table (`Operation.exists_made`). No request changes a
row, and only the deletion of a bundle removes one (`Store.Change.in_or_gone`). A relation is never
made with a kind that is not one of the twenty (`Store.Reachable.knownKinds`).
-/

set_option autoImplicit false
set_option relaxedAutoImplicit false

namespace Provenance

variable {α : Type}

/-! ### Rows with ids -/

namespace Store

/-- A row that has an id of its own. -/
inductive Item where
  | session (row : SessionRow)
  | object (row : ObjectRow)
  | relation (row : RelationRow)

namespace Item

def table : Item → Table
  | session _ => .sessions
  | object _ => .objects
  | relation _ => .relations

def id : Item → Nat
  | session row => row.id
  | object row => row.id
  | relation row => row.id

/-- The row is in the store. -/
def In (s : Store) : Item → Prop
  | session row => row ∈ s.sessions
  | object row => row ∈ s.objects
  | relation row => row ∈ s.relations

variable {s : Store} {item other : Item}

theorem exists_of_mem_ids {table : Table} {id : Nat} (h : id ∈ table.ids s) :
    ∃ item : Item, item.In s ∧ item.table = table ∧ item.id = id := by
  cases table with
  | sessions =>
    obtain ⟨row, hrow, hid⟩ := List.mem_map.mp h
    exact ⟨session row, hrow, rfl, hid⟩
  | objects =>
    obtain ⟨row, hrow, hid⟩ := List.mem_map.mp h
    exact ⟨object row, hrow, rfl, hid⟩
  | relations =>
    obtain ⟨row, hrow, hid⟩ := List.mem_map.mp h
    exact ⟨relation row, hrow, rfl, hid⟩

/-- A table has one row of each id. -/
theorem In.eq_of_id_eq (h : item.In s) (hother : other.In s) (hcounted : item.table.Counted s)
    (htable : other.table = item.table) (hid : other.id = item.id) : other = item := by
  cases item with
  | session row =>
    cases other with
    | session row' => exact congrArg _ (List.inj_on_of_nodup_map hcounted.nodup hother h hid)
    | object _ | relation _ => cases htable
  | object row =>
    cases other with
    | object row' => exact congrArg _ (List.inj_on_of_nodup_map hcounted.nodup hother h hid)
    | session _ | relation _ => cases htable
  | relation row =>
    cases other with
    | relation row' => exact congrArg _ (List.inj_on_of_nodup_map hcounted.nodup hother h hid)
    | session _ | object _ => cases htable

end Item

variable {s s' : Store} {now : Value} {item : Item}

/-- What is left of a store was there before. -/
theorem Remains.item_in (h : s.Remains s') (hin : item.In s') : item.In s := by
  cases item with
  | session row =>
    change row ∈ s.sessions
    rw [← h.sessions]
    exact hin
  | object row => exact h.objects.subset hin
  | relation row => exact h.relations.subset hin

/-- A row stays as it is, unless a bundle is deleted and no row of its id is left. -/
theorem Change.in_or_gone {query : Query} {rows : List Row} (h : s.Change query rows s')
    (hs : s.Reachable) (hin : item.In s) :
    item.In s' ∨ query = .deleteBundle ∧ item.id ∉ item.table.ids s' := by
  cases h with
  | session row hid =>
    left
    cases item with
    | session _ => exact List.mem_append_left _ hin
    | _ => exact hin
  | object query row hid hquery hsession =>
    left
    cases item with
    | object _ => exact List.mem_append_left _ hin
    | _ => exact hin
  | relation row hid hsource hdestination =>
    left
    cases item with
    | relation _ => exact List.mem_append_left _ hin
    | _ => exact hin
  | deletion bundle =>
    by_cases hleft : item.id ∈ item.table.ids (s.deleteBundle bundle).2
    · obtain ⟨other, hother, htable, hid⟩ := Item.exists_of_mem_ids hleft
      have hremains := hs.anchored_numbered.1.remains_deleteBundle bundle
      rw [hin.eq_of_id_eq (hremains.item_in hother) (hs.counted _) htable hid] at hother
      exact .inl hother
    · exact .inr ⟨rfl, hleft⟩
  | _ =>
    left
    cases item <;> exact hin

/-- A relation that comes is added by a query for relations. -/
theorem Change.relations_subset {query : Query} {rows : List Row} (h : s.Change query rows s')
    (hquery : query ≠ .addRelation) : s'.relations ⊆ s.relations := by
  cases h with
  | relation row hid hsource hdestination => exact absurd rfl hquery
  | deletion bundle => exact (sheds_deleteBundle bundle).relations
  | _ => exact List.Subset.refl _

/-! ### What is stored -/

variable {rows : List Row} {session source destination : Nat}

theorem addObject_eq_of_ok {space name : String} (kind : ObjectKind) (hnow : now.IsClock)
    (h : s.addObject now (.text space) (.text name) (.int kind.code) (.int session) =
      .ok (rows, s')) :
    s' = s.withObject (s.nextObject now space name kind session) := by
  by_cases hsession : s.hasSession session = true
  · rw [addObject_eq kind hnow hsession] at h
    exact (Prod.mk.inj (Except.ok.inj h)).2.symm
  · rw [Bool.not_eq_true] at hsession
    rw [addObject, hnow.isNull, refersTo_int, hsession] at h
    cases h

theorem addRelation_eq_of_ok {kind : RelationKind}
    (h : s.addRelation (.int source) (.int destination) (.int kind.code) = .ok (rows, s')) :
    s' = s.withRelation (s.nextRelation source destination kind) := by
  unfold addRelation at h
  simp only [Value.rowId?_int, Option.getD_some, Value.inNumericColumn] at h
  split at h
  · cases h
  split at h
  · cases h
  split at h
  · cases h
  split at h
  · cases h
  split at h
  · cases h
  split at h
  · cases h
  exact (Prod.mk.inj (Except.ok.inj h)).2.symm

end Store

/-! ### The queries of operations -/

/-- The statement that serves a filter. -/
def PropertyQueries.query (queries : PropertyQueries) : PropertyFilter → Query
  | .all => queries.all
  | .space _ => queries.inSpace
  | .key _ _ => queries.withKey

theorem Request.ensures_query_properties (queries : PropertyQueries) (what : String)
    (reader : Reader) (owner : Nat) (filter : PropertyFilter) :
    Ensures (properties queries what reader owner filter) fun request ↦
      request.query = queries.query filter := by
  refine .check fun _ ↦ ?_
  cases filter with
  | all => exact .pure rfl
  | space space => exact .check fun _ ↦ .pure rfl
  | key space key => exact .check fun _ ↦ .check fun _ ↦ .pure rfl

namespace Operation

/-- The query that an operation asks for. -/
def query : Operation → Query
  | createSession _ => .createSession
  | sessionInfo _ => .getSessionInfo
  | createObject .. => .createObject
  | lookupObject _ _ kind => if kind.isSome then .lookupObjectByType else .lookupObject
  | lookupObjects _ _ kind _ => if kind.isSome then .lookupObjectExtByType else .lookupObjectExt
  | objectInfo _ => .getObjectInfo
  | allObjects none => .getAllObjects
  | allObjects (some _) => .getAllObjectsWithPrefix
  | addObjectProperty .. => .addObjectProperty
  | objectProperties _ filter => PropertyQueries.ofObjects.query filter
  | objectsWithProperty .. => .lookupObjectByProperty
  | objectsMatching .. => .lookupObjectPropertyWildcard
  | addRelation .. => .addRelation
  | lookupRelation .. => .lookupRelation
  | hasImmediateAncestor .. => .hasImmediateAncestor
  | objectRelations _ .ancestors => .getObjectAncestors
  | objectRelations _ .descendants => .getObjectDescendants
  | addRelationProperty .. => .addRelationProperty
  | relationProperties _ filter => PropertyQueries.ofRelations.query filter
  | createBundle .. => .createBundle
  | lookupBundle .. => .lookupBundle
  | lookupBundles .. => .lookupBundleExt
  | deleteBundle _ => .deleteBundle
  | bundleInfo _ => .getBundleInfo
  | bundleObjects _ => .getBundleObjects
  | bundleRelations _ => .getBundleRelations
  | addBundleProperty .. => .addBundleProperty
  | bundleProperties _ filter => PropertyQueries.ofBundles.query filter
  | addPrefix .. => .addPrefix
  | prefixes _ none => .getPrefixes
  | prefixes _ (some _) => .getPrefixesWithPrefix

theorem ensures_query (op : Operation) (reader : Reader) :
    Ensures (op.form.request reader) fun request ↦ request.query = op.query := by
  cases op with
  | createSession session =>
    exact .check fun _ ↦ .check fun _ ↦ .check fun _ ↦ .check fun _ ↦ .pure rfl
  | addPrefix bundle space iri => exact .check fun _ ↦ .check fun _ ↦ .check fun _ ↦ .pure rfl
  | objectProperties id filter | relationProperties id filter | bundleProperties id filter =>
    exact Request.ensures_query_properties _ _ _ _ _
  | allObjects space =>
    cases space with
    | none => exact .pure rfl
    | some space => exact .check fun _ ↦ .pure rfl
  | prefixes bundle space =>
    cases space with
    | none => exact .check fun _ ↦ .pure rfl
    | some space => exact .check fun _ ↦ .check fun _ ↦ .pure rfl
  | objectRelations id direction => cases direction <;> exact .check fun _ ↦ .pure rfl
  | createObject | createBundle | hasImmediateAncestor | addObjectProperty | addRelationProperty
  | addBundleProperty => exact .check fun _ ↦ .check fun _ ↦ .pure rfl
  | _ => exact .check fun _ ↦ .pure rfl

variable {op : Operation}

theorem eq_addRelation_of_query (h : op.query = .addRelation) :
    ∃ source destination kind, op = addRelation source destination kind := by
  cases op with
  | addRelation source destination kind => exact ⟨source, destination, kind, rfl⟩
  | lookupObject space name kind | lookupObjects space name kind flags => cases kind <;> cases h
  | objectProperties id filter | relationProperties id filter | bundleProperties id filter =>
    cases filter <;> cases h
  | allObjects space | prefixes bundle space => cases space <;> cases h
  | objectRelations id direction => cases direction <;> cases h
  | _ => cases h

theorem eq_deleteBundle_of_query (h : op.query = .deleteBundle) :
    ∃ bundle, op = deleteBundle bundle := by
  cases op with
  | deleteBundle bundle => exact ⟨bundle, rfl⟩
  | lookupObject space name kind | lookupObjects space name kind flags => cases kind <;> cases h
  | objectProperties id filter | relationProperties id filter | bundleProperties id filter =>
    cases filter <;> cases h
  | allObjects space | prefixes bundle space => cases space <;> cases h
  | objectRelations id direction => cases direction <;> cases h
  | _ => cases h

end Operation

/-! ### Requests for new rows -/

theorem Argument.ensures_eq (what : String) (id : Nat) :
    Ensures (Argument.id what id) fun value ↦ value = .int id := by
  intro value h
  unfold Argument.id at h
  split at h
  · cases h
  · split at h
    · cases h
    · exact (Except.ok.inj h).symm

namespace Request

theorem ensures_createSession (session : SessionDescriptor) :
    Ensures (createSession session) fun request ↦ request = .oneId .createSession
      [.text session.macAddress, .text session.user, .int session.pid, .text session.program,
        .text session.commandLine] :=
  .check fun _ ↦ .check fun _ ↦ .check fun _ ↦ .check fun _ ↦ .pure rfl

theorem ensures_createObject (space name : String) (kind : ObjectKind) (session : Nat) :
    Ensures (createObject space name kind session) fun request ↦ request =
      .oneId .createObject [.text space, .text name, .int kind.code, .int session] := by
  refine .check fun _ ↦ .bind (Argument.ensures_eq _ _) fun value hvalue ↦ .pure ?_
  rw [hvalue]

theorem ensures_createBundle (name space : String) (session : Nat) :
    Ensures (createBundle name space session) fun request ↦ request =
      .oneId .createBundle [.text space, .text name, .int session] := by
  refine .check fun _ ↦ .bind (Argument.ensures_eq _ _) fun value hvalue ↦ .pure ?_
  rw [hvalue]

theorem ensures_addRelation (source destination : Nat) (kind : RelationKind) :
    Ensures (addRelation source destination kind) fun request ↦ request =
      .oneId .addRelation [.int source, .int destination, .int kind.code] := by
  have hparams : Ensures (relationParams source destination kind) fun params ↦
      params = [.int source, .int destination, .int kind.code] := by
    refine .bind (Argument.ensures_eq _ _) fun value hvalue ↦
      .bind (Argument.ensures_eq _ _) fun other hother ↦ .pure ?_
    rw [hvalue, hother]
  refine .bind hparams fun params hparams ↦ .pure ?_
  rw [hparams]

end Request

/-- What a relation is made of is what is stored. -/
theorem Store.Step.knownKinds {s s' : Store} (h : s.Step s') (hs : s.KnownKinds) :
    s'.KnownKinds := by
  obtain ⟨now, op, reader, request, hrequest, hrun⟩ := h
  by_cases hquery : op.query = .addRelation
  · obtain ⟨source, destination, kind, rfl⟩ := Operation.eq_addRelation_of_query hquery
    obtain rfl := Request.ensures_addRelation source destination kind request hrequest
    obtain rfl := Store.addRelation_eq_of_ok hrun
    exact List.forall_mem_append.mpr ⟨hs, List.forall_mem_singleton.mpr ⟨kind, rfl⟩⟩
  · rw [← op.ensures_query reader request hrequest] at hquery
    have hsubset := (Store.Change.of_run hrun).relations_subset hquery
    exact fun r hr ↦ hs r (hsubset hr)

theorem Store.Reachable.knownKinds {s : Store} (h : s.Reachable) : s.KnownKinds := by
  induction h with
  | empty => exact fun r hr ↦ absurd hr List.not_mem_nil
  | step h hstep ih => exact hstep.knownKinds ih

theorem Store.Reachable.eq_of_relation_id {s : Store} (h : s.Reachable) {r r' : RelationRow}
    (hr : r ∈ s.relations) (hr' : r' ∈ s.relations) (hid : r.id = r'.id) : r = r' :=
  List.inj_on_of_nodup_map (f := RelationRow.id) (h.counted .relations).nodup hr hr' hid

/-! ### Operations that make rows -/

theorem Operand.bounds_of_not_refused {what : String} {number : Nat}
    (h : ¬ (Operand.id what number).Refused) : 0 < number ∧ number ≤ Limit.id := by
  change ¬ (number = 0 ∨ 9223372036854775807 < number) at h
  have hlimit : Limit.id = 9223372036854775807 := by decide
  omega

namespace Operation

open Store (Item Table)

/-- The row that an operation makes at a time, with an id. -/
def made (now : Value) (id : Nat) : Operation → Option Item
  | createSession session =>
    some (.session ⟨id, .text session.macAddress, .text session.user, .int session.pid,
      .text session.program, .text session.commandLine, now⟩)
  | createObject space name kind session =>
    some (.object ⟨id, now, .text space, .text name, .int kind.code, .int session⟩)
  | createBundle name space session =>
    some (.object ⟨id, now, .text space, .text name, .int ObjectKind.bundle.code, .int session⟩)
  | addRelation source destination kind =>
    some (.relation ⟨id, source, destination, .int kind.code⟩)
  | _ => none

variable {op : Operation} {s s' : Store} {now : Value} {reader : Reader} {table : Table} {id : Nat}
  {request : Request op.form.Rows} {rows : List Row}

theorem of_made {item : Item} (h : op.made now id = some item) :
    item.id = id ∧ op.fills = some item.table := by
  cases op with
  | createSession | createObject | createBundle | addRelation =>
    cases h
    exact ⟨rfl, rfl⟩
  | _ => cases h

/-- The arguments of a request are within their limits. -/
theorem not_refused_of_request (hrequest : op.form.request reader = .ok request) :
    ∀ operand ∈ op.operands, ¬ operand.Refused := by
  have hchecks := op.checks_request reader
  unfold Checks at hchecks
  cases hfind : op.operands.find? fun operand ↦ operand.Refused with
  | some operand =>
    rw [hfind] at hchecks
    cases hrequest.symm.trans hchecks
  | none =>
    intro operand hoperand hrefused
    exact List.find?_eq_none.mp hfind operand hoperand (decide_eq_true hrefused)

/-- Serving the request adds the row that is made next. -/
theorem exists_made (hfills : op.fills = some table)
    (hrequest : op.form.request reader = .ok request) (hnow : now.IsClock)
    (hrun : s.run now request.query request.params = .ok (rows, s')) :
    ∃ item, op.made now (table.last s + 1) = some item ∧ item.In s' ∧
      table.ids s' = table.ids s ++ [table.last s + 1] := by
  cases op with
  | createSession session =>
    cases hfills
    obtain rfl := Request.ensures_createSession session request hrequest
    change s.addSession now _ _ _ _ _ = _ at hrun
    rw [Store.addSession, hnow.isNull, hnow.inNumericColumn] at hrun
    cases hrun
    exact ⟨_, rfl, List.mem_concat_self, List.map_append⟩
  | createObject space name kind session =>
    cases hfills
    obtain rfl := Request.ensures_createObject space name kind session request hrequest
    obtain rfl := Store.addObject_eq_of_ok kind hnow hrun
    exact ⟨_, rfl, List.mem_concat_self, List.map_append⟩
  | createBundle name space session =>
    cases hfills
    obtain rfl := Request.ensures_createBundle name space session request hrequest
    obtain rfl := Store.addObject_eq_of_ok .bundle hnow hrun
    exact ⟨_, rfl, List.mem_concat_self, List.map_append⟩
  | addRelation source destination kind =>
    cases hfills
    obtain rfl := Request.ensures_addRelation source destination kind request hrequest
    obtain rfl := Store.addRelation_eq_of_ok hrun
    exact ⟨_, rfl, List.mem_concat_self, List.map_append⟩
  | _ => cases hfills

/-- A row that has come is the one that is made. -/
theorem in_of_run (hfills : op.fills = some table)
    (hrequest : op.form.request reader = .ok request) (hnow : now.IsClock)
    (hrun : s.run now request.query request.params = .ok (rows, s')) (hid : id ∈ table.added s s') :
    ∃ item, op.made now id = some item ∧ item.In s' := by
  obtain ⟨item, hmade, hin, hids⟩ := exists_made hfills hrequest hnow hrun
  have hnext : id = table.last s + 1 := by
    obtain ⟨hmem, hnew⟩ := List.mem_filter.mp hid
    rw [hids, List.mem_append, List.mem_singleton] at hmem
    exact hmem.resolve_left (of_decide_eq_true hnew)
  rw [hnext]
  exact ⟨item, hmade, hin⟩

end Operation

end Provenance
