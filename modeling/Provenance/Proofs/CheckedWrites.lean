import Provenance.Proofs.QuietOperations
import Provenance.Proofs.Recovery

/-!
Writes that refer to other rows. Seven operations name rows that must exist: what they name is
`Operation.names`, and the row that they add is the one more row of `Operation.gained`. The store
looks for what is named by foreign keys and, at the destination of a relation, by a trigger that
turns to one table or the other for the kind of the relation; both come to the same
(`Operation.run_of_adds`). So with valid arguments and nothing planned to fail such an operation
succeeds exactly if everything that it names is there, and leaves the store untouched and all
handles in their pools if not (`writes_checked`).

Sessions refer to nothing, and deletions are not covered here.
-/

set_option autoImplicit false
set_option relaxedAutoImplicit false

namespace Provenance

/-- The table of the rows that relations of a kind lead to. -/
def RelationKind.destinations : RelationKind → Store.Table
  | bundleRelation => .relations
  | _ => .objects

theorem RelationKind.destinations_of_ne {kind : RelationKind} (h : kind ≠ bundleRelation) :
    kind.destinations = .objects := by
  cases kind <;> first
    | rfl
    | exact absurd rfl h

namespace Store

variable {s : Store} {now : Value} {id source destination : Nat} {space name key value : String}

/-! ### Rows that are looked for -/

theorem hasSession_iff : s.hasSession id = true ↔ id ∈ Table.sessions.ids s := by
  simp only [hasSession, List.any_eq_true, beq_iff_eq, Table.ids, List.mem_map]

theorem hasObject_iff_mem_ids : s.hasObject id = true ↔ id ∈ Table.objects.ids s := by
  rw [hasObject_iff, Table.ids, List.mem_map]

theorem hasRelation_iff_mem_ids : s.hasRelation id = true ↔ id ∈ Table.relations.ids s := by
  rw [hasRelation_iff, Table.ids, List.mem_map]

/-! ### Rows that are added or refused -/

/-- An object is added if its session is there. -/
theorem addObject_eq_ite (kind : ObjectKind) (hnow : now.IsClock) :
    s.addObject now (.text space) (.text name) (.int kind.code) (.int id) =
      if s.hasSession id then
        .ok (returned (s.lastObject + 1), s.withObject (s.nextObject now space name kind id))
      else .error .foreignKey := by
  by_cases hsession : s.hasSession id = true
  · rw [if_pos hsession, addObject_eq kind hnow hsession]
  · rw [if_neg hsession]
    rw [Bool.not_eq_true] at hsession
    rw [addObject, hnow.isNull, refersTo_int, hsession]
    rfl

/-- A relation between relations and objects that are there is added: the trigger looks for the
destination of a membership of a relation among the relations. -/
theorem addRelation_of_present (kind : RelationKind) (hsource : source ∈ Table.objects.ids s)
    (hdestination : destination ∈ kind.destinations.ids s) :
    s.addRelation (.int source) (.int destination) (.int kind.code) =
      .ok (returned (s.lastRelation + 1),
        s.withRelation (s.nextRelation source destination kind)) := by
  rw [← hasObject_iff_mem_ids] at hsource
  by_cases hkind : kind = .bundleRelation
  · subst hkind
    rw [RelationKind.destinations, ← hasRelation_iff_mem_ids] at hdestination
    rw [addRelation, refersTo_int, refersTo_int, refersTo_int, hsource, hdestination]
    rfl
  · rw [RelationKind.destinations_of_ne hkind, ← hasObject_iff_mem_ids] at hdestination
    exact addRelation_eq hkind hsource hdestination

theorem holdsRelation_nextRelation (kind : RelationKind) :
    (s.nextRelation source destination kind).holdsRelation = true ↔
      kind = .bundleRelation := by
  rw [RelationRow.holdsRelation, nextRelation, beq_iff_eq, Value.int.injEq]
  exact RelationKind.code_injective.eq_iff (b := .bundleRelation)

/-- A relation that is added has found both its ends. -/
theorem present_of_addRelation {kind : RelationKind} {rows : List Row} {s' : Store}
    (h : s.addRelation (.int source) (.int destination) (.int kind.code) = .ok (rows, s')) :
    source ∈ Table.objects.ids s ∧ destination ∈ kind.destinations.ids s := by
  have hadded := addRelation_eq_of_ok h
  cases change_addRelation h with
  | nothing _ _ hreads => cases hreads
  | object _ _ _ hquery => rcases hquery with hquery | hquery <;> cases hquery
  | relation row hid hsource hdestination =>
    obtain rfl : row = s.nextRelation source destination kind :=
      List.singleton_inj.mp (List.append_cancel_left (congrArg Store.relations hadded))
    refine ⟨hasObject_iff_mem_ids.mp hsource, ?_⟩
    by_cases hkind : kind = .bundleRelation
    · rw [if_pos ((holdsRelation_nextRelation kind).mpr hkind)] at hdestination
      subst hkind
      exact hasRelation_iff_mem_ids.mp hdestination
    · rw [if_neg (mt (holdsRelation_nextRelation kind).mp hkind)] at hdestination
      rw [RelationKind.destinations_of_ne hkind]
      exact hasObject_iff_mem_ids.mp hdestination

/-- A property is added if its owner is there. -/
theorem newProperty_eq_ite (table : String) (test : Nat → Bool) :
    newProperty table test (.int id) (.text space) (.text key) (.text value) =
      if test id then .ok ⟨id, .text space, .text key, .text value⟩ else .error .foreignKey := by
  rw [newProperty, refersTo_int, Value.rowId?_int]
  cases test id <;> rfl

theorem addObjectProperty_eq_ite :
    s.addObjectProperty (.int id) (.text space) (.text key) (.text value) =
      if s.hasObject id then .ok ([], s.withProperty ⟨id, .text space, .text key, .text value⟩)
      else .error .foreignKey := by
  rw [addObjectProperty, newProperty_eq_ite]
  cases s.hasObject id <;> rfl

theorem addRelationProperty_eq_ite :
    s.addRelationProperty (.int id) (.text space) (.text key) (.text value) =
      if s.hasRelation id then
        .ok ([], { s with
          relationProperties :=
            s.relationProperties ++ [⟨id, .text space, .text key, .text value⟩] })
      else .error .foreignKey := by
  rw [addRelationProperty, newProperty_eq_ite]
  cases s.hasRelation id <;> rfl

theorem addBundleProperty_eq_ite :
    s.addBundleProperty (.int id) (.text space) (.text key) (.text value) =
      if s.hasObject id then
        .ok ([], { s with
          bundleProperties :=
            s.bundleProperties ++ [⟨id, .text space, .text key, .text value⟩] })
      else .error .foreignKey := by
  rw [addBundleProperty, newProperty_eq_ite]
  cases s.hasObject id <;> rfl

/-- A prefix is added if its bundle is there. -/
theorem addPrefix_eq_ite :
    s.addPrefix (.int id) (.text space) (.text value) =
      if s.hasObject id then
        .ok ([], { s with prefixes := s.prefixes ++ [⟨id, .text space, .text value⟩] })
      else .error .foreignKey := by
  rw [addPrefix, refersTo_int, Value.rowId?_int]
  cases s.hasObject id <;> rfl

end Store

/-! ### Requests for rows that refer to others -/

namespace Request

theorem ensures_command_addProperty (query : Query) (what : String) (owner : Nat)
    (space key value : String) :
    Ensures (addProperty query what owner space key value) fun request ↦ request =
      .command query [.int owner, .text space, .text key, .text value] := by
  refine .check fun _ ↦ .bind (Argument.ensures_eq _ _) fun param hparam ↦ .pure ?_
  rw [hparam]

theorem ensures_command_addPrefix (bundle : Nat) (space iri : String) :
    Ensures (addPrefix bundle space iri) fun request ↦ request =
      .command .addPrefix [.int bundle, .text space, .text iri] := by
  refine .check fun _ ↦ .check fun _ ↦
    .bind (Argument.ensures_eq _ _) fun param hparam ↦ .pure ?_
  rw [hparam]

end Request

namespace Operation

/-- The operation adds a row that refers to others. -/
def adds : Operation → Bool
  | createObject .. | createBundle .. | addRelation .. | addObjectProperty ..
  | addRelationProperty .. | addBundleProperty .. | addPrefix .. => true
  | _ => false

/-- The rows that an operation names and that must exist, each by its table and its id. A bundle
is looked for among the objects. -/
def names : Operation → List (Store.Table × Nat)
  | createObject _ _ _ session | createBundle _ _ session => [(.sessions, session)]
  | addRelation source destination kind =>
    [(.objects, source), (kind.destinations, destination)]
  | addObjectProperty id .. | addBundleProperty id .. | addPrefix id .. => [(.objects, id)]
  | addRelationProperty id .. => [(.relations, id)]
  | _ => []

/-- All rows that the operation names are in the store. -/
def Finds (op : Operation) (s : Store) : Prop := ∀ row ∈ op.names, row.2 ∈ row.1.ids s

instance (op : Operation) (s : Store) : Decidable (op.Finds s) :=
  inferInstanceAs (Decidable (∀ row ∈ op.names, _))

/-- The store with the one row that an operation adds at a time. -/
def gained (now : Value) (s : Store) : Operation → Store
  | createObject space name kind session => s.withObject (s.nextObject now space name kind session)
  | createBundle name space session => s.withObject (s.nextObject now space name .bundle session)
  | addRelation source destination kind =>
    s.withRelation (s.nextRelation source destination kind)
  | addObjectProperty id space key value =>
    s.withProperty ⟨id, .text space, .text key, .text value⟩
  | addRelationProperty id space key value =>
    { s with
      relationProperties :=
        s.relationProperties ++ [⟨id, .text space, .text key, .text value⟩] }
  | addBundleProperty id space key value =>
    { s with
      bundleProperties := s.bundleProperties ++ [⟨id, .text space, .text key, .text value⟩] }
  | addPrefix bundle space iri =>
    { s with prefixes := s.prefixes ++ [⟨bundle, .text space, .text iri⟩] }
  | _ => s

/-- What an operation answers that has added its row: the id of the row, if it has one of its
own. -/
def granted (s : Store) : Operation → Answer
  | createObject .. | createBundle .. => .id (s.lastObject + 1)
  | addRelation .. => .id (s.lastRelation + 1)
  | _ => .done

variable {op : Operation} {s : Store} {now : Value} {reader : Reader}
  {request : Request op.form.Rows}

/-- What the store makes of a write: it adds the row if everything is found that the operation
names, and otherwise refuses. -/
structure Decides (op : Operation) (s : Store) (now : Value) (request : Request op.form.Rows) :
    Prop where
  present : op.Finds s → ∃ rows result,
    s.run now request.query request.params = .ok (rows, op.gained now s) ∧
      request.readOff rows = .ok result ∧ op.form.answer result = .ok (op.granted s)
  missing : ¬ op.Finds s → ∃ violation,
    s.run now request.query request.params = .error violation

/-- A write that names one row is decided by the test that looks for it. -/
theorem Decides.of_test {table : Store.Table} {id : Nat} {found : Bool} {rows : List Row}
    {violation : Violation} {result : op.form.Rows} (hnames : op.names = [(table, id)])
    (hfound : found = true ↔ id ∈ table.ids s)
    (hrun : s.run now request.query request.params =
      if found then .ok (rows, op.gained now s) else .error violation)
    (hread : request.readOff rows = .ok result)
    (hanswer : op.form.answer result = .ok (op.granted s)) : op.Decides s now request := by
  have hfinds : op.Finds s ↔ found = true := by
    rw [Finds, hnames, List.forall_mem_singleton, hfound]
  refine ⟨fun h ↦ ⟨rows, result, ?_, hread, hanswer⟩, fun h ↦ ⟨violation, ?_⟩⟩
  · rw [hrun, if_pos (hfinds.mp h)]
  · rw [hrun, if_neg (mt hfinds.mpr h)]

/-- The store looks for exactly the rows that an operation names. -/
theorem decides_of_adds (hadds : op.adds = true)
    (hrequest : op.form.request reader = .ok request) (hnow : now.IsClock) :
    op.Decides s now request := by
  cases op with
  | createObject space name kind session =>
    obtain rfl := Request.ensures_createObject space name kind session request hrequest
    exact .of_test rfl Store.hasSession_iff (Store.addObject_eq_ite kind hnow)
      (Request.readOff_oneId _ _ _) rfl
  | createBundle name space session =>
    obtain rfl := Request.ensures_createBundle name space session request hrequest
    exact .of_test rfl Store.hasSession_iff (Store.addObject_eq_ite .bundle hnow)
      (Request.readOff_oneId _ _ _) rfl
  | addRelation source destination kind =>
    obtain rfl := Request.ensures_addRelation source destination kind request hrequest
    have hfinds : (addRelation source destination kind).Finds s ↔
        source ∈ Store.Table.objects.ids s ∧ destination ∈ kind.destinations.ids s := by
      rw [Finds, names, List.forall_mem_cons, List.forall_mem_singleton]
    refine ⟨fun h ↦ ?_, fun h ↦ ?_⟩
    · obtain ⟨hsource, hdestination⟩ := hfinds.mp h
      exact ⟨_, _, Store.addRelation_of_present kind hsource hdestination,
        Request.readOff_oneId _ _ _, rfl⟩
    · cases hadded : s.addRelation (.int source) (.int destination) (.int kind.code) with
      | error violation => exact ⟨violation, hadded⟩
      | ok result => exact absurd (hfinds.mpr (Store.present_of_addRelation hadded)) h
  | addObjectProperty id space key value =>
    obtain rfl := Request.ensures_command_addProperty _ _ id space key value request hrequest
    exact .of_test rfl Store.hasObject_iff_mem_ids Store.addObjectProperty_eq_ite rfl rfl
  | addRelationProperty id space key value =>
    obtain rfl := Request.ensures_command_addProperty _ _ id space key value request hrequest
    exact .of_test rfl Store.hasRelation_iff_mem_ids Store.addRelationProperty_eq_ite rfl rfl
  | addBundleProperty id space key value =>
    obtain rfl := Request.ensures_command_addProperty _ _ id space key value request hrequest
    exact .of_test rfl Store.hasObject_iff_mem_ids Store.addBundleProperty_eq_ite rfl rfl
  | addPrefix bundle space iri =>
    obtain rfl := Request.ensures_command_addPrefix bundle space iri request hrequest
    exact .of_test rfl Store.hasObject_iff_mem_ids Store.addPrefix_eq_ite rfl rfl
  | _ => cases hadds

theorem writes_of_adds (h : op.adds = true) : op.writes = true := by
  cases op <;> first
    | rfl
    | cases h

/-- What is served of a write: its answer and one more row, or a failed statement and the store of
before. -/
theorem Decides.served (h : op.Decides s now request)
    (hrequest : op.form.request reader = .ok request) :
    op.Finds s ∧ (s.served now request).1.bind op.form.answer = .ok (op.granted s) ∧
        (s.served now request).2 = op.gained now s ∨
      ¬ op.Finds s ∧
        (s.served now request).1.bind op.form.answer = .error (.statement op.query.name) ∧
        (s.served now request).2 = s := by
  have hreply : s.reply now request = s.outcome now request.query request.params := by
    rw [Store.reply, (op.plain_of_request reader request hrequest).asParameter]
  by_cases hfinds : op.Finds s
  · obtain ⟨rows, result, hrun, hread, hanswer⟩ := h.present hfinds
    rw [Store.served_of_ok (hreply.trans (Store.outcome_eq_ok_iff.mpr hrun)), hread]
    exact .inl ⟨hfinds, hanswer, rfl⟩
  · obtain ⟨violation, hrun⟩ := h.missing hfinds
    have hrefused : s.outcome now request.query request.params = .error violation.toError := by
      rw [Store.outcome, hrun]
    rw [Store.served_of_refused (hreply.trans hrefused),
      op.ensures_query reader request hrequest]
    exact .inr ⟨hfinds, rfl, rfl⟩

end Operation

/-! ### Added, or nothing has happened -/

namespace FileSite

variable {site : FileSite} {s : Store} {backend : FileBackend} {op : Operation}

/-- On every file, with valid arguments and nothing planned to fail, an operation that adds a row
succeeds if and only if all the rows that it names are there. The store then has the one row more;
otherwise the statement fails and the store is, with its counts of ids, the one of before. Either
way the backend is connected and every handle is back in its pool. -/
theorem writes_checked {C : Type} (hreach : site.Reachable (.opened backend))
    (hquiet : site.Quiet s backend) (hclock : backend.connection.world.world.now.IsClock)
    (hadds : op.adds = true) (hvalid : ∀ operand ∈ op.operands, ¬ operand.Refused)
    (callback : Listed → Action (C × FileBackend) Unit) (c : C) :
    ∃ answer s' after,
      (op.run site.driver callback).run (c, backend) = (answer, (c, after)) ∧
      (op.Finds s ∧ answer = .ok (op.granted s) ∧
          s' = op.gained backend.connection.world.world.now s ∨
        ¬ op.Finds s ∧ answer = .error (.statement op.query.name) ∧ s' = s) ∧
      site.Reachable (.opened after) ∧ site.Quiet s' after ∧
      after.connection.isConnected = true ∧
      ∀ query, after.connection.available query = .ok backend.options.poolSize := by
  obtain ⟨request, hrequest⟩ := Operation.exists_request backend.reader hvalid
  obtain ⟨after, live, hcall, hafter, hopen, hsize⟩ := hquiet.served hreach hrequest
  have hreach' := hreach.step (.performed backend op Operation.ignore ())
  rw [Operation.run_passive_backend, hcall] at hreach'
  refine ⟨_, _, after, ?_, (Operation.decides_of_adds hadds hrequest hclock).served hrequest,
    hreach', hafter, hopen.isConnected, fun query ↦ ?_⟩
  · rw [Operation.run_of_writes (Operation.writes_of_adds hadds), hcall]
  · rw [hopen.available, hsize, hreach.poolSize_eq]

/-- A session, two objects and a relation between them. -/
def oneRelated : FileBackend :=
  named.afterAll
    [.createSession ⟨"00:00:00:00:00:00", "user", 1, "program", "program --flag"⟩,
      .createObject "" "first" .entity 1, .createObject "" "second" .entity 1,
      .addRelation 1 2 .wasDerivedFrom] first

/-- The second object can be recorded as a member, but there is no second relation to record,
though there is an object of that id. -/
theorem member_recorded_or_missing :
    (∃ s after, named.Quiet s after ∧ s.lastRelation = 2 ∧
      ((Operation.addRelation 1 2 .inBundle).run named.driver Backend.keepRow).run
          ([], oneRelated) = (.ok (.id 2), ([], after))) ∧
    ∃ s after, named.Quiet s after ∧ s.lastRelation = 1 ∧
      ((Operation.addRelation 1 2 .bundleRelation).run named.driver Backend.keepRow).run
          ([], oneRelated) = (.error (.statement "AddRelation"), ([], after)) := by
  have hquiet : named.Quiet _ oneRelated := ⟨⟨⟨rfl, by decide⟩, rfl⟩, .inl rfl, fun _ ↦ rfl⟩
  have hclock : oneRelated.connection.world.world.now.IsClock :=
    ⟨⟨2026, 1, 1, 0, 0, 0, 0⟩, by decide, by decide, by decide, rfl⟩
  constructor
  · obtain ⟨answer, s, after, hrun, hanswer, -, hafter, -⟩ :=
      writes_checked (reachable_first.afterAll _) hquiet hclock
        (show (Operation.addRelation 1 2 .inBundle).adds = true from rfl) (by decide)
        Backend.keepRow []
    rcases hanswer with ⟨-, rfl, rfl⟩ | ⟨hmissing, -⟩
    · exact ⟨_, after, hafter, rfl, hrun⟩
    · exact absurd (by decide +kernel) hmissing
  · obtain ⟨answer, s, after, hrun, hanswer, -, hafter, -⟩ :=
      writes_checked (reachable_first.afterAll _) hquiet hclock
        (show (Operation.addRelation 1 2 .bundleRelation).adds = true from rfl) (by decide)
        Backend.keepRow []
    rcases hanswer with ⟨hfound, -⟩ | ⟨-, rfl, rfl⟩
    · exact absurd hfound (by decide +kernel)
    · exact ⟨_, after, hafter, rfl, hrun⟩

end FileSite

end Provenance
