import Provenance.Proofs.DeletionFrame

/-!
Ids are never handed out twice. Each of the three tables that hand out ids counts them: a request
hands out the next one or none (`Change.follows`), and whatever is deleted, the count goes on from
where it was. So the ids that a table has assigned over a whole history are one, two, three and so
on, in this order and without a gap, and an object that has gone is not found again (`ids_fresh`).
-/

set_option autoImplicit false
set_option relaxedAutoImplicit false

namespace Provenance

open Relational (Statement World)

namespace Store

/-- The tables that hand out ids. Objects and bundles share one. -/
inductive Table where
  | sessions
  | objects
  | relations
deriving DecidableEq, Repr

variable {s s' s'' : Store} {table : Table} {id : Nat}

namespace Table

/-- The ids of the rows of a table. -/
def ids (s : Store) : Table → List Nat
  | sessions => s.sessions.map (·.id)
  | objects => s.objects.map (·.id)
  | relations => s.relations.map (·.id)

/-- The id that a table has handed out last. -/
def last (s : Store) : Table → Nat
  | sessions => s.lastSession
  | objects => s.lastObject
  | relations => s.lastRelation

/-- The ids that a table has in the second store but not in the first. -/
def added (table : Table) (s s' : Store) : List Nat :=
  (table.ids s').filter fun id ↦ id ∉ table.ids s

theorem hasObject_eq_false_iff : s.hasObject id = false ↔ id ∉ objects.ids s := by
  rw [← Bool.not_eq_true, hasObject_iff]
  simp only [ids, List.mem_map]

/-- Some rows of a table have gone, or it has one more row, with the next id. -/
def Follows (table : Table) (s s' : Store) : Prop :=
  (table.ids s').Sublist (table.ids s) ∧ table.last s' = table.last s ∨
    table.ids s' = table.ids s ++ [table.last s + 1] ∧ table.last s' = table.last s + 1

/-- The ids of a table are in order, and none lies beyond those handed out. -/
def Counted (table : Table) (s : Store) : Prop :=
  (table.ids s).Sublist (List.range' 1 (table.last s))

theorem Follows.refl (table : Table) (s : Store) : table.Follows s s := .inl ⟨.refl _, rfl⟩

theorem Counted.le_last (h : table.Counted s) (hid : id ∈ table.ids s) : id ≤ table.last s := by
  have hrange := List.mem_range'_1.mp (h.subset hid)
  omega

theorem counted_empty (table : Table) : table.Counted .empty := by
  cases table <;> exact List.nil_sublist _

theorem Follows.counted (h : table.Follows s s') (hs : table.Counted s) : table.Counted s' := by
  unfold Counted at hs ⊢
  rcases h with ⟨hids, hlast⟩ | ⟨hids, hlast⟩
  · rw [hlast]
    exact hids.trans hs
  · rw [hids, hlast, List.range'_1_concat, Nat.add_comm 1]
    exact hs.append_right _

/-- What is added continues the count. -/
theorem Follows.range_added (h : table.Follows s s') (hs : table.Counted s) :
    List.range' 1 (table.last s) ++ table.added s s' = List.range' 1 (table.last s') := by
  rcases h with ⟨hids, hlast⟩ | ⟨hids, hlast⟩
  · have hnone : table.added s s' = [] := by
      rw [added, List.filter_eq_nil_iff]
      intro id hid
      simpa using hids.subset hid
    rw [hnone, hlast, List.append_nil]
  · have hnew : table.last s + 1 ∉ table.ids s := by
      intro hid
      have hle := hs.le_last hid
      omega
    have hold : (table.ids s).filter (fun id ↦ id ∉ table.ids s) = [] := by
      rw [List.filter_eq_nil_iff]
      intro id hid
      simpa using hid
    have hone : table.added s s' = [table.last s + 1] := by
      rw [added, hids, List.filter_append, hold, List.nil_append]
      exact List.filter_eq_self.mpr (by simpa using hnew)
    rw [hone, hlast, List.range'_1_concat, Nat.add_comm 1]

/-- An id that has been handed out and has no row gets none. -/
theorem Follows.absent (h : table.Follows s s') (hid : id ≤ table.last s)
    (habsent : id ∉ table.ids s) : id ≤ table.last s' ∧ id ∉ table.ids s' := by
  rcases h with ⟨hids, hlast⟩ | ⟨hids, hlast⟩
  · exact ⟨hlast ▸ hid, fun hmem ↦ habsent (hids.subset hmem)⟩
  · refine ⟨by omega, ?_⟩
    rw [hids, List.mem_append, List.mem_singleton]
    rintro (hmem | hnext)
    · exact habsent hmem
    · omega

end Table

/-- A query hands out the next id of a table or none. -/
theorem Change.follows {query : Query} {rows : List Row} (h : s.Change query rows s')
    (hs : s.Anchored) (table : Table) : table.Follows s s' := by
  cases h with
  | session row hid =>
    cases table with
    | sessions =>
      refine .inr ⟨?_, hid⟩
      simp only [Table.ids, Table.last, List.map_append, List.map_cons, List.map_nil, hid]
    | _ => exact .refl _ _
  | object query row hid hquery hsession =>
    cases table with
    | objects =>
      refine .inr ⟨?_, hid⟩
      simp only [Table.ids, Table.last, List.map_append, List.map_cons, List.map_nil, hid]
    | _ => exact .refl _ _
  | relation row hid hsource hdestination =>
    cases table with
    | relations =>
      refine .inr ⟨?_, hid⟩
      simp only [Table.ids, Table.last, List.map_append, List.map_cons, List.map_nil, hid]
    | _ => exact .refl _ _
  | deletion id =>
    have hremains := hs.remains_deleteBundle id
    cases table with
    | sessions =>
      refine .inl ⟨?_, hremains.lastSession⟩
      simp only [Table.ids, hremains.sessions, List.Sublist.refl]
    | objects => exact .inl ⟨hremains.objects.sublist.map _, hremains.lastObject⟩
    | relations => exact .inl ⟨hremains.relations.sublist.map _, hremains.lastRelation⟩
  | _ => cases table <;> exact .refl _ _

theorem Step.follows (h : s.Step s') (hs : s.Reachable) (table : Table) :
    table.Follows s s' := by
  obtain ⟨query, rows, hchange⟩ := h.exists_change
  exact hchange.follows hs.anchored_numbered.1 table

theorem Reachable.counted (h : s.Reachable) (table : Table) : table.Counted s := by
  induction h with
  | empty => exact Table.counted_empty table
  | step h hstep ih => exact (hstep.follows h table).counted ih

theorem Reachable.pairwise_ids (h : s.Reachable) (table : Table) :
    (table.ids s).Pairwise (· < ·) :=
  List.Pairwise.sublist (h.counted table) List.pairwise_lt_range'

end Store

/-! ### Ids that are answered -/

/-- The table that a query adds a row with an id to. -/
def Query.fills : Query → Option Store.Table
  | createSession => some .sessions
  | createObject | createBundle => some .objects
  | addRelation => some .relations
  | _ => none

theorem Query.writes_of_fills {query : Query} {table : Store.Table}
    (h : query.fills = some table) : query.writes = true := by
  cases query <;> first
    | rfl
    | cases h

/-- The table that an operation adds a row with an id to. -/
def Operation.fills : Operation → Option Store.Table
  | createSession _ => some .sessions
  | createObject .. | createBundle .. => some .objects
  | addRelation .. => some .relations
  | _ => none

/-- A query that adds a row with an id returns the id. -/
theorem Store.Change.returned_of_fills {s s' : Store} {query : Query} {rows : List Row}
    {table : Store.Table} (h : s.Change query rows s') (hfills : query.fills = some table) :
    ∃ id, rows = returned id ∧ table.ids s' = table.ids s ++ [id] := by
  cases h with
  | session row hid =>
    cases hfills
    exact ⟨row.id, rfl, List.map_append⟩
  | object query row hid hquery hsession =>
    have htable : table = .objects := by
      rcases hquery with rfl | rfl <;> exact (Option.some.inj hfills).symm
    rw [htable]
    exact ⟨row.id, rfl, List.map_append⟩
  | relation row hid hsource hdestination =>
    cases hfills
    exact ⟨row.id, rfl, List.map_append⟩
  | nothing query rows hreads =>
    rw [Query.writes_of_fills hfills] at hreads
    cases hreads
  | _ => cases hfills

theorem Request.readOff_oneId (query : Query) (params : List Value) (id : Nat) :
    (Request.oneId query params).readOff (Store.returned id) = .ok id := by
  simp [Request.readOff, Request.oneId, Store.returned, Reading.single, Reading.andThen,
    Reading.closeIf, FetchOptions.standard, Reading.outcome, Value.isNull, Value.toId_int,
    Fetched.toExcept]

namespace Backend

variable {site : FileSite} {s : Store} {backend : FileBackend} {table : Store.Table} {id : Nat}

/-- A call that answers with an id has added a row of this id. -/
theorem ids_of_call (query : Query) {request : Reader → Except Error (Request Nat)}
    (hrequest : ∀ reader, Ensures (request reader) fun valid ↦
      ∃ params, valid = Request.oneId query params)
    (hfills : query.fills = some table) (h : backend.connection.Settled site s)
    (hanswer : ((call site.driver request).run backend).1 = .ok id) :
    ∃ s', ((call site.driver request).run backend).2.connection.Settled site s' ∧
      table.ids s' = table.ids s ++ [id] := by
  obtain ⟨s', hsettled, ⟨⟨err, herr⟩, -⟩ | ⟨valid, now, rows, hvalid, hreply, hread⟩⟩ :=
    call_cases request h
  · rw [herr] at hanswer
    cases hanswer
  · obtain ⟨params, rfl⟩ := hrequest _ valid hvalid
    obtain ⟨new, rfl, hids⟩ :=
      (Store.Change.of_run (Store.outcome_eq_ok_iff.mp hreply)).returned_of_fills hfills
    have hsame := hread id hanswer
    rw [Request.readOff_oneId] at hsame
    cases hsame
    exact ⟨s', hsettled, hids⟩

end Backend

namespace Operation

variable {site : FileSite} {s : Store} {backend : FileBackend} {table : Store.Table} {id : Nat}

theorem conclude_answering {C : Type} {request : Reader → Except Error (Request Nat)}
    {callback : Listed → Action C Unit} {result : Except Error Nat} {c : C}
    (h : ((Form.answering request .id).conclude callback result c).1 = .ok (.id id)) :
    result = .ok id := by
  cases result with
  | error err => cases h
  | ok found =>
    cases h
    rfl

/-- An operation that answers with the id of something new has added a row of this id. -/
def AnswersAdded (site : FileSite) (table : Store.Table) (s : Store) (backend : FileBackend) :
    Prop :=
  ∀ (op : Operation), op.fills = some table → ∀ {C : Type} (callback : Listed → Action C Unit)
    (c : C) (id : Nat),
    ((op.run site.driver (passive callback)).run (c, backend)).1 = .ok (.id id) →
      ∃ s', ((op.run site.driver (passive callback)).run
        (c, backend)).2.2.connection.Settled site s' ∧ table.ids s' = table.ids s ++ [id]

theorem answersAdded (h : backend.connection.Settled site s) (table : Store.Table) :
    AnswersAdded site table s backend := by
  intro op hfills C callback c id hanswer
  rw [run_passive] at hanswer ⊢
  cases op with
  | createSession session =>
    cases hfills
    exact Backend.ids_of_call .createSession
      (fun _ ↦ .check fun _ ↦ .check fun _ ↦ .check fun _ ↦ .check fun _ ↦ .pure ⟨_, rfl⟩) rfl h
      (conclude_answering hanswer)
  | createObject space name kind session =>
    cases hfills
    exact Backend.ids_of_call .createObject
      (fun _ ↦ .check fun _ ↦ .check fun _ ↦ .pure ⟨_, rfl⟩) rfl h (conclude_answering hanswer)
  | createBundle name space session =>
    cases hfills
    exact Backend.ids_of_call .createBundle
      (fun _ ↦ .check fun _ ↦ .check fun _ ↦ .pure ⟨_, rfl⟩) rfl h (conclude_answering hanswer)
  | addRelation source destination kind =>
    cases hfills
    exact Backend.ids_of_call .addRelation (fun _ ↦ .check fun _ ↦ .pure ⟨_, rfl⟩) rfl h
      (conclude_answering hanswer)
  | _ => cases hfills

/-! ### Objects that have gone -/

/-- The operations that look for an object or a bundle by its id. -/
def seeking (id : Nat) : List Operation := [objectInfo id, bundleInfo id, deleteBundle id]

/-- Whatever looks for an object that is not there finds nothing and changes nothing. -/
theorem request_of_absent {op : Operation} (hop : op ∈ seeking id) (hpos : 0 < id)
    (hid : id ≤ Limit.id) (habsent : s.hasObject id = false) (reader : Reader) :
    ∃ valid, op.form.request reader = .ok valid ∧ (∀ now, s.reply now valid = .ok ([], s)) ∧
      valid.readOff [] = .error .notFound := by
  have hparam : ∀ what, Argument.id what id = .ok (.int id) := fun what ↦
    Argument.id_eq what hpos hid
  have hrowId := Value.rowId?_int id
  have hmissing : ∀ o ∈ s.objects, o.id ≠ id := by
    intro o ho hsame
    rw [Store.hasObject_iff.mpr ⟨o, ho, hsame⟩] at habsent
    cases habsent
  simp only [seeking, List.mem_cons, List.not_mem_nil, or_false] at hop
  rcases hop with rfl | rfl | rfl
  · refine ⟨.first .getObjectInfo [.int id] (Request.objectRow reader), ?_, fun now ↦ ?_, rfl⟩
    · change Request.objectInfo reader id = _
      rw [Request.objectInfo, hparam]
      rfl
    · have hnone : s.objectsById (.int id) = [] := by
        rw [Store.objectsById, List.map_eq_nil_iff, List.filter_eq_nil_iff]
        intro o ho
        simpa [Store.idEquals, hrowId] using fun hsame ↦ hmissing o ho hsame.symm
      exact Store.outcome_eq_ok_iff.mpr
        (Store.run_of_readable .getObjectInfo [.int id] rfl rfl hnone Store.readable_nil)
  · refine ⟨⟨.getBundleInfo, [.int id], fun _ ↦ Request.bundleReading reader⟩, ?_, fun now ↦ ?_,
      rfl⟩
    · change Request.bundleInfo reader id = _
      rw [Request.bundleInfo, hparam]
      rfl
    · have hnone : s.bundlesById (.int id) = [] := by
        rw [Store.bundlesById, List.map_eq_nil_iff, List.filter_eq_nil_iff]
        intro o ho
        simpa [Store.idEquals, hrowId] using fun hsame ↦ absurd hsame.symm (hmissing o ho)
      exact Store.outcome_eq_ok_iff.mpr
        (Store.run_of_readable .getBundleInfo [.int id] rfl rfl hnone Store.readable_nil)
  · obtain ⟨read, hrequest⟩ := request_deleteBundle hpos hid reader
    refine ⟨⟨.deleteBundle, [.int id], read⟩, hrequest, fun now ↦ ?_, ?_⟩
    · have hnone : s.deleteBundle (.int id) = ([], s) := by
        have hfind : s.objects.find? (fun o ↦ (Value.int id).rowId? == some o.id && o.isBundle) =
            none := by
          rw [List.find?_eq_none]
          intro o ho
          simpa [hrowId] using fun hsame ↦ absurd hsame.symm (hmissing o ho)
        simp only [Store.deleteBundle, hfind]
      exact congrArg Except.ok hnone
    · change Request.deleteBundle id = _ at hrequest
      rw [Request.deleteBundle, hparam] at hrequest
      cases hrequest
      rfl

/-- Looking for an object of this id fails: nothing is found, unless a failure is planned or the
backend may not connect. -/
def Misses (site : FileSite) (backend : FileBackend) (id : Nat) : Prop :=
  ∀ op ∈ seeking id, ∀ {C : Type} (callback : Listed → Action C Unit) (c : C),
    (∃ err, ((op.run site.driver (passive callback)).run (c, backend)).1 = .error err) ∧
      ((backend.connection.isConnected = true ∨ backend.options.maxRetries ≠ 0) →
        (∀ point, backend.connection.world.plan.queues point = []) →
          ((op.run site.driver (passive callback)).run (c, backend)).1 = .error .notFound)

theorem misses_of_absent (hpos : 0 < id) (hid : id ≤ Limit.id) (habsent : s.hasObject id = false)
    (h : backend.connection.Settled site s) : Misses site backend id := by
  intro op hop C callback c
  obtain ⟨valid, hrequest, hreply, hread⟩ := request_of_absent hop hpos hid habsent backend.reader
  constructor
  · rw [run_passive]
    obtain ⟨s', -, ⟨⟨err, herr⟩, -⟩ | ⟨valid', now, rows, hvalid, hrows, hanswer⟩⟩ :=
      Backend.call_cases op.form.request h
    · exact ⟨err, by simp only [herr, Form.conclude]⟩
    · cases hrequest.symm.trans hvalid
      cases (hreply now).symm.trans hrows
      cases hresult : ((Backend.call site.driver op.form.request).run backend).1 with
      | error err => exact ⟨err, by simp only [hresult, Form.conclude]⟩
      | ok found => cases hread.symm.trans (hanswer found hresult)
  · intro hopens hqueues
    obtain ⟨c', hperform, -⟩ :=
      Connection.perform_of_nothing_planned h hopens valid 0 hqueues
    rw [Store.served_of_ok (hreply _), hread] at hperform
    rw [run_passive_of_perform hrequest hperform]
    rfl

end Operation

/-! ### Every history of a file -/

namespace FileSite

variable {site : FileSite} {table : Store.Table} {s t : Store}

theorem State.Keeps.unique {state : State} (h : state.Keeps site s) (h' : state.Keeps site t) :
    s = t := by
  cases state with
  | opened backend =>
    exact (Connection.Settled.keeps h).unique (Connection.Settled.keeps h')
  | closed w =>
    obtain ⟨⟨-, hs⟩, -⟩ := h
    obtain ⟨⟨-, ht⟩, -⟩ := h'
    rcases hs with hs | ⟨rfl, -, hs⟩ <;> rcases ht with ht | ⟨rfl, -, ht⟩
    · simpa using hs.symm.trans ht
    · rcases ht with ht | ⟨ht, -⟩ <;> cases hs.symm.trans ht
    · rcases hs with hs | ⟨hs, -⟩ <;> cases ht.symm.trans hs
    · rfl

/-- A backend that keeps a store is settled on it, and the store is one that requests lead to. -/
theorem Reachable.settled {backend : FileBackend} (h : site.Reachable (.opened backend))
    (hkeeps : site.Keeps backend.connection.world.world s) :
    s.Reachable ∧ backend.connection.Settled site s := by
  obtain ⟨s', hs', hsettled⟩ := h.exists_store
  obtain rfl : s' = s := hsettled.keeps.unique hkeeps
  exact ⟨hs', hsettled⟩

/-- Steps lead from one state to another, and a table assigns these ids on the way, in this order.
What a step assigns are the ids that the table has after it but did not have before. -/
inductive Assigns (site : FileSite) (table : Store.Table) (start : State) :
    List Nat → State → Prop
  | refl : Assigns site table start [] start
  | step {ids : List Nat} {state state' : State} {s s' : Store}
      (h : Assigns site table start ids state) (hstep : site.Step state state')
      (hs : state.Keeps site s) (hs' : state'.Keeps site s') :
      Assigns site table start (ids ++ table.added s s') state'

/-- Wherever steps lead, a table has assigned some ids on the way. -/
theorem Leads.exists_assigns {start state : State} (h : site.Leads start state)
    (hstart : start.Keeps site s) (table : Store.Table) :
    ∃ ids t, site.Assigns table start ids state ∧ state.Keeps site t := by
  induction h with
  | refl => exact ⟨[], s, .refl, hstart⟩
  | step h hstep ih =>
    obtain ⟨ids, t, hassigns, ht⟩ := ih
    obtain ⟨t', ht', -⟩ := hstep.keeps ht
    exact ⟨_, t', hassigns.step hstep ht ht', ht'⟩

theorem Step.follows {state state' : State} (h : site.Step state state')
    (hs : state.Keeps site s) (hreach : s.Reachable) (ht : state'.Keeps site t)
    (table : Store.Table) : t.Reachable ∧ table.Follows s t := by
  obtain ⟨t', ht', rfl | hled⟩ := h.keeps hs
  · rw [ht.unique ht']
    exact ⟨hreach, .refl _ _⟩
  · rw [ht.unique ht']
    exact ⟨hreach.step hled, hled.follows hreach table⟩

/-- The ids that a table assigns continue its count, and those that have no row get none. -/
theorem Assigns.counts {start state : State} {ids : List Nat}
    (h : site.Assigns table start ids state) (hs : start.Keeps site s) (hreach : s.Reachable) :
    ∃ t, state.Keeps site t ∧ t.Reachable ∧
      List.range' 1 (table.last s) ++ ids = List.range' 1 (table.last t) ∧
      ∀ id, id ≤ table.last s → id ∉ table.ids s → id ≤ table.last t ∧ id ∉ table.ids t := by
  induction h with
  | refl => exact ⟨s, hs, hreach, List.append_nil _, fun id hid habsent ↦ ⟨hid, habsent⟩⟩
  | @step ids state state' u u' h hstep hu hu' ih =>
    obtain ⟨t, ht, htreach, hcount, habsent⟩ := ih
    obtain rfl := ht.unique hu
    obtain ⟨hreach', hfollows⟩ := hstep.follows hu htreach hu' table
    refine ⟨u', hu', hreach', ?_, fun id hid hgone ↦ ?_⟩
    · rw [← List.append_assoc, hcount, hfollows.range_added (htreach.counted table)]
    · obtain ⟨hle, hnone⟩ := habsent id hid hgone
      exact hfollows.absent hle hnone

/-- Of every history of a fresh file, under any failures: what a table has assigned until some time
in it and what it assigns from then on are one, two, three and so on, in this order and without a
gap. Every row has one of these ids, and one that is answered belongs to the row that was added for
it. An id that has lost its row never has one again, and looking for an object of this id fails:
nothing is found, unless a failure is planned or the backend may not connect. -/
theorem ids_fresh {w : Faulty World} (hfresh : site.Fresh w) (table : Store.Table)
    {past present : State} (hpast : site.Leads (.closed w) past)
    (hpresent : site.Leads past present) :
    (∃ given later s t, site.Assigns table (.closed w) given past ∧
      site.Assigns table past later present ∧ past.Keeps site s ∧ present.Keeps site t) ∧
    ∀ given later s t, site.Assigns table (.closed w) given past →
      site.Assigns table past later present → past.Keeps site s → present.Keeps site t →
        given ++ later = List.range' 1 (given.length + later.length) ∧
        (∀ id ∈ table.ids t, id ∈ given ++ later) ∧
        (∀ id ∈ given, id ∉ table.ids s → id ∉ table.ids t) ∧
        ∀ backend, present = .opened backend →
          Operation.AnswersAdded site table t backend ∧
          (table = .objects → ∀ id ∈ given, id ∉ table.ids s → id ≤ Limit.id →
            Operation.Misses site backend id) := by
  constructor
  · obtain ⟨given, s, hgiven, hs⟩ := hpast.exists_assigns hfresh.keeps table
    obtain ⟨later, t, hlater, ht⟩ := hpresent.exists_assigns hs table
    exact ⟨given, later, s, t, hgiven, hlater, hs, ht⟩
  · intro given later s t hgiven hlater hs ht
    obtain ⟨s', hs', hsreach, hcount, -⟩ := hgiven.counts hfresh.keeps .empty
    obtain rfl := hs.unique hs'
    obtain ⟨t', ht', htreach, hcount', habsent⟩ := hlater.counts hs hsreach
    obtain rfl := ht.unique ht'
    have hzero : table.last .empty = 0 := by cases table <;> rfl
    rw [hzero, List.range'_zero, List.nil_append] at hcount
    have hall : given ++ later = List.range' 1 (table.last t) := by rw [hcount, hcount']
    have hlength : given.length + later.length = table.last t := by
      rw [← List.length_append, hall, List.length_range']
    have hgone : ∀ id ∈ given, id ∉ table.ids s → 0 < id ∧ id ∉ table.ids t := by
      intro id hid hnone
      rw [hcount] at hid
      have hrange := List.mem_range'_1.mp hid
      exact ⟨hrange.1, (habsent id (by omega) hnone).2⟩
    refine ⟨by rw [hlength, hall], fun id hid ↦ ?_, fun id hid hnone ↦ (hgone id hid hnone).2, ?_⟩
    · rw [hall]
      exact (htreach.counted table).subset hid
    · rintro backend rfl
      refine ⟨Operation.answersAdded ht table, ?_⟩
      rintro rfl id hid hnone hlimit
      obtain ⟨hpos, hnone'⟩ := hgone id hid hnone
      exact Operation.misses_of_absent hpos hlimit
        (Store.Table.hasObject_eq_false_iff.mpr hnone') ht

/-- The first of the nested bundles is deleted and another bundle is made. That one gets the next
id, and the deleted one is not found again. -/
theorem ids_after_nested_deletion :
    ∃ given later t,
      named.Assigns .objects (.closed untouched) given
        (.opened (named.afterAll (nested ++ [.deleteBundle 1]) first)) ∧
      named.Assigns .objects (.opened (named.afterAll (nested ++ [.deleteBundle 1]) first)) later
        (.opened (named.afterAll [.createBundle "third" "" 1]
          (named.afterAll (nested ++ [.deleteBundle 1]) first))) ∧
      (State.opened (named.afterAll [.createBundle "third" "" 1]
        (named.afterAll (nested ++ [.deleteBundle 1]) first))).Keeps named t ∧
      given = [1, 2, 3] ∧ given ++ later = [1, 2, 3, 4] ∧ 1 ∉ Store.Table.objects.ids t ∧
      Operation.Misses named (named.afterAll [.createBundle "third" "" 1]
        (named.afterAll (nested ++ [.deleteBundle 1]) first)) 1 := by
  obtain ⟨⟨given, later, s, t, hgiven, hlater, hs, ht⟩, hall⟩ :=
    ids_fresh fresh_untouched .objects (leads_first.afterAll (nested ++ [.deleteBundle 1]))
      (Leads.refl.afterAll [.createBundle "third" "" 1])
  obtain ⟨-, -, habsent, hbackend⟩ := hall given later s t hgiven hlater hs ht
  obtain ⟨s', hs', hreach, hcount, -⟩ := hgiven.counts fresh_untouched.keeps .empty
  obtain ⟨t', ht', -, hcount', -⟩ := hlater.counts hs' hreach
  have hthree : Store.Table.objects.last s' = 3 := by
    rw [(Connection.Settled.keeps hs').unique ⟨⟨rfl, by decide⟩, rfl⟩]
    rfl
  have hfour : Store.Table.objects.last t' = 4 := by
    rw [(Connection.Settled.keeps ht').unique ⟨⟨rfl, by decide⟩, rfl⟩]
    rfl
  have hgone : 1 ∉ Store.Table.objects.ids s := by
    rw [(Connection.Settled.keeps hs).unique ⟨⟨rfl, by decide⟩, rfl⟩]
    decide +kernel
  rw [hthree] at hcount hcount'
  rw [hfour, ← hcount] at hcount'
  have hfirst : given = [1, 2, 3] := hcount
  have hone : 1 ∈ given := by simp [hfirst]
  exact ⟨given, later, t, hgiven, hlater, ht, hfirst, hcount', habsent 1 hone hgone,
    (hbackend _ rfl).2 rfl 1 hone hgone (by decide)⟩

end FileSite

end Provenance
