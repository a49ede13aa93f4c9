import Provenance.Proofs.KeptRows

/-!
Objects of dated histories. Whenever something happens in a dated history, the clock shows a time
(`FileSite.Dates`). Whatever has happened, every object of the store has then a time of the clock, a
space and a name that are texts and one of the four kinds (`Dated.exists_legible`), so an
enumeration can show it (`ObjectRow.IsLegible.reads_shown`).
-/

set_option autoImplicit false
set_option relaxedAutoImplicit false

namespace Provenance

/-! ### What is shown of an object -/

namespace ObjectRow

/-- What an enumeration shows of an object: its texts cut, and its time as an instant. -/
def shown (reader : Reader) (row : ObjectRow) : ObjectInfo where
  id := row.id
  session := row.session.toId.toOption.getD 0
  created := (row.created.toEpoch reader).toOption.getD 0
  space := (row.space.toText reader).toOption.getD ""
  name := (row.name.toText reader).toOption.getD ""
  kind := row.kind.toObjectKind.toOption.getD .entity

/-- What a lookup shows of an object. -/
def found (reader : Reader) (row : ObjectRow) : LookupEntry :=
  ⟨row.id, (row.created.toEpoch reader).toOption.getD 0⟩

namespace IsLegible

variable {row : ObjectRow}

theorem reads_shown (h : row.IsLegible) (reader : Reader) :
    (Request.objectRow reader).Reads (Store.objectColumns row) (row.shown reader) := by
  obtain ⟨space, hspace⟩ := h.space
  obtain ⟨name, hname⟩ := h.name
  obtain ⟨kind, hkind⟩ := h.kind
  obtain ⟨session, hsession⟩ := h.session
  obtain ⟨epoch, hepoch⟩ := h.created.exists_epoch reader
  have hshown : row.shown reader = ⟨row.id, session, epoch,
      Text.truncate reader.limit space, Text.truncate reader.limit name, kind⟩ := by
    have hcode : (Value.int kind.code).toObjectKind = .ok kind := kind.ofCode_code
    rw [shown, hepoch, hspace, hname, hkind, hcode, hsession, Value.toId_int]
    rfl
  rw [hshown]
  exact reads_objectRow h.created hepoch hspace hname hkind hsession

theorem isReadable_found (h : row.IsLegible) :
    ∀ value ∈ [.int row.id, row.created], value.isGarbled = false := by
  simp [h.created.isGarbled]

theorem reads_found (h : row.IsLegible) (reader : Reader) :
    (Request.lookupRow reader).Reads [.int row.id, row.created] (row.found reader) := by
  obtain ⟨epoch, hepoch⟩ := h.created.exists_epoch reader
  have hfound : row.found reader = ⟨row.id, epoch⟩ := by
    rw [found, hepoch]
    rfl
  rw [hfound]
  refine (Reading.reads_required rfl rfl (Value.toId_int row.id)).bind ?_
  exact (Reading.reads_required rfl h.created.isNull hepoch).bind (Reading.reads_pure _ _)

end IsLegible

end ObjectRow

/-- What is listed of some objects. -/
def Listed.objects (reader : Reader) (rows : List ObjectRow) : List Listed :=
  rows.map fun row ↦ .object (row.shown reader)

theorem Listed.objects_eq (reader : Reader) (rows : List ObjectRow) :
    objects reader rows = (rows.map (·.shown reader)).map .object := List.map_map.symm

/-! ### One request -/

namespace Store

variable {s s' : Store} {now : Value} {rows : List Row}

/-- Every object can be read. -/
def ObjectsLegible (s : Store) : Prop := ∀ row ∈ s.objects, row.IsLegible

theorem ObjectsLegible.withObject (h : s.ObjectsLegible) (hnow : now.IsClock) (space name : String)
    (kind : ObjectKind) (session : Nat) :
    (s.withObject (s.nextObject now space name kind session)).ObjectsLegible :=
  List.forall_mem_append.mpr ⟨h, List.forall_mem_singleton.mpr
    ⟨hnow, ⟨space, rfl⟩, ⟨name, rfl⟩, ⟨kind, rfl⟩,
      ⟨session, rfl⟩⟩⟩

/-- An object that comes is added by a query for objects. -/
theorem Change.objects_subset {query : Query} (h : s.Change query rows s')
    (hquery : query.fills ≠ some .objects) : s'.objects ⊆ s.objects := by
  cases h with
  | object query row hid hobject hsession =>
    rcases hobject with rfl | rfl <;> exact absurd rfl hquery
  | deletion bundle => exact objects_deleteBundle bundle
  | _ => exact List.Subset.refl _

end Store

namespace Operation

variable {op : Operation}

/-- An operation adds a row to the table that its query adds one to. -/
theorem fills_query (op : Operation) : op.query.fills = op.fills := by
  cases op with
  | lookupObject space name kind | lookupObjects space name kind flags => cases kind <;> rfl
  | objectProperties id filter | relationProperties id filter | bundleProperties id filter =>
    cases filter <;> rfl
  | allObjects space | prefixes bundle space => cases space <;> rfl
  | objectRelations id direction => cases direction <;> rfl
  | _ => rfl

/-- What an object is made of is what is stored, with the time that the clock shows. -/
theorem objectsLegible_of_run {s s' : Store} {now : Value} {reader : Reader}
    {request : Request op.form.Rows} {rows : List Row}
    (hrequest : op.form.request reader = .ok request) (hnow : now.IsClock)
    (hrun : s.run now request.query request.params = .ok (rows, s')) (hs : s.ObjectsLegible) :
    s'.ObjectsLegible := by
  by_cases hfills : op.fills = some .objects
  · cases op with
    | createObject space name kind session =>
      obtain rfl := Request.ensures_createObject space name kind session request hrequest
      obtain rfl := Store.addObject_eq_of_ok kind hnow hrun
      exact hs.withObject hnow space name kind session
    | createBundle name space session =>
      obtain rfl := Request.ensures_createBundle name space session request hrequest
      obtain rfl := Store.addObject_eq_of_ok .bundle hnow hrun
      exact hs.withObject hnow space name .bundle session
    | _ => cases hfills
  · rw [← op.fills_query, ← op.ensures_query reader request hrequest] at hfills
    have hsubset := (Store.Change.of_run hrun).objects_subset hfills
    exact fun row hrow ↦ hs row (hsubset hrow)

end Operation

/-! ### Dated histories -/

namespace FileSite

variable {site : FileSite} {s : Store}

/-- What the clock of a state shows. -/
def State.now : State → Value
  | closed w => w.world.now
  | opened backend => backend.connection.world.world.now

/-- Steps lead from one state to another, and whenever one is taken the clock shows a time. -/
inductive Dates (site : FileSite) (start : State) : State → Prop
  | refl : Dates site start start
  | step {state state' : State} (h : Dates site start state) (hclock : state.now.IsClock)
      (hstep : site.Step state state') : Dates site start state'

/-- The states that a fresh file can be brought to while the clock shows times. -/
def Dated (site : FileSite) (state : State) : Prop :=
  ∃ w, site.Fresh w ∧ site.Dates (.closed w) state

theorem Dates.leads {start state : State} (h : site.Dates start state) :
    site.Leads start state := by
  induction h with
  | refl => exact .refl
  | step _ _ hstep ih => exact ih.step hstep

theorem Dated.reachable {state : State} (h : site.Dated state) : site.Reachable state := by
  obtain ⟨w, hfresh, hdates⟩ := h
  exact ⟨w, hfresh, hdates.leads⟩

/-- A step that the clock dates leaves objects that can be read. -/
theorem Step.objectsLegible {state state' : State} (h : site.Step state state')
    (hclock : state.now.IsClock) (hs : state.Keeps site s) (hlegible : s.ObjectsLegible) :
    ∃ s', state'.Keeps site s' ∧ s'.ObjectsLegible := by
  obtain ⟨s', hs', rfl | ⟨op, ⟨backend, C, callback, c, rfl, rfl⟩, -⟩⟩ := h.keeps_or_performs hs
  · exact ⟨s', hs', hlegible⟩
  · rw [Operation.run_passive_backend] at hs' ⊢
    obtain ⟨t, ht, ⟨-, rfl⟩ | ⟨request, rows, hrequest, hreply, -⟩⟩ :=
      Backend.call_cases_now op.form.request hs
    · exact ⟨t, ht, hlegible⟩
    · exact ⟨t, ht, Operation.objectsLegible_of_run hrequest hclock
        (Operation.run_of_reply hrequest hreply) hlegible⟩

/-- In every state of a dated history the file keeps a store whose objects can be read. -/
theorem Dated.exists_legible {state : State} (h : site.Dated state) :
    ∃ s, state.Keeps site s ∧ s.ObjectsLegible := by
  obtain ⟨w, hfresh, hdates⟩ := h
  induction hdates with
  | refl => exact ⟨.empty, hfresh.keeps, fun row hrow ↦ absurd hrow List.not_mem_nil⟩
  | step _ hclock hstep ih =>
    obtain ⟨s, hs, hlegible⟩ := ih
    exact hstep.objectsLegible hclock hs hlegible

theorem Dated.objectsLegible {backend : FileBackend} (h : site.Dated (.opened backend))
    (hkeeps : site.Keeps backend.connection.world.world s) : s.ObjectsLegible := by
  obtain ⟨s', hs', hlegible⟩ := h.exists_legible
  obtain rfl : s' = s := (Connection.Settled.keeps hs').unique hkeeps
  exact hlegible

/-! ### Operations one after another -/

/-- An operation leaves the clock as it is. -/
theorem now_performed {backend : FileBackend} (h : site.Reachable (.opened backend))
    (op : Operation) {C : Type} (callback : Listed → Action C Unit) (c : C) :
    (State.opened ((op.run site.driver (Operation.passive callback)).run (c, backend)).2.2).now =
      (State.opened backend).now := by
  obtain ⟨s, -, hsettled⟩ := h.exists_store
  rw [Operation.run_passive_backend]
  cases hrequest : op.form.request backend.reader with
  | error err => rw [Backend.run_call_of_error hrequest]
  | ok request =>
    rw [Backend.run_call_of_ok hrequest]
    obtain ⟨result, c', more, hperform, -, hperformed⟩ :=
      Connection.perform_recorded request backend.options.maxRetries 0 [] hsettled
    rw [hperform]
    cases hperformed with
    | spared err c' more hspared hcalls => exact hspared.agree.now_eq
    | served result c' more rows s' hserved hcalls =>
      exact hserved.agree.now_eq.trans (now_written _ _)

theorem Dated.afterAll {backend : FileBackend} (h : site.Dated (.opened backend))
    (hclock : (State.opened backend).now.IsClock) (ops : List Operation) :
    site.Dated (.opened (site.afterAll ops backend)) := by
  induction ops generalizing backend with
  | nil => exact h
  | cons op rest ih =>
    have hstep : site.Step (.opened backend) (.opened ((op.run site.driver
        (Operation.passive Operation.ignore)).run ((), backend)).2.2) :=
      .performed backend op Operation.ignore ()
    have hnow := now_performed h.reachable op Operation.ignore ()
    obtain ⟨w, hfresh, hdates⟩ := h
    exact ih ⟨w, hfresh, hdates.step hclock hstep⟩ (hnow ▸ hclock)

theorem isClock_first : (State.opened first).now.IsClock :=
  ⟨⟨2026, 1, 1, 0, 0, 0, 0⟩, by decide, by decide, by decide, rfl⟩

theorem dated_first : named.Dated (.opened first) :=
  ⟨untouched, fresh_untouched, .step .refl isClock_first (.started {} ⟨0, none⟩ rfl)⟩

end FileSite

end Provenance
