import Mathlib.Data.List.Nodup
import Provenance.Proofs.RowReadings

/-!
What requests yield. A request that is made of a store, and served at a time, has a result and leads
to a store (`Store.Yields`). A row that is found by its id is the only one with it, so asking for a
session, an object or a bundle yields what was stored of it, the texts cut
(`yields_sessionInfo`, `yields_objectInfo`, `yields_bundleInfo`). If all kinds are known, asking for
relations yields one entry for each that is found, in their order (`yields_objectRelations`,
`yields_bundleRelations`).
-/

set_option autoImplicit false
set_option relaxedAutoImplicit false

namespace Provenance

variable {α : Type}

/-! ### Arguments within the limits -/

namespace Argument

theorem checkLength_eq {value : String} {limit : Nat} (what : String)
    (h : value.utf8ByteSize ≤ limit) : checkLength what value limit = .ok () := by
  rw [checkLength, if_neg (by omega)]

theorem checkName_eq {space name : String} (hspace : space.utf8ByteSize ≤ Limit.space)
    (hname : name.utf8ByteSize ≤ Limit.name) : checkName space name = .ok () := by
  rw [checkName, checkLength_eq _ hspace, checkLength_eq _ hname]
  rfl

theorem checkProperty_eq {space key value : String} (hspace : space.utf8ByteSize ≤ Limit.space)
    (hkey : key.utf8ByteSize ≤ Limit.key) (hvalue : value.utf8ByteSize ≤ Limit.value) :
    checkProperty space key value = .ok () := by
  rw [checkProperty, checkLength_eq _ hspace, checkLength_eq _ hkey, checkLength_eq _ hvalue]
  rfl

end Argument

namespace Request

variable {id : Nat}

theorem objectInfo_eq (reader : Reader) (hpos : 0 < id) (hle : id ≤ Limit.id) :
    Request.objectInfo reader id =
      .ok (.first .getObjectInfo [.int id] (objectRow reader)) := by
  rw [Request.objectInfo, Argument.id_eq _ hpos hle]
  rfl

theorem bundleInfo_eq (reader : Reader) (hpos : 0 < id) (hle : id ≤ Limit.id) :
    Request.bundleInfo reader id =
      .ok ⟨.getBundleInfo, [.int id], fun _ ↦ bundleReading reader⟩ := by
  rw [Request.bundleInfo, Argument.id_eq _ hpos hle]
  rfl

end Request

namespace Store

variable {s s' : Store} {now : Value} {id : Nat}

/-! ### Ids as values -/

theorem refersTo_int (test : Nat → Bool) (id : Nat) : refersTo test (.int id) = test id := by
  simp only [refersTo, Value.rowId?_int]

theorem idEquals_int (id other : Nat) : idEquals id (.int other) = (id == other) := by
  rw [idEquals, Value.rowId?_int, Bool.eq_iff_iff, beq_iff_eq, beq_iff_eq, Option.some_inj]
  exact eq_comm

/-- Rows that all have ids of their own are found one by one. -/
theorem filter_idEquals {rows : List α} {key : α → Nat} (hkeys : (rows.map key).Nodup) {row : α}
    (hrow : row ∈ rows) :
    (rows.filter fun other ↦ idEquals (key other) (.int (key row))) = [row] := by
  have hall : ∀ other ∈ rows.filter fun other ↦ idEquals (key other) (.int (key row)),
      other = row := by
    intro other hother
    obtain ⟨hother, hid⟩ := List.mem_filter.mp hother
    rw [idEquals_int, beq_iff_eq] at hid
    exact List.inj_on_of_nodup_map hkeys hother hrow hid
  have hsome : row ∈ rows.filter fun other ↦ idEquals (key other) (.int (key row)) :=
    List.mem_filter.mpr ⟨hrow, by rw [idEquals_int, beq_self_eq_true]⟩
  have hnodup : (rows.filter fun other ↦ idEquals (key other) (.int (key row))).Nodup :=
    hkeys.of_map.filter _
  have hreplicate := List.eq_replicate_of_mem hall
  rw [hreplicate] at hnodup hsome ⊢
  rw [List.nodup_replicate] at hnodup
  rw [List.mem_replicate] at hsome
  rw [show List.length _ = 1 by omega]
  rfl

namespace Table.Counted

variable {table : Table} (h : table.Counted s)

include h

theorem nodup : (table.ids s).Nodup := List.Sublist.nodup h List.nodup_range'

theorem pos (hid : id ∈ table.ids s) : 0 < id :=
  (List.mem_range'_1.mp (List.Sublist.subset h hid)).1

end Table.Counted

/-! ### Requests that are served -/

/-- The request is made, and served it has this result and leaves that store. -/
def Yields (s : Store) (now : Value) (made : Except Error (Request α)) (result : Except Error α)
    (s' : Store) : Prop :=
  ∃ request rows, made = .ok request ∧ s.reply now request = .ok (rows, s') ∧
    request.readOff rows = result

/-- A request with integers and texts for parameters gets what the store makes of it. -/
theorem yields_of_run {made : Except Error (Request α)} (request : Request α)
    {result : Except Error α} {rows : List Row} (hmade : made = .ok request)
    (hplain : request.IsPlain) (hrun : s.run now request.query request.params = .ok (rows, s'))
    (hresult : request.readOff rows = result) : s.Yields now made result s' := by
  refine ⟨request, rows, hmade, ?_, hresult⟩
  rw [reply, hplain.asParameter]
  exact outcome_eq_ok_iff.mpr hrun

/-- Looking for an object that is not there finds nothing. -/
theorem yields_of_absent (op : Operation) (hop : op ∈ Operation.seeking id) (hpos : 0 < id)
    (hle : id ≤ Limit.id) (habsent : s.hasObject id = false) (reader : Reader) :
    s.Yields now (op.form.request reader) (.error .notFound) s := by
  obtain ⟨request, hmade, hreply, hread⟩ :=
    Operation.request_of_absent hop hpos hle habsent reader
  exact ⟨request, [], hmade, hreply now, hread⟩

/-! ### Sessions, objects and bundles -/

section Rows

variable {reader : Reader} {epoch : Int}

/-- A session is described as it is stored. -/
theorem yields_sessionInfo {macAddress user program commandLine : String} {pid : Int}
    {started : Value} (hcounted : Table.sessions.Counted s)
    (hrow : ⟨id, .text macAddress, .text user, .int pid, .text program, .text commandLine,
      started⟩ ∈ s.sessions)
    (hle : id ≤ Limit.id) (hstarted : started.IsClock)
    (hepoch : started.toEpoch reader = .ok epoch) :
    s.Yields now (Request.sessionInfo reader id) (.ok ⟨id, Text.truncate reader.limit macAddress,
      Text.truncate reader.limit user, pid, Text.truncate reader.limit program,
      Text.truncate reader.limit commandLine, epoch⟩) s := by
  have hpos : 0 < id := hcounted.pos (List.mem_map_of_mem hrow)
  have hrows : s.sessionsById (.int id) =
      [[.text macAddress, .text user, .int pid, .text program, .text commandLine, started]] := by
    have hfound := filter_idEquals (hcounted.nodup : (s.sessions.map (·.id)).Nodup) hrow
    rw [sessionsById, hfound]
    rfl
  have hread := Request.readOff_first .getSessionInfo [.int id]
    (List.Forall₂.cons
      (reads_sessionRow hstarted hepoch id macAddress user program commandLine pid) .nil)
  have hreadable : Readable
      [[.text macAddress, .text user, .int pid, .text program, .text commandLine, started]] := by
    simp [Readable, hstarted.isGarbled]
  refine yields_of_run (.first .getSessionInfo [.int id] (Request.sessionRow reader id)) ?_ ?_
    (run_of_readable .getSessionInfo [.int id] rfl rfl hrows hreadable) hread
  · rw [Request.sessionInfo, Argument.id_eq _ hpos hle]
    rfl
  · simp [Request.IsPlain, Request.first]

variable {o : ObjectRow} {space name : String} {session : Nat}

/-- An object is described as it is stored. -/
theorem yields_objectInfo {kind : ObjectKind} (hcounted : Table.objects.Counted s)
    (ho : o ∈ s.objects) (hle : o.id ≤ Limit.id) (hcreated : o.created.IsClock)
    (hepoch : o.created.toEpoch reader = .ok epoch) (hspace : o.space = .text space)
    (hname : o.name = .text name) (hkind : o.kind = .int kind.code)
    (hsession : o.session = .int session) :
    s.Yields now (Request.objectInfo reader o.id) (.ok ⟨o.id, session, epoch,
      Text.truncate reader.limit space, Text.truncate reader.limit name, kind⟩) s := by
  have hpos : 0 < o.id := hcounted.pos (List.mem_map_of_mem ho)
  have hrows : s.objectsById (.int o.id) = [objectColumns o] := by
    have hfound := filter_idEquals (hcounted.nodup : (s.objects.map (·.id)).Nodup) ho
    rw [objectsById, hfound]
    rfl
  have hread := Request.readOff_first .getObjectInfo [.int o.id]
    (List.Forall₂.cons (reads_objectRow hcreated hepoch hspace hname hkind hsession) .nil)
  have hreadable := ObjectRow.isReadable_of_columns hcreated hspace hname hkind hsession
  refine yields_of_run (.first .getObjectInfo [.int o.id] (Request.objectRow reader)) ?_ ?_
    (run_of_readable .getObjectInfo [.int o.id] rfl rfl hrows
      (List.forall_mem_singleton.mpr hreadable)) hread
  · exact Request.objectInfo_eq reader hpos hle
  · simp [Request.IsPlain, Request.first]

/-- A bundle is described as it is stored. -/
theorem yields_bundleInfo (hcounted : Table.objects.Counted s) (ho : o ∈ s.objects)
    (hbundle : o.isBundle = true) (hle : o.id ≤ Limit.id) (hcreated : o.created.IsClock)
    (hepoch : o.created.toEpoch reader = .ok epoch) (hspace : o.space = .text space)
    (hname : o.name = .text name) (hsession : o.session = .int session) :
    s.Yields now (Request.bundleInfo reader o.id) (.ok ⟨o.id, session, epoch,
      Text.truncate reader.limit space, Text.truncate reader.limit name⟩) s := by
  have hpos : 0 < o.id := hcounted.pos (List.mem_map_of_mem ho)
  have hrows : s.bundlesById (.int o.id) = [bundleColumns o] := by
    have hfound := filter_idEquals (hcounted.nodup : (s.objects.map (·.id)).Nodup) ho
    have hboth : (s.objects.filter fun row ↦ idEquals row.id (.int o.id) && row.isBundle) =
        (s.objects.filter fun row ↦ idEquals row.id (.int o.id)).filter (·.isBundle) := by
      rw [List.filter_filter]
      exact List.filter_congr fun row _ ↦ Bool.and_comm _ _
    rw [bundlesById, hboth, hfound, List.filter_singleton, hbundle]
    rfl
  have hkind : o.kind = .int ObjectKind.bundle.code := beq_iff_eq.mp hbundle
  have hreadable := (ObjectRow.isReadable_iff_of_isBundle hbundle).mp
    (ObjectRow.isReadable_of_columns hcreated hspace hname hkind hsession)
  refine yields_of_run ⟨.getBundleInfo, [.int o.id], fun _ ↦ Request.bundleReading reader⟩ ?_ ?_
    (run_of_readable .getBundleInfo [.int o.id] rfl rfl hrows
      (List.forall_mem_singleton.mpr hreadable))
    (readOff_bundle hcreated hepoch hspace hname hsession _ _)
  · exact Request.bundleInfo_eq reader hpos hle
  · simp [Request.IsPlain]

end Rows

/-! ### Relations -/

/-- Every relation has one of the twenty kinds. -/
def KnownKinds (s : Store) : Prop :=
  ∀ r ∈ s.relations, ∃ kind : RelationKind, r.kind = .int kind.code

theorem KnownKinds.isGarbled {s : Store} (h : s.KnownKinds) {r : RelationRow}
    (hr : r ∈ s.relations) : r.kind.isGarbled = false := by
  obtain ⟨kind, hkind⟩ := h r hr
  rw [hkind, Value.isGarbled_int]

end Store

namespace Direction

/-- The end at which an object stands whose relations are asked for. -/
def near (r : RelationRow) : Direction → Nat
  | ancestors => r.source
  | descendants => r.destination

/-- The other end. -/
def far (r : RelationRow) : Direction → Nat
  | ancestors => r.destination
  | descendants => r.source

end Direction

/-- An entry about a relation, with its kind as it is stored. -/
def RelationInfo.columns (info : RelationInfo) : Nat × Nat × Nat × Value :=
  (info.id, info.queried, info.other, .int info.kind.code)

theorem RelationKind.code_injective : Function.Injective RelationKind.code := by
  intro kind other h
  have hsame := other.ofCode_code
  rw [← h, kind.ofCode_code] at hsame
  exact Except.ok.inj hsame

theorem RelationInfo.columns_injective : Function.Injective RelationInfo.columns := by
  rintro ⟨id, queried, other, kind⟩ ⟨id', queried', other', kind'⟩ h
  simp only [columns, Prod.mk.injEq, Value.int.injEq] at h
  obtain ⟨rfl, rfl, rfl, hkind⟩ := h
  rw [RelationKind.code_injective hkind]

/-- An entry is listed if it is one about a relation that is found. -/
theorem Listed.relation_mem_iff {ρ : Type} {infos : List RelationInfo} {rows : List ρ}
    {columns : ρ → Nat × Nat × Nat × Value}
    (h : infos.map RelationInfo.columns = rows.map columns) {info : RelationInfo} :
    relation info ∈ infos.map relation ↔ ∃ row ∈ rows, columns row = info.columns := by
  rw [List.mem_map_of_injective fun _ _ ↦ relation.inj,
    ← List.mem_map_of_injective RelationInfo.columns_injective, h, List.mem_map]

namespace Store

variable {s : Store} {id bundle : Nat}

theorem isPlain_eq {r : RelationRow} {kind : RelationKind} (h : r.kind = .int kind.code) :
    isPlain r = !kind.isBookkeeping := by
  rw [isPlain, h]
  cases kind <;> rfl

/-- The relations of the vocabulary that leave or enter an object are listed, each with its other
end and its kind. -/
theorem yields_objectRelations (now : Value) (hkinds : s.KnownKinds) (hpos : 0 < id)
    (hle : id ≤ Limit.id) (direction : Direction) :
    ∃ infos, s.Yields now (Request.objectRelations id direction) (.ok infos) s ∧
      infos.map (·.columns) =
        (s.relations.filter fun r ↦ direction.near r == id && isPlain r).map fun r ↦
          (r.id, id, direction.far r, r.kind) := by
  let rows := s.relations.filter fun r ↦ direction.near r == id && isPlain r
  let query : Query := match direction with
    | .ancestors => .getObjectAncestors
    | .descendants => .getObjectDescendants
  have hreads : ∀ r ∈ rows, ∃ info,
      (Request.endRow id).Reads [.int r.id, .int (direction.far r), r.kind] info ∧
        info.columns = (r.id, id, direction.far r, r.kind) := by
    intro r hr
    obtain ⟨kind, hkind⟩ := hkinds r (List.mem_filter.mp hr).1
    rw [hkind]
    exact ⟨_, reads_endRow r.id id (direction.far r), rfl⟩
  obtain ⟨infos, hread, hcolumns⟩ := Request.exists_readOff_list query [.int id] hreads
  refine ⟨infos, yields_of_run (.list query [.int id] (Request.endRow id)) ?_ ?_ ?_ hread, hcolumns⟩
  · unfold Request.objectRelations
    rw [Argument.id_eq _ hpos hle]
    cases direction <;> rfl
  · simp [Request.IsPlain, Request.list]
  · have hreadable := readable_map fun r (hr : r ∈ rows) ↦
      (by simp [hkinds.isGarbled (List.mem_filter.mp hr).1] :
        ∀ value ∈ [.int r.id, .int (direction.far r), r.kind], value.isGarbled = false)
    cases direction with
    | ancestors =>
      have hrows : s.leaving (.int id) = rows.map fun r ↦
          [.int r.id, .int (Direction.ancestors.far r), r.kind] := by
        simp only [leaving, idEquals_int]
        rfl
      exact run_of_readable .getObjectAncestors [.int id] rfl rfl hrows hreadable
    | descendants =>
      have hrows : s.entering (.int id) = rows.map fun r ↦
          [.int r.id, .int (Direction.descendants.far r), r.kind] := by
        simp only [entering, idEquals_int]
        rfl
      exact run_of_readable .getObjectDescendants [.int id] rfl rfl hrows hreadable

theorem mem_membersOf {r : RelationRow} : r ∈ s.membersOf (.int bundle) ↔
    r ∈ s.relations ∧ r.id ∈ s.memberRelations bundle := by
  simp only [membersOf, memberRelations, idEquals_int, List.mem_flatMap, List.mem_map,
    List.mem_filter, beq_iff_eq]
  constructor
  · rintro ⟨row, hrow, entry, ⟨hentry, hid⟩, rfl⟩
    exact ⟨hrow, entry, hentry, hid⟩
  · rintro ⟨hr, entry, hentry, hid⟩
    exact ⟨r, hr, entry, ⟨hentry, hid⟩, rfl⟩

/-- The relations that a bundle records as its members are listed, once for each record. -/
theorem yields_bundleRelations (now : Value) (hkinds : s.KnownKinds) (hpos : 0 < bundle)
    (hle : bundle ≤ Limit.id) :
    ∃ infos, s.Yields now (Request.bundleRelations bundle) (.ok infos) s ∧
      infos.map (·.columns) = (s.membersOf (.int bundle)).map fun r ↦
        (r.id, r.source, r.destination, r.kind) := by
  have hreads : ∀ r ∈ s.membersOf (.int bundle), ∃ info,
      Request.memberRow.Reads [.int r.id, .int r.source, .int r.destination, r.kind] info ∧
        info.columns = (r.id, r.source, r.destination, r.kind) := by
    intro r hr
    obtain ⟨kind, hkind⟩ := hkinds r (mem_membersOf.mp hr).1
    rw [hkind]
    exact ⟨_, reads_memberRow r.id r.source r.destination, rfl⟩
  obtain ⟨infos, hread, hcolumns⟩ :=
    Request.exists_readOff_list .getBundleRelations [.int bundle] hreads
  have hreadable := readable_map fun r (hr : r ∈ s.membersOf (.int bundle)) ↦
    (by simp [hkinds.isGarbled (mem_membersOf.mp hr).1] :
      ∀ value ∈ [.int r.id, .int r.source, .int r.destination, r.kind], value.isGarbled = false)
  refine ⟨infos, yields_of_run (.list .getBundleRelations [.int bundle] Request.memberRow) ?_ ?_
    (run_of_readable .getBundleRelations [.int bundle] rfl rfl rfl hreadable) hread, hcolumns⟩
  · rw [Request.bundleRelations, Argument.id_eq _ hpos hle]
    rfl
  · simp [Request.IsPlain, Request.list]

end Store

end Provenance
