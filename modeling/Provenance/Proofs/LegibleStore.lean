import Provenance.Proofs.RequestYields

/-!
Stores that can be read. All rows of a legible store show times of a clock, texts and kinds, and no
relation of it records the membership of a relation. Each request that is made of such a store
within the limits has one result and leads to one store (`Store.Yields`), which is legible again.
The deletion of a bundle takes exactly the bundle and the objects that it records
(`IsLegible.without_deleteBundle`).
-/

set_option autoImplicit false
set_option relaxedAutoImplicit false

namespace Provenance

/-! ### Legible stores -/

namespace Store

variable {s s' : Store} {now : Value} {session id bundle : Nat} {r : RelationRow}
  {o o' : ObjectRow} {α : Type}

/-- All rows can be read, and the session that owns them is there. -/
structure IsLegible (session : Nat) (s : Store) : Prop where
  anchored : s.Anchored
  numbered : s.Numbered
  counted : Table.objects.Counted s
  objects : ∀ row ∈ s.objects, row.IsLegible
  relations : ∀ row ∈ s.relations, row.IsLegible
  session : s.hasSession session = true

/-- The rows that have come or gone decide whether a store stays legible. -/
theorem IsLegible.of_change (h : s.IsLegible session) {query : Query} {rows : List Row}
    (hchange : s.Change query rows s') (hobjects : ∀ row ∈ s'.objects, row.IsLegible)
    (hrelations : ∀ row ∈ s'.relations, row.IsLegible) (hsessions : s'.sessions = s.sessions) :
    s'.IsLegible session where
  anchored := hchange.anchored h.anchored
  numbered := hchange.numbered h.numbered
  counted := (hchange.follows h.anchored .objects).counted h.counted
  objects := hobjects
  relations := hrelations
  session := by
    rw [hasSession, hsessions]
    exact h.session

namespace IsLegible

variable (h : s.IsLegible session)

include h

theorem pos_and_le_last (hid : s.hasObject id = true) : 0 < id ∧ id ≤ s.lastObject := by
  obtain ⟨o, ho, rfl⟩ := hasObject_iff.mp hid
  exact ⟨h.numbered.objects o ho, h.counted.le_last (List.mem_map_of_mem ho)⟩

theorem hasObject_next : s.hasObject (s.lastObject + 1) = false := by
  rw [← Bool.not_eq_true]
  intro hnext
  have hle := (h.pos_and_le_last hnext).2
  omega

theorem eq_of_id_eq (ho : o ∈ s.objects) (ho' : o' ∈ s.objects) (hid : o.id = o'.id) : o = o' := by
  exact List.inj_on_of_nodup_map (f := ObjectRow.id) h.counted.nodup ho ho' hid

theorem holdsRelation_eq (hr : r ∈ s.relations) : r.holdsRelation = false := by
  obtain ⟨kind, hkind, hcode⟩ := h.relations r hr
  rw [RelationRow.holdsRelation, hcode]
  cases kind <;> first
    | rfl
    | exact absurd rfl hkind

theorem knownKinds : s.KnownKinds := by
  intro r hr
  obtain ⟨kind, -, hkind⟩ := h.relations r hr
  exact ⟨kind, hkind⟩

theorem hasObject_of_mem_memberObjects (hid : id ∈ s.memberObjects bundle) :
    s.hasObject id = true := by
  obtain ⟨r, hr, -, -, rfl⟩ := mem_memberObjects.mp hid
  exact h.anchored.destinations r hr (h.holdsRelation_eq hr)

theorem memberRelations_eq_nil (bundle : Nat) : s.memberRelations bundle = [] := by
  rw [memberRelations, List.map_eq_nil_iff, List.filter_eq_nil_iff]
  intro r hr
  simp [h.holdsRelation_eq hr]

theorem takes_iff : s.Takes bundle id ↔ id ∈ s.memberObjects bundle := by
  simp only [Takes, mem_memberObjects, h.memberRelations_eq_nil, List.not_mem_nil,
    not_false_eq_true, and_true]

end IsLegible

/-! ### Stores without some objects -/

/-- The objects have gone, and the relations from and to them, but nothing else. -/
structure Without (gone : Nat → Prop) (s s' : Store) : Prop where
  sessions : s'.sessions = s.sessions
  lastObject : s'.lastObject = s.lastObject
  thinned : Thinned s.objects s'.objects
  objects : ∀ o, o ∈ s'.objects ↔ o ∈ s.objects ∧ ¬ gone o.id
  relations : ∀ r, r ∈ s'.relations ↔ r ∈ s.relations ∧ ¬ gone r.source ∧ ¬ gone r.destination

/-- With a bundle the objects go that it records as its members. -/
theorem IsLegible.without_deleteBundle (h : s.IsLegible session) (ho : o ∈ s.objects)
    (hkind : o.isBundle = true) :
    s.Without (fun id ↦ id = o.id ∨ id ∈ s.memberObjects o.id)
      (s.deleteBundle (.int o.id)).2 := by
  have hremains := h.anchored.remains_deleteBundle (.int o.id)
  have hgoes : ∀ id, s.Goes o.id id ↔ id = o.id ∨ id ∈ s.memberObjects o.id := by
    intro id
    rw [Goes, h.takes_iff]
  refine ⟨hremains.sessions, hremains.lastObject, hremains.objects, ?_, ?_⟩
  · intro row
    rw [mem_objects_deleteBundle ho hkind, hgoes]
  · intro r
    rw [h.anchored.leaves_deleteBundle ho hkind r, ← hgoes, ← hgoes]
    refine and_congr_right fun hr ↦ ?_
    have hplain := h.holdsRelation_eq hr
    simp only [Hit, h.memberRelations_eq_nil, List.not_mem_nil, false_or, Touches, hplain,
      true_and, Bool.false_eq_true, false_implies, and_true, not_or]

theorem IsLegible.of_without {gone : Nat → Prop} (h : s.IsLegible session) {query : Query}
    {rows : List Row} (hchange : s.Change query rows s') (hwithout : s.Without gone s') :
    s'.IsLegible session :=
  h.of_change hchange (fun row hrow ↦ h.objects row ((hwithout.objects row).mp hrow).1)
    (fun row hrow ↦ h.relations row ((hwithout.relations row).mp hrow).1) hwithout.sessions

/-! ### Rows that come -/

/-- The store with one more object. -/
def withObject (row : ObjectRow) (s : Store) : Store :=
  { s with objects := s.objects ++ [row], lastObject := row.id }

/-- The store with one more relation. -/
def withRelation (row : RelationRow) (s : Store) : Store :=
  { s with relations := s.relations ++ [row], lastRelation := row.id }

/-- The store with one more property of an object. -/
def withProperty (row : PropertyRow) (s : Store) : Store :=
  { s with objectProperties := s.objectProperties ++ [row] }

/-- The object that is made next. -/
def nextObject (now : Value) (space name : String) (kind : ObjectKind) (session : Nat)
    (s : Store) : ObjectRow :=
  ⟨s.lastObject + 1, now, .text space, .text name, .int kind.code, .int session⟩

/-- The relation that is made next. -/
def nextRelation (source destination : Nat) (kind : RelationKind) (s : Store) : RelationRow :=
  ⟨s.lastRelation + 1, source, destination, .int kind.code⟩

theorem addObject_eq {space name : String} (kind : ObjectKind) (hnow : now.IsClock)
    (hsession : s.hasSession session = true) :
    s.addObject now (.text space) (.text name) (.int kind.code) (.int session) =
      .ok (returned (s.lastObject + 1),
        s.withObject (s.nextObject now space name kind session)) := by
  unfold addObject
  rw [hnow.isNull, hnow.inNumericColumn, refersTo_int, hsession]
  rfl

theorem addRelation_eq {source destination : Nat} {kind : RelationKind}
    (hkind : kind ≠ .bundleRelation) (hsource : s.hasObject source = true)
    (hdestination : s.hasObject destination = true) :
    s.addRelation (.int source) (.int destination) (.int kind.code) =
      .ok (returned (s.lastRelation + 1),
        s.withRelation (s.nextRelation source destination kind)) := by
  have hcode : (Value.int kind.code == .int 20) = false := by
    cases kind <;> first
      | rfl
      | exact absurd rfl hkind
  unfold addRelation
  simp only [Value.inNumericColumn, hcode, refersTo_int, hsource, hdestination, Value.rowId?_int,
    Value.isNull, Bool.false_and, Bool.not_true, Bool.and_false, Bool.false_eq_true, if_false,
    Option.getD_some]
  rfl

theorem addObjectProperty_eq {space key value : String} (hid : s.hasObject id = true) :
    s.addObjectProperty (.int id) (.text space) (.text key) (.text value) =
      .ok ([], s.withProperty ⟨id, .text space, .text key, .text value⟩) := by
  unfold addObjectProperty newProperty
  rw [refersTo_int, hid, Value.rowId?_int]
  rfl

theorem IsLegible.withObject (h : s.IsLegible session) (hnow : now.IsClock) (space name : String)
    (kind : ObjectKind) : (s.withObject (s.nextObject now space name kind session)).IsLegible
      session := by
  have hrun : s.run now .createObject
      [.text space, .text name, .int kind.code, .int session] = _ :=
    addObject_eq kind hnow h.session
  refine h.of_change (Change.of_run hrun) ?_ h.relations rfl
  refine List.forall_mem_append.mpr ⟨h.objects, List.forall_mem_singleton.mpr ?_⟩
  exact ⟨hnow, ⟨space, rfl⟩, ⟨name, rfl⟩, ⟨kind, rfl⟩, ⟨session, rfl⟩⟩

theorem IsLegible.withRelation (h : s.IsLegible session) {source destination : Nat}
    {kind : RelationKind} (hkind : kind ≠ .bundleRelation) (hsource : s.hasObject source = true)
    (hdestination : s.hasObject destination = true) :
    (s.withRelation (s.nextRelation source destination kind)).IsLegible session := by
  have hrun : s.run .null .addRelation [.int source, .int destination, .int kind.code] = _ :=
    addRelation_eq hkind hsource hdestination
  refine h.of_change (Change.of_run hrun) h.objects ?_ rfl
  refine List.forall_mem_append.mpr ⟨h.relations, List.forall_mem_singleton.mpr ?_⟩
  exact ⟨kind, hkind, rfl⟩

theorem IsLegible.withProperty (h : s.IsLegible session) {space key value : String}
    (hid : s.hasObject id = true) :
    (s.withProperty ⟨id, .text space, .text key, .text value⟩).IsLegible session := by
  have hrun : s.run .null .addObjectProperty [.int id, .text space, .text key, .text value] = _ :=
    addObjectProperty_eq hid
  exact h.of_change (Change.of_run hrun) h.objects h.relations rfl

/-! ### What requests yield -/

section Requests

variable {space name : String} {source destination : Nat}

theorem yields_createObject (hrecorded : s.hasSession session = true) (hnow : now.IsClock)
    (hsession : 0 < session ∧ session ≤ Limit.id) (kind : ObjectKind)
    (hspace : space.utf8ByteSize ≤ Limit.space) (hname : name.utf8ByteSize ≤ Limit.name) :
    s.Yields now (Request.createObject space name kind session) (.ok (s.lastObject + 1))
      (s.withObject (s.nextObject now space name kind session)) := by
  refine yields_of_run
    (.oneId .createObject [.text space, .text name, .int kind.code, .int session]) ?_ ?_
    (addObject_eq kind hnow hrecorded) (Request.readOff_oneId _ _ _)
  · rw [Request.createObject, Argument.checkName_eq hspace hname,
      Argument.id_eq _ hsession.1 hsession.2]
    rfl
  · simp [Request.IsPlain, Request.oneId]

theorem yields_createBundle (hrecorded : s.hasSession session = true) (hnow : now.IsClock)
    (hsession : 0 < session ∧ session ≤ Limit.id) (hspace : space.utf8ByteSize ≤ Limit.space)
    (hname : name.utf8ByteSize ≤ Limit.name) :
    s.Yields now (Request.createBundle name space session) (.ok (s.lastObject + 1))
      (s.withObject (s.nextObject now space name .bundle session)) := by
  refine yields_of_run (.oneId .createBundle [.text space, .text name, .int session]) ?_ ?_
    (addObject_eq .bundle hnow hrecorded) (Request.readOff_oneId _ _ _)
  · rw [Request.createBundle, Argument.checkName_eq hspace hname,
      Argument.id_eq _ hsession.1 hsession.2]
    rfl
  · simp [Request.IsPlain, Request.oneId]

/-- The last object of a name and a kind is found. -/
theorem yields_lookupObject (kind : ObjectKind) (hspace : space.utf8ByteSize ≤ Limit.space)
    (hname : name.utf8ByteSize ≤ Limit.name)
    (hlast : (s.namedOfKind (.text space) (.text name) (.int kind.code)).getLast?.map (·.id) =
      some id) :
    s.Yields now (Request.lookupObject space name (some kind)) (.ok id) s := by
  have hrows : latest (s.namedOfKind (.text space) (.text name) (.int kind.code)) =
      returned id := by
    obtain ⟨row, hrow, rfl⟩ := Option.map_eq_some_iff.mp hlast
    rw [latest, hrow]
    rfl
  refine yields_of_run (.oneId .lookupObjectByType [.text space, .text name, .int kind.code]) ?_ ?_
    (run_of_readable .lookupObjectByType [.text space, .text name, .int kind.code] rfl rfl hrows
      (readable_returned id)) (Request.readOff_oneId _ _ _)
  · rw [Request.lookupObject, Argument.checkName_eq hspace hname]
    rfl
  · simp [Request.IsPlain, Request.oneId]

theorem relationParams_eq (kind : RelationKind) (hsource : 0 < source ∧ source ≤ Limit.id)
    (hdestination : 0 < destination ∧ destination ≤ Limit.id) :
    Request.relationParams source destination kind =
      .ok [.int source, .int destination, .int kind.code] := by
  rw [Request.relationParams, Argument.id_eq _ hsource.1 hsource.2,
    Argument.id_eq _ hdestination.1 hdestination.2]
  rfl

namespace IsLegible

variable (h : s.IsLegible session) (hlimit : s.lastObject ≤ Limit.id)

include h hlimit

theorem pos_and_le_limit (hid : s.hasObject id = true) : 0 < id ∧ id ≤ Limit.id :=
  have hbounds := h.pos_and_le_last hid
  ⟨hbounds.1, Nat.le_trans hbounds.2 hlimit⟩

theorem yields_addRelation {kind : RelationKind} (hkind : kind ≠ .bundleRelation)
    (hsource : s.hasObject source = true) (hdestination : s.hasObject destination = true) :
    s.Yields now (Request.addRelation source destination kind) (.ok (s.lastRelation + 1))
      (s.withRelation (s.nextRelation source destination kind)) := by
  refine yields_of_run (.oneId .addRelation [.int source, .int destination, .int kind.code]) ?_ ?_
    (addRelation_eq hkind hsource hdestination) (Request.readOff_oneId _ _ _)
  · rw [Request.addRelation, relationParams_eq kind (h.pos_and_le_limit hlimit hsource)
      (h.pos_and_le_limit hlimit hdestination)]
    rfl
  · simp [Request.IsPlain, Request.oneId]

/-- A relation that is there is found, or another one with the same ends and kind. -/
theorem yields_lookupRelation {kind : RelationKind} (hr : r ∈ s.relations)
    (hkind : r.kind = .int kind.code) (hdestination : s.hasObject r.destination = true) :
    ∃ id, s.Yields now (Request.lookupRelation r.source r.destination kind) (.ok id) s := by
  have hfound : r ∈ s.relations.filter fun row ↦ idEquals row.source (.int r.source) &&
      idEquals row.destination (.int r.destination) && row.kind.equalsNumber (.int kind.code) := by
    refine List.mem_filter.mpr ⟨hr, ?_⟩
    simp [idEquals_int, hkind, Value.equalsNumber, Value.isNull, Value.inNumericColumn]
  obtain ⟨first, rest, hcons⟩ := List.exists_cons_of_ne_nil (List.ne_nil_of_mem hfound)
  have hrows : s.relationsBetween (.int r.source) (.int r.destination) (.int kind.code) =
      returned first.id := by
    rw [relationsBetween, hcons]
    rfl
  refine ⟨first.id, yields_of_run
    (.oneId .lookupRelation [.int r.source, .int r.destination, .int kind.code]) ?_ ?_
    (run_of_readable .lookupRelation [.int r.source, .int r.destination, .int kind.code] rfl rfl
      hrows (readable_returned first.id)) (Request.readOff_oneId _ _ _)⟩
  · rw [Request.lookupRelation, relationParams_eq kind
      (h.pos_and_le_limit hlimit (h.anchored.sources r hr))
      (h.pos_and_le_limit hlimit hdestination)]
    rfl
  · simp [Request.IsPlain, Request.oneId]

theorem yields_addObjectProperty {key value : String} (hid : s.hasObject id = true)
    (hspace : space.utf8ByteSize ≤ Limit.space) (hkey : key.utf8ByteSize ≤ Limit.key)
    (hvalue : value.utf8ByteSize ≤ Limit.value) :
    s.Yields now (Request.addObjectProperty id space key value) (.ok ())
      (s.withProperty ⟨id, .text space, .text key, .text value⟩) := by
  obtain ⟨hpos, hle⟩ := h.pos_and_le_limit hlimit hid
  refine yields_of_run
    (.command .addObjectProperty [.int id, .text space, .text key, .text value]) ?_ ?_
    (addObjectProperty_eq hid) rfl
  · rw [Request.addObjectProperty, Request.addProperty,
      Argument.checkProperty_eq hspace hkey hvalue, Argument.id_eq _ hpos hle]
    rfl
  · simp [Request.IsPlain, Request.command]

/-- The relations of the vocabulary that leave an object are listed. -/
theorem yields_objectRelations (hid : s.hasObject id = true) :
    ∃ infos, s.Yields now (Request.objectRelations id .ancestors) (.ok infos) s ∧
      ∀ r ∈ s.relations, r.source = id → isPlain r = true → r.id ∈ infos.map (·.id) := by
  obtain ⟨hpos, hle⟩ := h.pos_and_le_limit hlimit hid
  obtain ⟨infos, hyields, hcolumns⟩ :=
    Store.yields_objectRelations now h.knownKinds hpos hle .ancestors
  refine ⟨infos, hyields, fun r hr hsource hplain ↦ ?_⟩
  have hids : infos.map (·.id) = (infos.map (·.columns)).map (·.1) := by
    rw [List.map_map]
    rfl
  rw [hids, hcolumns, List.map_map]
  refine List.mem_map.mpr ⟨r, List.mem_filter.mpr ⟨hr, ?_⟩, rfl⟩
  rw [hplain, Bool.and_true, beq_iff_eq]
  exact hsource

/-- An object that is there is described as it is stored. -/
theorem yields_objectInfo {reader : Reader} {kind : ObjectKind} (ho : o ∈ s.objects)
    (hspace : o.space = .text space) (hname : o.name = .text name)
    (hkind : o.kind = .int kind.code) (hspaceFits : space.utf8ByteSize ≤ reader.limit)
    (hnameFits : name.utf8ByteSize ≤ reader.limit) :
    ∃ info, s.Yields now (Request.objectInfo reader o.id) (.ok info) s ∧
      info.space = space ∧ info.name = name ∧ info.kind = kind := by
  obtain ⟨-, hle⟩ := h.pos_and_le_limit hlimit (hasObject_iff.mpr ⟨o, ho, rfl⟩)
  have hcreated := (h.objects o ho).created
  obtain ⟨owner, howner⟩ := (h.objects o ho).session
  obtain ⟨epoch, hepoch⟩ := hcreated.exists_epoch reader
  exact ⟨_, Store.yields_objectInfo h.counted ho hle hcreated hepoch hspace hname hkind howner,
    if_pos hspaceFits, if_pos hnameFits, rfl⟩

/-- A bundle that is there is described. -/
theorem yields_bundleInfo (reader : Reader) (ho : o ∈ s.objects) (hkind : o.isBundle = true) :
    ∃ info, s.Yields now (Request.bundleInfo reader o.id) (.ok info) s := by
  obtain ⟨-, hle⟩ := h.pos_and_le_limit hlimit (hasObject_iff.mpr ⟨o, ho, rfl⟩)
  obtain ⟨hcreated, ⟨space, hspace⟩, ⟨name, hname⟩, -, ⟨owner, howner⟩⟩ := h.objects o ho
  obtain ⟨epoch, hepoch⟩ := hcreated.exists_epoch reader
  exact ⟨_, Store.yields_bundleInfo h.counted ho hkind hle hcreated hepoch hspace hname howner⟩

/-- Exactly the objects that a bundle records are listed. -/
theorem yields_bundleObjects (reader : Reader) (hid : s.hasObject bundle = true) :
    ∃ infos, s.Yields now (Request.bundleObjects reader bundle) (.ok infos) s ∧
      ∀ id, id ∈ infos.map (·.id) ↔ id ∈ s.memberObjects bundle := by
  obtain ⟨hpos, hle⟩ := h.pos_and_le_limit hlimit hid
  let rows := s.objects.filter fun row ↦ (s.memberObjects bundle).contains row.id
  have hrows : s.bundleObjects (.int bundle) = rows.map objectColumns := by
    have hmembers : s.membersOf (.int bundle) = [] := by
      rw [membersOf, List.flatMap_eq_nil_iff]
      intro row _
      rw [List.map_eq_nil_iff, List.filter_eq_nil_iff]
      intro entry hentry
      have hholds := (List.mem_filter.mp hentry).2
      rw [h.holdsRelation_eq (List.mem_filter.mp hentry).1, Bool.and_false] at hholds
      cases hholds
    simp only [bundleObjects, hmembers, List.map_nil, List.append_nil, idEquals_int]
    rfl
  obtain ⟨infos, hread, hids⟩ := Request.exists_readOff_list .getBundleObjects [.int bundle]
    fun row (hrow : row ∈ rows) ↦ (h.objects row (List.mem_filter.mp hrow).1).exists_reads reader
  have hreadable := readable_map fun row (hrow : row ∈ rows) ↦
    (h.objects row (List.mem_filter.mp hrow).1).isReadable
  refine ⟨infos, yields_of_run
    (.list .getBundleObjects [.int bundle] (Request.objectRow reader)) ?_ ?_
    (run_of_readable .getBundleObjects [.int bundle] rfl rfl hrows hreadable) hread, fun id ↦ ?_⟩
  · rw [Request.bundleObjects, Argument.id_eq _ hpos hle]
    rfl
  · simp [Request.IsPlain, Request.list]
  · rw [hids, List.mem_map]
    constructor
    · rintro ⟨row, hrow, rfl⟩
      exact List.contains_iff_mem.mp (List.mem_filter.mp hrow).2
    · intro hmember
      obtain ⟨row, hrow, rfl⟩ := hasObject_iff.mp (h.hasObject_of_mem_memberObjects hmember)
      exact ⟨row, List.mem_filter.mpr ⟨hrow, List.contains_iff_mem.mpr hmember⟩, rfl⟩

/-- A bundle that is no member of itself is deleted. -/
theorem yields_deleteBundle (ho : o ∈ s.objects) (hkind : o.isBundle = true)
    (hself : o.id ∉ s.memberObjects o.id) :
    s.Yields now (Request.deleteBundle o.id) (.ok ()) (s.deleteBundle (.int o.id)).2 := by
  obtain ⟨hpos, hle⟩ := h.pos_and_le_limit hlimit (hasObject_iff.mpr ⟨o, ho, rfl⟩)
  have hrows : (s.deleteBundle (.int o.id)).1 = returned o.id := by
    rw [rows_deleteBundle ho hkind, if_neg fun htaken ↦ hself (h.takes_iff.mp htaken)]
  obtain ⟨read, hmade⟩ := Operation.request_deleteBundle hpos hle ⟨0, ⟨0, none⟩⟩
  refine yields_of_run ⟨.deleteBundle, [.int o.id], read⟩ hmade ?_
    (congrArg Except.ok (Prod.ext hrows rfl)) (Request.readOff_deleteBundle hmade o.id)
  simp [Request.IsPlain]

end IsLegible

end Requests

end Store

end Provenance
