import Provenance.Proofs.References

/-!
What the deletion of a bundle takes with it. The members that are relations go first, and only the
relations that are left then say which objects are members: an object stays if every relation that
records its membership is a member of the bundle itself (`Deleted`). Of whatever goes, nothing that
refers to it is left, but for memberships of memberships.
-/

set_option autoImplicit false
set_option relaxedAutoImplicit false

namespace Provenance

open Relational (Statement World)

namespace Store

variable {s s' : Store} {bundle id : Nat}

theorem mem_memberObjects : id ∈ s.memberObjects bundle ↔
    ∃ r ∈ s.relations, r.source = bundle ∧ r.holdsObject = true ∧ r.destination = id := by
  simp only [memberObjects, List.mem_map, List.mem_filter, Bool.and_eq_true, beq_iff_eq, and_assoc]

/-- A relation records the membership of an object or of a relation, not of both. -/
theorem holdsRelation_of_holdsObject {r : RelationRow} (h : r.holdsObject = true) :
    r.holdsRelation = false := by
  have hkind : r.kind = .int 19 := eq_of_beq h
  rw [RelationRow.holdsRelation, hkind]
  rfl

/-- The object is a member of the bundle by a relation that is not itself a member of the bundle. -/
def Takes (s : Store) (bundle id : Nat) : Prop :=
  ∃ r ∈ s.relations, r.source = bundle ∧ r.holdsObject = true ∧ r.destination = id ∧
    r.id ∉ s.memberRelations bundle

instance (s : Store) (bundle id : Nat) : Decidable (s.Takes bundle id) :=
  inferInstanceAs (Decidable (∃ r ∈ s.relations, _))

/-- What the deletion of a bundle leaves of its members and of itself. -/
structure Deleted (bundle : Nat) (s s' : Store) : Prop where
  objects : ∀ id, s'.hasObject id = true ↔
    s.hasObject id = true ∧ id ≠ bundle ∧ ¬ s.Takes bundle id
  relations : ∀ id ∈ s.memberRelations bundle, s'.hasRelation id = false

theorem mem_memberObjects_deleteRelations :
    id ∈ (s.deleteRelations fun r ↦ (s.memberRelations bundle).contains r.id).memberObjects bundle ↔
      s.Takes bundle id := by
  rw [mem_memberObjects]
  constructor
  · rintro ⟨r, hr, hsource, hholds, hid⟩
    obtain ⟨hr', hkept, -⟩ := mem_deleteRelations.mp hr
    exact ⟨r, hr', hsource, hholds, hid, by simpa using hkept⟩
  · rintro ⟨r, hr, hsource, hholds, hid, hkept⟩
    refine ⟨r, mem_deleteRelations.mpr ⟨hr, by simpa using hkept, fun h ↦ ?_⟩, hsource, hholds, hid⟩
    rw [holdsRelation_of_holdsObject hholds] at h
    cases h

theorem hasObject_deleteMembers : (s.deleteMembers bundle).hasObject id = true ↔
    s.hasObject id = true ∧ ¬ s.Takes bundle id := by
  rw [← mem_memberObjects_deleteRelations, deleteMembers, hasObject_deleteObjects, hasObject_iff]
  constructor
  · rintro ⟨o, ho, hkept, rfl⟩
    exact ⟨⟨o, ho, rfl⟩, by simpa using hkept⟩
  · rintro ⟨⟨o, ho, rfl⟩, hkept⟩
    exact ⟨o, ho, by simpa using hkept, rfl⟩

theorem hasRelation_deleteMembers (h : id ∈ s.memberRelations bundle) :
    (s.deleteMembers bundle).hasRelation id = false := by
  refine hasRelation_of_subset (sheds_deleteObjects _).relations ?_
  refine Bool.eq_false_iff.mpr fun hleft ↦ ?_
  obtain ⟨r, hr, rfl⟩ := hasRelation_iff.mp hleft
  have hkept := (mem_deleteRelations.mp hr).2.1
  rw [List.contains_iff_mem.mpr h] at hkept
  cases hkept

/-- The query that deletes a bundle finds it by its id. -/
theorem exists_find_bundle {b : ObjectRow} (hb : b ∈ s.objects) (hkind : b.isBundle = true) :
    ∃ found, s.objects.find? (fun o ↦ (Value.int b.id).rowId? == some o.id && o.isBundle) =
      some found ∧ found.id = b.id := by
  have hrowId := Value.rowId?_int b.id
  have hsome :
      (s.objects.find? fun o ↦ (Value.int b.id).rowId? == some o.id && o.isBundle).isSome := by
    rw [List.find?_isSome]
    exact ⟨b, hb, by simp [hrowId, hkind]⟩
  obtain ⟨found, hfound⟩ := Option.isSome_iff_exists.mp hsome
  have htest := List.find?_some hfound
  rw [hrowId, Bool.and_eq_true, beq_iff_eq] at htest
  exact ⟨found, hfound, (Option.some.inj htest.1).symm⟩

theorem deleteBundle_of_mem {b : ObjectRow} (hb : b ∈ s.objects) (hkind : b.isBundle = true) :
    (s.deleteBundle (.int b.id)).2 =
      if (s.deleteMembers b.id).hasObject b.id then
        (s.deleteMembers b.id).deleteObjects fun o ↦ o.id == b.id
      else s.deleteMembers b.id := by
  obtain ⟨found, hfound, hid⟩ := exists_find_bundle hb hkind
  simp only [deleteBundle, hfound, hid]
  split <;> rfl

/-- A bundle is given out as deleted unless it takes itself. -/
theorem rows_deleteBundle {b : ObjectRow} (hb : b ∈ s.objects) (hkind : b.isBundle = true) :
    (s.deleteBundle (.int b.id)).1 = if s.Takes b.id b.id then [] else returned b.id := by
  obtain ⟨found, hfound, hid⟩ := exists_find_bundle hb hkind
  have hleft : (s.deleteMembers b.id).hasObject b.id = true ↔ ¬ s.Takes b.id b.id := by
    rw [hasObject_deleteMembers]
    exact and_iff_right (hasObject_iff.mpr ⟨b, hb, rfl⟩)
  simp only [deleteBundle, hfound, hid]
  by_cases hself : s.Takes b.id b.id
  · rw [if_pos hself, if_neg fun h ↦ hleft.mp h hself]
  · rw [if_neg hself, if_pos (hleft.mpr hself)]

theorem deleted_deleteBundle {b : ObjectRow} (hb : b ∈ s.objects) (hkind : b.isBundle = true) :
    Deleted b.id s (s.deleteBundle (.int b.id)).2 := by
  rw [deleteBundle_of_mem hb hkind]
  cases hself : (s.deleteMembers b.id).hasObject b.id with
  | true =>
    simp only [if_true]
    constructor
    · intro id
      rw [hasObject_deleteObjects]
      constructor
      · rintro ⟨o, ho, hother, rfl⟩
        obtain ⟨hobject, hkept⟩ := hasObject_deleteMembers.mp (hasObject_iff.mpr ⟨o, ho, rfl⟩)
        exact ⟨hobject, by simpa using hother, hkept⟩
      · rintro ⟨hobject, hother, hkept⟩
        obtain ⟨o, ho, rfl⟩ := hasObject_iff.mp (hasObject_deleteMembers.mpr ⟨hobject, hkept⟩)
        exact ⟨o, ho, by simpa using hother, rfl⟩
    · intro id hid
      exact hasRelation_of_subset (sheds_deleteObjects _).relations (hasRelation_deleteMembers hid)
  | false =>
    refine ⟨fun id ↦ ?_, fun id hid ↦ hasRelation_deleteMembers hid⟩
    simp only [Bool.false_eq_true, if_false]
    rw [hasObject_deleteMembers]
    -- The bundle was its own member, so it has gone with the members.
    have htaken : s.Takes b.id b.id := by
      by_cases htaken : s.Takes b.id b.id
      · exact htaken
      · rw [hasObject_deleteMembers.mpr ⟨hasObject_iff.mpr ⟨b, hb, rfl⟩, htaken⟩] at hself
        cases hself
    exact and_congr_right fun _ ↦
      ⟨fun hkept ↦ ⟨fun hid ↦ hkept (hid ▸ htaken), hkept⟩, fun h ↦ h.2⟩

end Store

/-! ### The operation -/

theorem Operation.request_deleteBundle {id : Nat} (hpos : 0 < id) (hid : id ≤ Limit.id)
    (reader : Reader) :
    ∃ read, (Operation.deleteBundle id).form.request reader =
      .ok ⟨.deleteBundle, [.int id], read⟩ := by
  change ∃ read, Request.deleteBundle id = .ok ⟨.deleteBundle, [.int id], read⟩
  rw [Request.deleteBundle, Argument.id_eq _ hpos hid]
  exact ⟨_, rfl⟩

namespace FileSite

variable {site : FileSite} {s : Store} {backend : FileBackend}

/-- Whatever bundle is deleted from whatever file, with nothing planned to fail: it is gone, as is
every relation that it had as a member and every object that it had as a member by a relation that
is not one of those. Nothing refers to a row that is gone, but for memberships of relations. The
other objects stay, members or not. -/
theorem deletion_of_bundle (hreach : site.Reachable (.opened backend))
    (hopens : backend.connection.isConnected = true ∨ backend.options.maxRetries ≠ 0)
    (hkeeps : site.Keeps backend.connection.world.world s) {bundle : ObjectRow}
    (hbundle : bundle ∈ s.objects) (hkind : bundle.isBundle = true) (hid : bundle.id ≤ Limit.id)
    {C : Type} (callback : Listed → Action C Unit) (c : C) :
    ∃ s', site.Keeps (((Operation.deleteBundle bundle.id).run site.driver
        (Operation.passive callback)).run
          (c, backend.mapWorld (Faulty.replan fun _ ↦ []))).2.2.connection.world.world s' ∧
      s'.Anchored ∧ Store.Deleted bundle.id s s' := by
  obtain ⟨t, ht, hsettled⟩ := hreach.exists_store
  obtain rfl : t = s := hsettled.keeps.unique hkeeps
  obtain ⟨hanchored, hnumbered⟩ := ht.anchored_numbered
  have hquiet : (backend.mapWorld (Faulty.replan fun _ ↦ [])).connection.Settled site t :=
    (steady_replan fun _ ↦ []).settled hsettled
  obtain ⟨read, hrequest⟩ := Operation.request_deleteBundle (hnumbered.objects bundle hbundle) hid
    (backend.mapWorld (Faulty.replan fun _ ↦ [])).reader
  obtain ⟨c', hperform, hserved⟩ := Connection.perform_of_nothing_planned hquiet hopens
    ⟨.deleteBundle, [.int bundle.id], read⟩ 0 fun _ ↦ rfl
  rw [Operation.run_passive_of_perform hrequest hperform]
  obtain ⟨live, hopen⟩ := hserved.isOpen
  exact ⟨_, hopen.keeps, hanchored.deleteBundle _, Store.deleted_deleteBundle hbundle hkind⟩

/-- The first of the nested bundles has its object as a member, and leaves it behind. -/
theorem member_left_by_deletion :
    named.Reachable (.opened (named.afterAll nested first)) ∧
      ∃ s s', named.Keeps (named.afterAll nested first).connection.world.world s ∧
        ⟨1, 1, 3, .int 19⟩ ∈ s.relations ∧
        named.Keeps
          (named.afterAll (nested ++ [.deleteBundle 1]) first).connection.world.world s' ∧
        s'.hasObject 3 = true :=
  ⟨reachable_first.afterAll _, _, _, ⟨⟨rfl, by decide⟩, rfl⟩, by decide +kernel,
    ⟨⟨rfl, by decide⟩, rfl⟩, rfl⟩

/-- The deletion takes the first of the nested bundles and the relation that it had as a member. The
object stays because that relation was the one that recorded its membership. -/
theorem nested_deletion :
    ∃ s s', named.Keeps (named.afterAll nested first).connection.world.world s ∧
      s'.Anchored ∧ Store.Deleted 1 s s' ∧ s'.hasObject 3 = true := by
  have hdeletion := deletion_of_bundle (reachable_first.afterAll nested) (.inl rfl)
    ⟨⟨rfl, by decide⟩, rfl⟩
    (show ⟨1, .text "2026-01-01 00:00:00", .text "", .text "first", .int 4, .int 1⟩ ∈ _ by
      decide +kernel)
    rfl (by decide) Operation.ignore ()
  obtain ⟨s', -, hanchored, hdeleted⟩ := hdeletion
  exact ⟨_, s', ⟨⟨rfl, by decide⟩, rfl⟩, hanchored, hdeleted,
    (hdeleted.objects 3).mpr ⟨rfl, by decide, by decide +kernel⟩⟩

end FileSite

end Provenance
