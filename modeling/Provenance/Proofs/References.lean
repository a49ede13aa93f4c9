import Provenance.Proofs.Reachable
import Provenance.Proofs.StoreChanges

/-!
References between the rows of a store. In every store that requests lead to, whatever a row refers
to is there (`Anchored`), but for one kind of reference: a relation that records the membership of
another one may be left without it (`Orphan`). A request orphans it when that other relation records
a membership itself and goes, and only then (`Change.orphan_iff`); over a whole history, an orphan
is what a membership that is gone has left behind (`references_of_leads`).
-/

set_option autoImplicit false
set_option relaxedAutoImplicit false

namespace Provenance

open Relational (Statement World)

namespace Store

variable {s s' s'' : Store} {r : RelationRow} {id : Nat}

theorem hasObject_iff : s.hasObject id = true ↔ ∃ o ∈ s.objects, o.id = id := by
  simp only [hasObject, List.any_eq_true, beq_iff_eq]

theorem hasRelation_iff : s.hasRelation id = true ↔ ∃ r ∈ s.relations, r.id = id := by
  simp only [hasRelation, List.any_eq_true, beq_iff_eq]

theorem hasRelation_of_subset (h : s'.relations ⊆ s.relations) (hid : s.hasRelation id = false) :
    s'.hasRelation id = false := by
  rw [← Bool.not_eq_true, hasRelation_iff] at hid ⊢
  rintro ⟨r, hr, rfl⟩
  exact hid ⟨r, h hr, rfl⟩

/-! ### What deleting leaves -/

/-- A relation stays if it is not deleted itself and, if it records a membership, no deletion of
the member takes it along. -/
theorem mem_deleteRelations {doomed : RelationRow → Bool} :
    r ∈ (s.deleteRelations doomed).relations ↔ r ∈ s.relations ∧ doomed r = false ∧
      (r.holdsRelation = true → ∀ y ∈ s.relations, y.id = r.destination → doomed y = true →
        y.holdsRelation = true) := by
  have hnamed : ((s.relations.filter fun y ↦ doomed y && !y.holdsRelation).map (·.id)).contains
      r.destination = true ↔
        ∃ y ∈ s.relations, (doomed y = true ∧ y.holdsRelation = false) ∧ y.id = r.destination := by
    simp only [List.contains_iff_mem, List.mem_map, List.mem_filter, Bool.and_eq_true,
      Bool.not_eq_true', and_assoc]
  simp only [deleteRelations, List.mem_filter, Bool.and_eq_true, Bool.not_eq_true',
    Bool.and_eq_false_iff]
  refine and_congr_right fun _ ↦ and_congr_right fun _ ↦ ⟨fun h ↦ ?_, fun h ↦ ?_⟩
  · intro hholds y hy hid hdoomed
    rcases h with h | h
    · rw [hholds] at h
      cases h
    · cases hy' : y.holdsRelation with
      | true => rfl
      | false =>
        rw [hnamed.mpr ⟨y, hy, ⟨hdoomed, hy'⟩, hid⟩] at h
        cases h
  · cases hholds : r.holdsRelation with
    | false => exact .inl rfl
    | true =>
      refine .inr (Bool.eq_false_iff.mpr fun hcontains ↦ ?_)
      obtain ⟨y, hy, ⟨hdoomed, hy'⟩, hid⟩ := hnamed.mp hcontains
      rw [h hholds y hy hid hdoomed] at hy'
      cases hy'

theorem hasObject_deleteObjects {doomed : ObjectRow → Bool} :
    (s.deleteObjects doomed).hasObject id = true ↔
      ∃ o ∈ s.objects, doomed o = false ∧ o.id = id := by
  rw [hasObject_iff]
  simp only [deleteObjects, deleteRelations, List.mem_filter, Bool.not_eq_true', and_assoc]

/-- An object that is referred to stays unless one with its id is deleted. -/
theorem hasObject_deleteObjects_of_kept {doomed : ObjectRow → Bool} (h : s.hasObject id = true)
    (hkept : id ∉ (s.objects.filter doomed).map (·.id)) :
    (s.deleteObjects doomed).hasObject id = true := by
  obtain ⟨o, ho, rfl⟩ := hasObject_iff.mp h
  refine hasObject_deleteObjects.mpr ⟨o, ho, Bool.eq_false_iff.mpr fun hdoomed ↦ hkept ?_, rfl⟩
  exact List.mem_map.mpr ⟨o, List.mem_filter.mpr ⟨ho, hdoomed⟩, rfl⟩

/-- A relation that stays has no end at a deleted object. -/
theorem ends_of_mem_deleteObjects {doomed : ObjectRow → Bool}
    (h : r ∈ (s.deleteObjects doomed).relations) :
    r ∈ s.relations ∧ r.source ∉ (s.objects.filter doomed).map (·.id) ∧
      (r.holdsRelation = false → r.destination ∉ (s.objects.filter doomed).map (·.id)) := by
  obtain ⟨hr, hkept, -⟩ := mem_deleteRelations.mp h
  rw [Bool.or_eq_false_iff, Bool.and_eq_false_iff, ← Bool.not_eq_true,
    List.contains_iff_mem] at hkept
  refine ⟨hr, hkept.1, fun hplain hlost ↦ ?_⟩
  rw [List.contains_iff_mem.mpr hlost, hplain] at hkept
  rcases hkept.2 with h | h <;> cases h

/-! ### References to rows that are there -/

/-- Every reference leads to a row, with the possible exception of those from a membership of a
relation to its member. -/
structure Anchored (s : Store) : Prop where
  sessions : ∀ o ∈ s.objects,
    o.session = .null ∨ ∃ id : Nat, o.session = .int id ∧ s.hasSession id = true
  sources : ∀ r ∈ s.relations, s.hasObject r.source = true
  destinations : ∀ r ∈ s.relations, r.holdsRelation = false → s.hasObject r.destination = true
  objectProperties : ∀ p ∈ s.objectProperties, s.hasObject p.owner = true
  relationProperties : ∀ p ∈ s.relationProperties, s.hasRelation p.owner = true
  bundleProperties : ∀ p ∈ s.bundleProperties, s.hasObject p.owner = true
  prefixes : ∀ p ∈ s.prefixes, s.hasObject p.bundle = true

/-- The relation records the membership of a relation that is not there. -/
structure Orphan (s : Store) (r : RelationRow) : Prop where
  membership : r.holdsRelation = true
  missing : s.hasRelation r.destination = false

theorem anchored_empty : Anchored empty := by
  constructor <;> intro _ h <;> cases h

theorem Anchored.deleteRelations (h : s.Anchored) (doomed : RelationRow → Bool) :
    (s.deleteRelations doomed).Anchored where
  sessions := h.sessions
  sources := fun r hr ↦ h.sources r (mem_deleteRelations.mp hr).1
  destinations := fun r hr hplain ↦ h.destinations r (mem_deleteRelations.mp hr).1 hplain
  objectProperties := h.objectProperties
  relationProperties := fun _ hp ↦ (List.mem_filter.mp hp).2
  bundleProperties := h.bundleProperties
  prefixes := h.prefixes

theorem Anchored.deleteObjects (h : s.Anchored) (doomed : ObjectRow → Bool) :
    (s.deleteObjects doomed).Anchored where
  sessions := fun o ho ↦ h.sessions o (List.mem_filter.mp ho).1
  sources := fun r hr ↦
    have ⟨hr', hsource, _⟩ := ends_of_mem_deleteObjects hr
    hasObject_deleteObjects_of_kept (h.sources r hr') hsource
  destinations := fun r hr hplain ↦
    have ⟨hr', _, hdestination⟩ := ends_of_mem_deleteObjects hr
    hasObject_deleteObjects_of_kept (h.destinations r hr' hplain) (hdestination hplain)
  objectProperties := fun _ hp ↦ (List.mem_filter.mp hp).2
  relationProperties := fun _ hp ↦ (List.mem_filter.mp hp).2
  bundleProperties := fun _ hp ↦ (List.mem_filter.mp hp).2
  prefixes := fun _ hp ↦ (List.mem_filter.mp hp).2

theorem Anchored.deleteMembers (h : s.Anchored) (bundle : Nat) :
    (s.deleteMembers bundle).Anchored :=
  (h.deleteRelations _).deleteObjects _

theorem Anchored.deleteBundle (h : s.Anchored) (id : Value) : (s.deleteBundle id).2.Anchored := by
  unfold Store.deleteBundle
  split
  · exact h
  · rename_i bundle hbundle
    dsimp only
    split
    · exact (h.deleteMembers _).deleteObjects _
    · exact h.deleteMembers _

/-- A row that has been added is there, and so are those that were there before. -/
theorem hasObject_append (o : ObjectRow) (h : s.hasObject id = true) (last : Nat) :
    Store.hasObject { s with objects := s.objects ++ [o], lastObject := last } id = true := by
  rw [hasObject, List.any_append]
  exact Bool.or_eq_true_iff.mpr (.inl h)

theorem hasRelation_append (last : Nat) :
    Store.hasRelation { s with relations := s.relations ++ [r], lastRelation := last } id =
      (s.hasRelation id || r.id == id) := by
  rw [hasRelation, List.any_append, List.any_cons, List.any_nil, Bool.or_false, hasRelation]

/-- Whatever has been asked of a store, its references still lead to rows. -/
theorem Change.anchored {query : Query} {rows : List Row} (h : s.Change query rows s')
    (hs : s.Anchored) : s'.Anchored := by
  cases h with
  | session row hid =>
    refine { hs with sessions := fun o ho ↦ (hs.sessions o ho).imp_right ?_ }
    rintro ⟨id, hsession, hexists⟩
    refine ⟨id, hsession, ?_⟩
    rw [hasSession, List.any_append]
    exact Bool.or_eq_true_iff.mpr (.inl hexists)
  | object query row hid hquery hsession =>
    exact {
      sessions := List.forall_mem_append.mpr ⟨hs.sessions, List.forall_mem_singleton.mpr hsession⟩
      sources := fun r hr ↦ hasObject_append row (hs.sources r hr) _
      destinations := fun r hr hplain ↦ hasObject_append row (hs.destinations r hr hplain) _
      objectProperties := fun p hp ↦ hasObject_append row (hs.objectProperties p hp) _
      relationProperties := hs.relationProperties
      bundleProperties := fun p hp ↦ hasObject_append row (hs.bundleProperties p hp) _
      prefixes := fun p hp ↦ hasObject_append row (hs.prefixes p hp) _ }
  | relation row hid hsource hdestination =>
    refine { hs with
      sources := List.forall_mem_append.mpr ⟨hs.sources, List.forall_mem_singleton.mpr hsource⟩
      destinations := List.forall_mem_append.mpr
        ⟨hs.destinations, List.forall_mem_singleton.mpr fun hplain ↦ ?_⟩
      relationProperties := fun p hp ↦ ?_ }
    · rwa [hplain] at hdestination
    · rw [hasRelation_append, hs.relationProperties p hp, Bool.true_or]
  | objectProperty row howner =>
    exact { hs with
      objectProperties := List.forall_mem_append.mpr
        ⟨hs.objectProperties, List.forall_mem_singleton.mpr howner⟩ }
  | relationProperty row howner =>
    exact { hs with
      relationProperties := List.forall_mem_append.mpr
        ⟨hs.relationProperties, List.forall_mem_singleton.mpr howner⟩ }
  | bundleProperty row howner =>
    exact { hs with
      bundleProperties := List.forall_mem_append.mpr
        ⟨hs.bundleProperties, List.forall_mem_singleton.mpr howner⟩ }
  | abbreviation row howner =>
    exact { hs with
      prefixes := List.forall_mem_append.mpr
        ⟨hs.prefixes, List.forall_mem_singleton.mpr howner⟩ }
  | deletion id => exact hs.deleteBundle id
  | nothing query rows hreads => exact hs

/-! ### Memberships without their member -/

/-- The relations of a store after some have gone. A membership that lost its member then was the
membership of a membership. -/
structure Sheds (s s' : Store) : Prop where
  relations : s'.relations ⊆ s.relations
  last : s'.lastRelation = s.lastRelation
  orphans : ∀ r ∈ s'.relations, s'.Orphan r →
    s.Orphan r ∨ ∃ y ∈ s.relations, y.id = r.destination ∧ y.holdsRelation = true

theorem Sheds.of_relations_eq (h : s'.relations = s.relations)
    (hlast : s'.lastRelation = s.lastRelation) : s.Sheds s' := by
  refine ⟨h ▸ fun _ hr ↦ hr, hlast, fun r _ ⟨hholds, hmissing⟩ ↦ .inl ⟨hholds, ?_⟩⟩
  rwa [hasRelation, ← h]

theorem Sheds.trans (h : s.Sheds s') (h' : s'.Sheds s'') : s.Sheds s'' := by
  refine ⟨fun _ hr ↦ h.relations (h'.relations hr), h'.last.trans h.last, fun r hr horphan ↦ ?_⟩
  rcases h'.orphans r hr horphan with hbefore | ⟨y, hy, hid, hholds⟩
  · exact h.orphans r (h'.relations hr) hbefore
  · exact .inr ⟨y, h.relations hy, hid, hholds⟩

theorem sheds_deleteRelations (doomed : RelationRow → Bool) :
    s.Sheds (s.deleteRelations doomed) := by
  refine ⟨fun r hr ↦ (mem_deleteRelations.mp hr).1, rfl, fun r hr ⟨hholds, hmissing⟩ ↦ ?_⟩
  cases hbefore : s.hasRelation r.destination with
  | false => exact .inl ⟨hholds, hbefore⟩
  | true =>
    -- The member has gone, as one to delete or as the membership of one.
    obtain ⟨y, hy, hid⟩ := hasRelation_iff.mp hbefore
    refine .inr ⟨y, hy, hid, ?_⟩
    have hgone : y ∉ (s.deleteRelations doomed).relations := by
      intro hleft
      rw [hasRelation_iff.mpr ⟨y, hleft, hid⟩] at hmissing
      cases hmissing
    cases hdoomed : doomed y with
    | true => exact (mem_deleteRelations.mp hr).2.2 hholds y hy hid hdoomed
    | false =>
      cases hy' : y.holdsRelation with
      | true => rfl
      | false =>
        refine absurd (mem_deleteRelations.mpr ⟨hy, hdoomed, fun h ↦ ?_⟩) hgone
        rw [hy'] at h
        cases h

theorem sheds_deleteObjects (doomed : ObjectRow → Bool) : s.Sheds (s.deleteObjects doomed) := by
  unfold deleteObjects
  refine Sheds.trans ?_ (sheds_deleteRelations _)
  exact .of_relations_eq rfl rfl

theorem sheds_deleteMembers (bundle : Nat) : s.Sheds (s.deleteMembers bundle) :=
  (sheds_deleteRelations _).trans (sheds_deleteObjects _)

theorem sheds_deleteBundle (id : Value) : s.Sheds (s.deleteBundle id).2 := by
  unfold deleteBundle
  split
  · exact .of_relations_eq rfl rfl
  · rename_i bundle hbundle
    dsimp only
    split
    · exact (sheds_deleteMembers _).trans (sheds_deleteObjects _)
    · exact sheds_deleteMembers _

/-- Ids are handed out in order and start at one. -/
structure Numbered (s : Store) : Prop where
  objects : ∀ o ∈ s.objects, 0 < o.id
  relations : ∀ r ∈ s.relations, r.id ≤ s.lastRelation
  memberships : ∀ r ∈ s.relations, r.holdsRelation = true → r.destination ≤ s.lastRelation

theorem numbered_empty : Numbered empty := by
  constructor <;> intro _ h <;> cases h

theorem objects_deleteBundle (id : Value) : (s.deleteBundle id).2.objects ⊆ s.objects := by
  have hmembers : ∀ bundle, (s.deleteMembers bundle).objects ⊆ s.objects :=
    fun _ _ ho ↦ (List.mem_filter.mp ho).1
  unfold deleteBundle
  split
  · exact fun _ ho ↦ ho
  · rename_i bundle hbundle
    dsimp only
    split
    · exact fun _ ho ↦ hmembers _ (List.mem_filter.mp ho).1
    · exact hmembers _

theorem Change.numbered {query : Query} {rows : List Row} (h : s.Change query rows s')
    (hs : s.Numbered) : s'.Numbered := by
  cases h with
  | object query row hid hquery hsession =>
    refine { hs with
      objects := List.forall_mem_append.mpr ⟨hs.objects, List.forall_mem_singleton.mpr ?_⟩ }
    rw [hid]
    exact Nat.succ_pos _
  | relation row hid hsource hdestination =>
    have hnext : s.lastRelation ≤ row.id := hid ▸ Nat.le_succ _
    refine { hs with
      relations := List.forall_mem_append.mpr
        ⟨fun r hr ↦ Nat.le_trans (hs.relations r hr) hnext,
          List.forall_mem_singleton.mpr (Nat.le_refl _)⟩
      memberships := List.forall_mem_append.mpr
        ⟨fun r hr hholds ↦ Nat.le_trans (hs.memberships r hr hholds) hnext,
          List.forall_mem_singleton.mpr fun hholds ↦ ?_⟩ }
    rw [hholds, if_pos rfl] at hdestination
    obtain ⟨y, hy, hid'⟩ := hasRelation_iff.mp hdestination
    exact hid' ▸ Nat.le_trans (hs.relations y hy) hnext
  | deletion id =>
    have hsheds := sheds_deleteBundle (s := s) id
    exact ⟨fun o ho ↦ hs.objects o (objects_deleteBundle id ho),
      fun r hr ↦ hsheds.last ▸ hs.relations r (hsheds.relations hr),
      fun r hr hholds ↦ hsheds.last ▸ hs.memberships r (hsheds.relations hr) hholds⟩
  | _ => exact ⟨hs.objects, hs.relations, hs.memberships⟩

/-- What a row's being an orphan after a change comes from: it was one before, or it has lost a
member that records a membership itself. -/
def OrphanSince (s s' : Store) (r : RelationRow) : Prop :=
  r ∈ s.relations ∧ s.Orphan r ∨ r.holdsRelation = true ∧
    ∃ y ∈ s.relations, y.id = r.destination ∧ y.holdsRelation = true ∧
      s'.hasRelation y.id = false

theorem Sheds.orphan_iff (h : s.Sheds s') (hr : r ∈ s'.relations) :
    s'.Orphan r ↔ s.OrphanSince s' r := by
  constructor
  · intro horphan
    exact (h.orphans r hr horphan).imp (fun hbefore ↦ ⟨h.relations hr, hbefore⟩)
      fun ⟨y, hy, hid, hholds⟩ ↦ ⟨horphan.membership, y, hy, hid, hholds, hid ▸ horphan.missing⟩
  · rintro (⟨-, hholds, hmissing⟩ | ⟨hholds, y, -, hid, -, hgone⟩)
    · exact ⟨hholds, hasRelation_of_subset h.relations hmissing⟩
    · exact ⟨hholds, hid ▸ hgone⟩

theorem orphan_iff_of_relations_eq (h : s'.relations = s.relations)
    (hlast : s'.lastRelation = s.lastRelation) (hr : r ∈ s'.relations) :
    s'.Orphan r ↔ s.OrphanSince s' r := (Sheds.of_relations_eq h hlast).orphan_iff hr

/-- A relation that is added has its destination, and is the destination of no other yet. -/
theorem Numbered.orphan_iff_of_added (hs : s.Numbered) {row : RelationRow}
    (hid : row.id = s.lastRelation + 1)
    (hdestination : row.holdsRelation = true → s.hasRelation row.destination = true)
    {last : Nat} (hr : r ∈ s.relations ++ [row]) :
    Orphan { s with relations := s.relations ++ [row], lastRelation := last } r ↔
      r ∈ s.relations ∧ s.Orphan r := by
  constructor
  · rintro ⟨hholds, hmissing⟩
    rw [hasRelation_append, Bool.or_eq_false_iff] at hmissing
    refine ⟨?_, hholds, hmissing.1⟩
    rcases List.mem_append.mp hr with hold | hnew
    · exact hold
    · rw [List.mem_singleton.mp hnew] at hholds hmissing
      rw [hdestination hholds] at hmissing
      cases hmissing.1
  · rintro ⟨hold, hholds, hmissing⟩
    refine ⟨hholds, ?_⟩
    have hnew : row.id ≠ r.destination := by
      have hbound := hs.memberships r hold hholds
      omega
    rw [hasRelation_append, hmissing, beq_false_of_ne hnew, Bool.or_false]

/-- Whatever is asked of a store, only the loss of a membership orphans memberships. -/
theorem Change.orphan_iff {query : Query} {rows : List Row} (h : s.Change query rows s')
    (hs : s.Numbered) (hr : r ∈ s'.relations) : s'.Orphan r ↔ s.OrphanSince s' r := by
  cases h with
  | relation row hid hsource hdestination =>
    have hmember : row.holdsRelation = true → s.hasRelation row.destination = true := by
      intro hholds
      rwa [hholds, if_pos rfl] at hdestination
    rw [hs.orphan_iff_of_added hid hmember hr]
    refine ⟨.inl, ?_⟩
    rintro (hbefore | ⟨-, y, hy, -, -, hgone⟩)
    · exact hbefore
    · rw [hasRelation_append, hasRelation_iff.mpr ⟨y, hy, rfl⟩] at hgone
      cases hgone
  | deletion id => exact (sheds_deleteBundle id).orphan_iff hr
  | _ => exact orphan_iff_of_relations_eq rfl rfl hr

theorem Step.exists_change (h : s.Step s') : ∃ query rows, s.Change query rows s' := by
  cases h with
  | request now op reader request hrequest hrun => exact ⟨_, _, Change.of_run hrun⟩

theorem Reachable.anchored_numbered (h : s.Reachable) : s.Anchored ∧ s.Numbered := by
  induction h with
  | empty => exact ⟨anchored_empty, numbered_empty⟩
  | step h hstep ih =>
    obtain ⟨query, rows, hchange⟩ := hstep.exists_change
    exact ⟨hchange.anchored ih.1, hchange.numbered ih.2⟩

end Store

/-! ### Every history of a file -/

namespace FileSite

variable {site : FileSite} {s s' : Store}

/-- Some time on the way from one state to another the store at the site had a relation of this id
that recorded the membership of a relation. -/
def HeldMembership (site : FileSite) (start state : State) (id : Nat) : Prop :=
  ∃ between t, site.Leads start between ∧ site.Leads between state ∧ between.Keeps site t ∧
    ∃ y ∈ t.relations, y.id = id ∧ y.holdsRelation = true

theorem HeldMembership.step {start state state' : State} {id : Nat}
    (h : site.HeldMembership start state id) (hstep : site.Step state state') :
    site.HeldMembership start state' id := by
  obtain ⟨between, t, hbefore, hafter, hkeeps, hheld⟩ := h
  exact ⟨between, t, hbefore, hafter.step hstep, hkeeps, hheld⟩

/-- A membership that has no member once had a membership as its member. -/
theorem Leads.heldMembership_of_orphan {w : Faulty World} (hfresh : site.Fresh w) {state : State}
    (h : site.Leads (.closed w) state) :
    ∃ s, s.Reachable ∧ state.Keeps site s ∧
      ∀ r ∈ s.relations, s.Orphan r → site.HeldMembership (.closed w) state r.destination := by
  induction h with
  | refl =>
    refine ⟨.empty, .empty, hfresh.keeps, fun r hr ↦ ?_⟩
    cases hr
  | @step state state' h hstep ih =>
    obtain ⟨s, hs, hkeeps, hheld⟩ := ih
    obtain ⟨s', hkeeps', rfl | hled⟩ := hstep.keeps hkeeps
    · exact ⟨s', hs, hkeeps', fun r hr horphan ↦ (hheld r hr horphan).step hstep⟩
    · refine ⟨s', hs.step hled, hkeeps', fun r hr horphan ↦ ?_⟩
      obtain ⟨query, rows, hchange⟩ := hled.exists_change
      rcases (hchange.orphan_iff hs.anchored_numbered.2 hr).mp horphan with
        ⟨hold, hbefore⟩ | ⟨-, y, hy, hid, hholds, -⟩
      · exact (hheld r hold hbefore).step hstep
      · exact ⟨state, s, h, .step .refl hstep, hkeeps, y, hy, hid, hholds⟩

/-- Whatever has happened to a fresh file, under any failures: the references of its rows lead to
rows, but for the memberships of relations. Such a membership is without its member exactly if the
member was a membership itself and is gone. -/
theorem references_of_leads {w : Faulty World} (hfresh : site.Fresh w) {state : State}
    (hleads : site.Leads (.closed w) state) :
    ∃ s, state.Keeps site s ∧ s.Anchored ∧ ∀ r ∈ s.relations, s.Orphan r ↔
      r.holdsRelation = true ∧ site.HeldMembership (.closed w) state r.destination ∧
        s.hasRelation r.destination = false := by
  obtain ⟨s, hs, hkeeps, hheld⟩ := hleads.heldMembership_of_orphan hfresh
  refine ⟨s, hkeeps, hs.anchored_numbered.1, fun r hr ↦ ⟨fun horphan ↦ ?_, ?_⟩⟩
  · exact ⟨horphan.membership, hheld r hr horphan, horphan.missing⟩
  · rintro ⟨hholds, -, hmissing⟩
    exact ⟨hholds, hmissing⟩

/-- A bundle has as members an object and the relation that records it. A second bundle has as its
member the relation that records the membership of that relation. -/
def nested : List Operation :=
  [.createSession ⟨"00:00:00:00:00:00", "user", 1, "program", "program --flag"⟩,
    .createBundle "first" "" 1, .createBundle "second" "" 1, .createObject "" "member" .entity 1,
    .addRelation 1 3 .inBundle, .addRelation 1 1 .bundleRelation, .addRelation 2 2 .bundleRelation]

/-- With the first bundle the membership goes that the second one has as a member. -/
theorem membership_orphaned_by_deletion :
    named.Reachable (.opened (named.afterAll (nested ++ [.deleteBundle 1]) first)) ∧
      ∃ s, named.Keeps
          (named.afterAll (nested ++ [.deleteBundle 1]) first).connection.world.world s ∧
        ∃ r ∈ s.relations, r.kind = .int 20 ∧ s.hasRelation r.destination = false :=
  ⟨reachable_first.afterAll _, _, ⟨⟨rfl, by decide⟩, rfl⟩, ⟨3, 2, 2, .int 20⟩, by decide +kernel,
    rfl, rfl⟩

/-- That deletion leaves the references of all other kinds as they should be, and the member that
this membership has lost was a membership. -/
theorem references_after_nested_deletion :
    ∃ s, (State.opened (named.afterAll (nested ++ [.deleteBundle 1]) first)).Keeps named s ∧
      s.Anchored ∧ ⟨3, 2, 2, .int 20⟩ ∈ s.relations ∧ s.Orphan ⟨3, 2, 2, .int 20⟩ ∧
      named.HeldMembership (.closed untouched)
        (.opened (named.afterAll (nested ++ [.deleteBundle 1]) first)) 2 := by
  obtain ⟨s, hkeeps, hanchored, horphans⟩ :=
    references_of_leads fresh_untouched (leads_first.afterAll (nested ++ [.deleteBundle 1]))
  have hrelations : s.relations = [⟨3, 2, 2, .int 20⟩] := by
    rw [hkeeps.keeps.unique ⟨⟨rfl, by decide⟩, rfl⟩]
    rfl
  have hmem : ⟨3, 2, 2, .int 20⟩ ∈ s.relations := by simp [hrelations]
  have horphan : s.Orphan ⟨3, 2, 2, .int 20⟩ := by
    refine ⟨rfl, ?_⟩
    rw [Store.hasRelation, hrelations]
    rfl
  exact ⟨s, hkeeps, hanchored, hmem, horphan, ((horphans _ hmem).mp horphan).2.1⟩

end FileSite

end Provenance
