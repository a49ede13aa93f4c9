import Provenance.Proofs.BundleDeletion
import Provenance.Proofs.ExactlyOnce

/-!
What the deletion of a bundle leaves alone. Which objects and relations go is said exactly
(`mem_objects_deleteBundle`, `mem_relations_deleteBundle`), and it follows that a row goes only as
the bundle itself, as one of its members or after a row that it refers to (`OnlyCascade`). What is
left is in the order in which it was: properties and prefixes stay with their owners (`Remains`).
-/

set_option autoImplicit false
set_option relaxedAutoImplicit false

namespace Provenance

open Relational (Statement World)

/-! ### Lists without some of their members -/

section Thinned

variable {α : Type} [DecidableEq α] {rows left fewer : List α}

/-- The second list is what is left of the first one. -/
def Thinned (rows left : List α) : Prop := left = rows.filter fun row ↦ decide (row ∈ left)

theorem thinned_filter (keep : α → Bool) (rows : List α) : Thinned rows (rows.filter keep) := by
  refine List.filter_congr fun row hrow ↦ ?_
  simp only [List.mem_filter, hrow, true_and, Bool.decide_eq_true]

theorem Thinned.refl (rows : List α) : Thinned rows rows := by
  refine (List.filter_eq_self.mpr fun row hrow ↦ ?_).symm
  exact decide_eq_true hrow

theorem Thinned.subset (h : Thinned rows left) : left ⊆ rows := by
  intro row hrow
  rw [h] at hrow
  exact (List.mem_filter.mp hrow).1

theorem Thinned.sublist (h : Thinned rows left) : left.Sublist rows := by
  rw [h]
  exact List.filter_sublist

theorem Thinned.trans (h : Thinned rows left) (h' : Thinned left fewer) : Thinned rows fewer := by
  have hstep : fewer = (rows.filter fun row ↦ decide (row ∈ left)).filter
      fun row ↦ decide (row ∈ fewer) := Eq.trans h' (congrArg (List.filter _) h)
  refine Eq.trans hstep ?_
  rw [List.filter_filter]
  refine List.filter_congr fun row _ ↦ ?_
  by_cases hrow : row ∈ fewer
  · simp only [hrow, h'.subset hrow, decide_true, Bool.and_self]
  · simp only [hrow, decide_false, Bool.false_and]

/-- What is left is known by its members. -/
theorem Thinned.ext (h : Thinned rows left) (h' : Thinned rows fewer)
    (hmem : ∀ row ∈ rows, row ∈ left ↔ row ∈ fewer) : left = fewer := by
  rw [h, h']
  exact List.filter_congr fun row hrow ↦ decide_eq_decide.mpr (hmem row hrow)

end Thinned

namespace Store

variable {s s' s'' : Store} {r : RelationRow} {o : ObjectRow} {bundle id : Nat}

/-! ### What is left of a store -/

/-- Rows have been deleted and nothing else has happened: the rows that are left stand in the order
of before, and those that belong to another row are left exactly if that one is. -/
structure Remains (s s' : Store) : Prop where
  sessions : s'.sessions = s.sessions
  objects : Thinned s.objects s'.objects
  relations : Thinned s.relations s'.relations
  objectProperties :
    s'.objectProperties = s.objectProperties.filter fun p ↦ s'.hasObject p.owner
  relationProperties :
    s'.relationProperties = s.relationProperties.filter fun p ↦ s'.hasRelation p.owner
  bundleProperties :
    s'.bundleProperties = s.bundleProperties.filter fun p ↦ s'.hasObject p.owner
  prefixes : s'.prefixes = s.prefixes.filter fun p ↦ s'.hasObject p.bundle
  lastSession : s'.lastSession = s.lastSession
  lastObject : s'.lastObject = s.lastObject
  lastRelation : s'.lastRelation = s.lastRelation

theorem hasObject_mono (h : s'.objects ⊆ s.objects) (hid : s'.hasObject id = true) :
    s.hasObject id = true := by
  obtain ⟨o, ho, rfl⟩ := hasObject_iff.mp hid
  exact hasObject_iff.mpr ⟨o, h ho, rfl⟩

theorem hasRelation_mono (h : s'.relations ⊆ s.relations) (hid : s'.hasRelation id = true) :
    s.hasRelation id = true := by
  obtain ⟨r, hr, rfl⟩ := hasRelation_iff.mp hid
  exact hasRelation_iff.mpr ⟨r, h hr, rfl⟩

theorem Anchored.remains_refl (h : s.Anchored) : s.Remains s where
  sessions := rfl
  objects := .refl _
  relations := .refl _
  objectProperties := (List.filter_eq_self.mpr h.objectProperties).symm
  relationProperties := (List.filter_eq_self.mpr h.relationProperties).symm
  bundleProperties := (List.filter_eq_self.mpr h.bundleProperties).symm
  prefixes := (List.filter_eq_self.mpr h.prefixes).symm
  lastSession := rfl
  lastObject := rfl
  lastRelation := rfl

/-- Of rows that belong to others those are left in the end whose owners are. -/
theorem filter_owned {α : Type} {rows left fewer : List α} {has has' : α → Bool}
    (h : left = rows.filter has) (h' : fewer = left.filter has')
    (hmono : ∀ row, has' row = true → has row = true) : fewer = rows.filter has' := by
  rw [h', h, List.filter_filter]
  refine List.filter_congr fun row _ ↦ ?_
  cases hrow : has' row with
  | true => rw [hmono row hrow, Bool.and_self]
  | false => rw [Bool.false_and]

theorem Remains.trans (h : s.Remains s') (h' : s'.Remains s'') : s.Remains s'' where
  sessions := h'.sessions.trans h.sessions
  objects := h.objects.trans h'.objects
  relations := h.relations.trans h'.relations
  objectProperties := filter_owned h.objectProperties h'.objectProperties
    fun _ ↦ hasObject_mono h'.objects.subset
  relationProperties := filter_owned h.relationProperties h'.relationProperties
    fun _ ↦ hasRelation_mono h'.relations.subset
  bundleProperties := filter_owned h.bundleProperties h'.bundleProperties
    fun _ ↦ hasObject_mono h'.objects.subset
  prefixes := filter_owned h.prefixes h'.prefixes fun _ ↦ hasObject_mono h'.objects.subset
  lastSession := h'.lastSession.trans h.lastSession
  lastObject := h'.lastObject.trans h.lastObject
  lastRelation := h'.lastRelation.trans h.lastRelation

/-- A store that is left is known by its objects and relations. -/
theorem Remains.ext (h : s.Remains s') (h' : s.Remains s'')
    (hobjects : ∀ o ∈ s.objects, o ∈ s'.objects ↔ o ∈ s''.objects)
    (hrelations : ∀ r ∈ s.relations, r ∈ s'.relations ↔ r ∈ s''.relations) : s' = s'' := by
  have ho : s'.objects = s''.objects := h.objects.ext h'.objects hobjects
  have hr : s'.relations = s''.relations := h.relations.ext h'.relations hrelations
  have hhasObject : s'.hasObject = s''.hasObject := by
    funext id
    rw [hasObject, hasObject, ho]
  have hhasRelation : s'.hasRelation = s''.hasRelation := by
    funext id
    rw [hasRelation, hasRelation, hr]
  have hobjectProperties : s'.objectProperties = s''.objectProperties := by
    rw [h.objectProperties, h'.objectProperties, hhasObject]
  have hrelationProperties : s'.relationProperties = s''.relationProperties := by
    rw [h.relationProperties, h'.relationProperties, hhasRelation]
  have hbundleProperties : s'.bundleProperties = s''.bundleProperties := by
    rw [h.bundleProperties, h'.bundleProperties, hhasObject]
  have hprefixes : s'.prefixes = s''.prefixes := by
    rw [h.prefixes, h'.prefixes, hhasObject]
  have hsessions := h.sessions.trans h'.sessions.symm
  have hlastSession := h.lastSession.trans h'.lastSession.symm
  have hlastObject := h.lastObject.trans h'.lastObject.symm
  have hlastRelation := h.lastRelation.trans h'.lastRelation.symm
  cases s'
  cases s''
  congr

theorem Anchored.remains_deleteRelations (h : s.Anchored) (doomed : RelationRow → Bool) :
    s.Remains (s.deleteRelations doomed) where
  sessions := rfl
  objects := .refl _
  relations := thinned_filter _ _
  objectProperties := (List.filter_eq_self.mpr h.objectProperties).symm
  relationProperties := rfl
  bundleProperties := (List.filter_eq_self.mpr h.bundleProperties).symm
  prefixes := (List.filter_eq_self.mpr h.prefixes).symm
  lastSession := rfl
  lastObject := rfl
  lastRelation := rfl

theorem remains_deleteObjects (doomed : ObjectRow → Bool) : s.Remains (s.deleteObjects doomed) where
  sessions := rfl
  objects := thinned_filter _ _
  relations := thinned_filter _ _
  objectProperties := rfl
  relationProperties := rfl
  bundleProperties := rfl
  prefixes := rfl
  lastSession := rfl
  lastObject := rfl
  lastRelation := rfl

theorem Anchored.remains_deleteMembers (h : s.Anchored) (bundle : Nat) :
    s.Remains (s.deleteMembers bundle) :=
  (h.remains_deleteRelations _).trans (remains_deleteObjects _)

theorem Anchored.remains_deleteBundle (h : s.Anchored) (id : Value) :
    s.Remains (s.deleteBundle id).2 := by
  unfold Store.deleteBundle
  split
  · exact h.remains_refl
  · rename_i bundle hbundle
    dsimp only
    split
    · exact (h.remains_deleteMembers _).trans (remains_deleteObjects _)
    · exact h.remains_deleteMembers _

/-! ### What goes -/

/-- The relations that are left are those that do not go of themselves, but for the memberships of
relations that go and are no memberships. -/
def Leaves (goes : RelationRow → Prop) (s s' : Store) : Prop :=
  ∀ r, r ∈ s'.relations ↔ r ∈ s.relations ∧ ¬ goes r ∧
    (r.holdsRelation = true → ∀ y ∈ s.relations, y.id = r.destination → goes y →
      y.holdsRelation = true)

theorem leaves_deleteRelations (doomed : RelationRow → Bool) :
    s.Leaves (fun r ↦ doomed r = true) (s.deleteRelations doomed) := by
  intro r
  rw [mem_deleteRelations, Bool.not_eq_true]

theorem Leaves.trans {goes goes' : RelationRow → Prop} (h : s.Leaves goes s')
    (h' : s'.Leaves goes' s'') : s.Leaves (fun r ↦ goes r ∨ goes' r) s'' := by
  intro r
  rw [h' r, h r]
  constructor
  · rintro ⟨⟨hr, hstays, hmember⟩, hstays', hmember'⟩
    refine ⟨hr, not_or.mpr ⟨hstays, hstays'⟩, fun hholds y hy hid hgoes ↦ ?_⟩
    by_cases hfirst : goes y
    · exact hmember hholds y hy hid hfirst
    · cases hplain : y.holdsRelation with
      | true => rfl
      | false =>
        -- A relation that is no membership is still there after the first step.
        have hy' : y ∈ s'.relations := by
          refine (h y).mpr ⟨hy, hfirst, fun hholds' ↦ ?_⟩
          rw [hplain] at hholds'
          cases hholds'
        exact hplain.symm.trans (hmember' hholds y hy' hid (hgoes.resolve_left hfirst))
  · rintro ⟨hr, hstays, hmember⟩
    obtain ⟨hstays, hstays'⟩ := not_or.mp hstays
    refine ⟨⟨hr, hstays, fun hholds y hy hid hgoes ↦ hmember hholds y hy hid (.inl hgoes)⟩, hstays',
      fun hholds y hy hid hgoes ↦ hmember hholds y ((h y).mp hy).1 hid (.inr hgoes)⟩

theorem Leaves.congr {goes goes' : RelationRow → Prop} (h : s.Leaves goes s')
    (hgoes : ∀ r ∈ s.relations, goes r ↔ goes' r) : s.Leaves goes' s' := by
  intro r
  rw [h r]
  refine and_congr_right fun hr ↦ and_congr (not_congr (hgoes r hr)) ?_
  refine forall_congr' fun _ ↦ forall_congr' fun y ↦ forall_congr' fun hy ↦ ?_
  rw [hgoes y hy]

/-- A relation that is gone without going of itself was the membership of one that did. -/
theorem Leaves.goes_or_membership {goes : RelationRow → Prop} (h : s.Leaves goes s')
    (hr : r ∈ s.relations) (hgone : r ∉ s'.relations) :
    goes r ∨ r.holdsRelation = true ∧
      ∃ y ∈ s.relations, y.id = r.destination ∧ goes y ∧ y.holdsRelation = false := by
  by_cases hself : goes r
  · exact .inl hself
  · refine .inr (Classical.byContradiction fun hother ↦ hgone ((h r).mpr ⟨hr, hself, ?_⟩))
    intro hholds y hy hid hgoes
    cases hplain : y.holdsRelation with
    | true => rfl
    | false => exact absurd ⟨hholds, y, hy, hid, hgoes, hplain⟩ hother

/-- The relation leads from or to one of the objects. -/
def Touches (objects : Nat → Prop) (r : RelationRow) : Prop :=
  objects r.source ∨ r.holdsRelation = false ∧ objects r.destination

theorem touches_or {objects objects' : Nat → Prop} :
    Touches (fun id ↦ objects id ∨ objects' id) r ↔ Touches objects r ∨ Touches objects' r := by
  unfold Touches
  rw [and_or_left]
  exact or_or_or_comm

/-- Objects that go by their ids take along the relations from and to them. -/
theorem Anchored.leaves_deleteObjects (h : s.Anchored) (doomed : Nat → Bool) :
    s.Leaves (Touches fun id ↦ doomed id = true) (s.deleteObjects fun o ↦ doomed o.id) := by
  have hlost : ∀ {id}, s.hasObject id = true →
      (((s.objects.filter fun o ↦ doomed o.id).map (·.id)).contains id = true ↔
        doomed id = true) := by
    intro id hid
    rw [List.contains_iff_mem, List.mem_map]
    constructor
    · rintro ⟨o, ho, rfl⟩
      exact (List.mem_filter.mp ho).2
    · intro hdoomed
      obtain ⟨o, ho, rfl⟩ := hasObject_iff.mp hid
      exact ⟨o, List.mem_filter.mpr ⟨ho, hdoomed⟩, rfl⟩
  refine Leaves.congr (leaves_deleteRelations _) fun r hr ↦ ?_
  rw [Touches, Bool.or_eq_true, Bool.and_eq_true, Bool.not_eq_true', hlost (h.sources r hr),
    and_comm]
  refine or_congr_right (and_congr_right fun hplain ↦ ?_)
  exact hlost (h.destinations r hr hplain)

/-- The object goes with the bundle. -/
def Goes (s : Store) (bundle id : Nat) : Prop := id = bundle ∨ s.Takes bundle id

instance (s : Store) (bundle id : Nat) : Decidable (s.Goes bundle id) :=
  inferInstanceAs (Decidable (_ ∨ _))

/-- The relation is a member of the bundle, or leads from or to an object that goes with it. -/
def Hit (s : Store) (bundle : Nat) (r : RelationRow) : Prop :=
  r.id ∈ s.memberRelations bundle ∨ Touches (s.Goes bundle) r

theorem Anchored.leaves_deleteMembers (h : s.Anchored) (bundle : Nat) :
    s.Leaves (fun r ↦ r.id ∈ s.memberRelations bundle ∨ Touches (s.Takes bundle) r)
      (s.deleteMembers bundle) := by
  let members := s.deleteRelations fun r ↦ (s.memberRelations bundle).contains r.id
  have hobjects : members.Leaves _ (s.deleteMembers bundle) :=
    (h.deleteRelations _).leaves_deleteObjects (members.memberObjects bundle).contains
  refine Leaves.congr ((leaves_deleteRelations _).trans hobjects) fun r _ ↦ ?_
  refine or_congr List.contains_iff_mem ?_
  rw [show s.Takes bundle = fun id ↦ (members.memberObjects bundle).contains id = true from
    funext fun id ↦ propext (by
      rw [List.contains_iff_mem]
      exact mem_memberObjects_deleteRelations.symm)]

/-- Which relations the deletion of a bundle leaves. -/
theorem Anchored.leaves_deleteBundle (h : s.Anchored) {b : ObjectRow} (hb : b ∈ s.objects)
    (hkind : b.isBundle = true) :
    s.Leaves (s.Hit b.id) (s.deleteBundle (.int b.id)).2 := by
  rw [deleteBundle_of_mem hb hkind]
  have hmembers := h.leaves_deleteMembers b.id
  by_cases hself : s.Takes b.id b.id
  · have hgone : (s.deleteMembers b.id).hasObject b.id = false := by
      rw [← Bool.not_eq_true, hasObject_deleteMembers]
      exact fun hleft ↦ hleft.2 hself
    have hgoes : s.Goes b.id = s.Takes b.id := by
      funext id
      refine propext ⟨?_, .inr⟩
      rintro (rfl | htakes)
      · exact hself
      · exact htakes
    simp only [hgone, Bool.false_eq_true, if_false]
    refine hmembers.congr fun r _ ↦ ?_
    rw [Hit, hgoes]
  · have hleft : (s.deleteMembers b.id).hasObject b.id = true :=
      hasObject_deleteMembers.mpr ⟨hasObject_iff.mpr ⟨b, hb, rfl⟩, hself⟩
    simp only [hleft, if_true]
    refine Leaves.congr (hmembers.trans ((h.deleteMembers b.id).leaves_deleteObjects (· == b.id)))
      fun r _ ↦ ?_
    rw [Hit, show s.Goes b.id = fun id ↦ (id == b.id) = true ∨ s.Takes b.id id from
      funext fun id ↦ by rw [Goes, beq_iff_eq], touches_or, or_assoc, or_comm (a := Touches _ r)]

theorem mem_objects_deleteMembers :
    o ∈ (s.deleteMembers bundle).objects ↔ o ∈ s.objects ∧ ¬ s.Takes bundle o.id := by
  refine List.mem_filter.trans (and_congr_right fun _ ↦ ?_)
  rw [Bool.not_eq_true', ← Bool.not_eq_true, List.contains_iff_mem,
    mem_memberObjects_deleteRelations]

/-- Which objects the deletion of a bundle leaves. -/
theorem mem_objects_deleteBundle {b : ObjectRow} (hb : b ∈ s.objects)
    (hkind : b.isBundle = true) :
    o ∈ (s.deleteBundle (.int b.id)).2.objects ↔ o ∈ s.objects ∧ ¬ s.Goes b.id o.id := by
  rw [deleteBundle_of_mem hb hkind, Goes, not_or]
  split
  · have hlast : o ∈ ((s.deleteMembers b.id).deleteObjects fun o ↦ o.id == b.id).objects ↔
        o ∈ (s.deleteMembers b.id).objects ∧ o.id ≠ b.id := by
      refine List.mem_filter.trans (and_congr_right fun _ ↦ ?_)
      rw [Bool.not_eq_true', beq_eq_false_iff_ne]
    rw [hlast, mem_objects_deleteMembers, and_assoc, and_comm (a := ¬ _)]
  · rename_i hself
    -- The bundle went with its members, so none of those that are left has its id.
    rw [mem_objects_deleteMembers]
    refine and_congr_right fun _ ↦ ⟨fun hkept ↦ ⟨fun hid ↦ hself ?_, hkept⟩, fun h ↦ h.2⟩
    rw [hasObject_deleteMembers]
    exact ⟨hasObject_iff.mpr ⟨b, hb, rfl⟩, hid ▸ hkept⟩

/-- No store has the bundle, or one has and its deletion says what is left. -/
theorem deleteBundle_cases (s : Store) (id : Nat) :
    s.deleteBundle (.int id) = ([], s) ∨
      ∃ b ∈ s.objects, b.isBundle = true ∧ b.id = id := by
  cases hfound : s.objects.find? fun o ↦ (Value.int id).rowId? == some o.id && o.isBundle with
  | none => exact .inl (by simp only [deleteBundle, hfound])
  | some b =>
    refine .inr ⟨b, List.mem_of_find?_eq_some hfound, ?_⟩
    have htest := List.find?_some hfound
    rw [Value.rowId?_int, Bool.and_eq_true, beq_iff_eq, Option.some_inj] at htest
    exact ⟨htest.2, htest.1.symm⟩

/-! ### Why it goes -/

/-- An object of this id is there before and not after. -/
def LosesObject (s s' : Store) (id : Nat) : Prop := ∃ o ∈ s.objects, o.id = id ∧ o ∉ s'.objects

/-- A relation of this id is there before and not after. -/
def LosesRelation (s s' : Store) (id : Nat) : Prop :=
  ∃ r ∈ s.relations, r.id = id ∧ r ∉ s'.relations

/-- What has gone has gone with a bundle: as the bundle itself or a member that it has recorded, or,
a relation, after one of its ends. The end of the membership of a relation is a relation, and that
of any other relation is an object. -/
structure OnlyCascade (bundle : Nat) (s s' : Store) : Prop where
  objects : ∀ o ∈ s.objects, o ∉ s'.objects → o.id = bundle ∨ o.id ∈ s.memberObjects bundle
  relations : ∀ r ∈ s.relations, r ∉ s'.relations →
    r.id ∈ s.memberRelations bundle ∨ s.LosesObject s' r.source ∨
      if r.holdsRelation then s.LosesRelation s' r.destination
      else s.LosesObject s' r.destination

theorem onlyCascade_refl (bundle : Nat) (s : Store) : OnlyCascade bundle s s :=
  ⟨fun _ ho hgone ↦ absurd ho hgone, fun _ hr hgone ↦ absurd hr hgone⟩

theorem mem_memberObjects_of_takes (h : s.Takes bundle id) : id ∈ s.memberObjects bundle := by
  obtain ⟨r, hr, hsource, hholds, hid, -⟩ := h
  exact mem_memberObjects.mpr ⟨r, hr, hsource, hholds, hid⟩

theorem Anchored.onlyCascade_deleteBundle (h : s.Anchored) (id : Nat) :
    OnlyCascade id s (s.deleteBundle (.int id)).2 := by
  rcases s.deleteBundle_cases id with hnone | ⟨b, hb, hkind, rfl⟩
  · rw [hnone]
    exact onlyCascade_refl id s
  have hobjects : ∀ {o}, o ∈ (s.deleteBundle (.int b.id)).2.objects ↔ _ :=
    mem_objects_deleteBundle hb hkind
  have hloses : ∀ {x}, s.hasObject x = true → s.Goes b.id x →
      s.LosesObject (s.deleteBundle (.int b.id)).2 x := by
    intro x hx hgoes
    obtain ⟨o, ho, rfl⟩ := hasObject_iff.mp hx
    exact ⟨o, ho, rfl, fun hleft ↦ (hobjects.mp hleft).2 hgoes⟩
  constructor
  · intro o ho hgone
    have hgoes : s.Goes b.id o.id := Decidable.not_not.mp fun hstays ↦
      hgone (hobjects.mpr ⟨ho, hstays⟩)
    exact hgoes.imp_right mem_memberObjects_of_takes
  · intro r hr hgone
    have hleaves := h.leaves_deleteBundle hb hkind
    have hlosesRelation : ∀ {y}, y ∈ s.relations → s.Hit b.id y →
        s.LosesRelation (s.deleteBundle (.int b.id)).2 y.id := fun {y} hy hhit ↦
      ⟨y, hy, rfl, fun hleft ↦ ((hleaves y).mp hleft).2.1 hhit⟩
    rcases hleaves.goes_or_membership hr hgone with
      (hmember | hsource | ⟨hplain, hdestination⟩) | ⟨hholds, y, hy, hid, hyhit, -⟩
    · exact .inl hmember
    · exact .inr (.inl (hloses (h.sources r hr) hsource))
    · refine .inr (.inr ?_)
      rw [hplain, if_neg Bool.false_ne_true]
      exact hloses (h.destinations r hr hplain) hdestination
    · refine .inr (.inr ?_)
      rw [hholds, if_pos rfl]
      exact hid ▸ hlosesRelation hy hyhit

end Store

/-! ### The operation -/

/-- A request to delete a bundle names it, and finds nothing if no row comes back. -/
theorem Request.ensures_deleteBundle (id : Nat) :
    Ensures (Request.deleteBundle id) fun request ↦ request.query = .deleteBundle ∧
      request.params = [.int id] ∧ request.readOff [] = .error .notFound := by
  intro request h
  unfold Request.deleteBundle Argument.id at h
  split at h
  · cases h
  · split at h
    · cases h
    · cases h
      exact ⟨rfl, rfl, rfl⟩

namespace FileSite

variable {site : FileSite} {s : Store} {backend : FileBackend}

/-- Whatever is deleted from whatever file, under any failures: only the bundle, its members and
what refers to what has gone goes. All other rows stay as they are and where they are, also those
that have the id of a row of another table that goes. If the deletion is reported as done, the
bundle is gone. -/
theorem deletion_only_cascades (hreach : site.Reachable (.opened backend))
    (hkeeps : site.Keeps backend.connection.world.world s) (id : Nat) {C : Type}
    (callback : Listed → Action (C × FileBackend) Unit) (c : C) :
    let ran := ((Operation.deleteBundle id).run site.driver callback).run (c, backend)
    ∃ s', site.Keeps ran.2.2.connection.world.world s' ∧ s.Remains s' ∧
      Store.OnlyCascade id s s' ∧ (ran.1 = .ok .done → s'.hasObject id = false) := by
  intro ran
  obtain ⟨t, ht, hsettled⟩ := hreach.exists_store
  obtain rfl : t = s := hsettled.keeps.unique hkeeps
  obtain ⟨hanchored, -⟩ := ht.anchored_numbered
  have hwrites : (Operation.deleteBundle id).writes = true := rfl
  have hran : ran = _ := Operation.run_of_writes hwrites site.driver callback c backend
  obtain ⟨s', hsettled', hcall⟩ :=
    Backend.call_cases (Operation.deleteBundle id).form.request hsettled
  refine ⟨s', ?_, ?_⟩
  · rw [hran]
    exact hsettled'.keeps
  rcases hcall with ⟨⟨err, herr⟩, rfl⟩ | ⟨request, now, rows, hrequest, hreply, hresult⟩
  · refine ⟨hanchored.remains_refl, Store.onlyCascade_refl _ _, fun hdone ↦ ?_⟩
    rw [hran, herr] at hdone
    cases hdone
  obtain ⟨hquery, hparams, hnone⟩ := Request.ensures_deleteBundle id request hrequest
  have hrun := Operation.run_of_reply hrequest hreply
  rw [hquery, hparams] at hrun
  have hdeleted : t.deleteBundle (.int id) = (rows, s') := Except.ok.inj hrun
  obtain rfl : (t.deleteBundle (.int id)).2 = s' := congrArg Prod.snd hdeleted
  refine ⟨hanchored.remains_deleteBundle _, hanchored.onlyCascade_deleteBundle id, fun hdone ↦ ?_⟩
  rcases t.deleteBundle_cases id with hmissing | ⟨b, hb, hkind, rfl⟩
  · -- Without a bundle of this id no row comes back.
    obtain rfl : [] = rows := congrArg Prod.fst (hmissing.symm.trans hdeleted)
    rw [hran] at hdone
    cases hcall : ((Backend.call site.driver (Operation.deleteBundle id).form.request).run
        backend).1 with
    | error err =>
      rw [hcall] at hdone
      cases hdone
    | ok done => cases hnone.symm.trans (hresult done hcall)
  · rw [← Bool.not_eq_true, (Store.deleted_deleteBundle hb hkind).objects]
    exact fun hleft ↦ hleft.2.1 rfl

/-- A bundle with an object as its member, and an object that is related to itself: the bundle and
the relation of the membership, and the member and the relation of the other object have the same
ids. -/
def colliding : List Operation :=
  [.createSession ⟨"00:00:00:00:00:00", "user", 1, "program", "program --flag"⟩,
    .createBundle "bundle" "" 1, .createObject "" "member" .entity 1,
    .createObject "" "other" .entity 1, .addRelation 1 2 .inBundle,
    .addRelation 3 3 .wasDerivedFrom]

/-- With the bundle its member goes, but not the relation that has the id of the member. -/
theorem colliding_deletion :
    ∃ s s', named.Keeps (named.afterAll colliding first).connection.world.world s ∧
      s.Remains s' ∧ Store.OnlyCascade 1 s s' ∧ s'.hasObject 1 = false ∧
      s'.hasObject 2 = false ∧ s'.hasRelation 2 = true := by
  have hdeletion := deletion_only_cascades (reachable_first.afterAll colliding)
    ⟨⟨rfl, by decide⟩, rfl⟩ 1 (Operation.passive Operation.ignore) ()
  obtain ⟨s', hkeeps, hremains, hcascade, hdone⟩ := hdeletion
  have hs' := hkeeps.unique ⟨⟨rfl, by decide⟩, rfl⟩
  refine ⟨_, s', ⟨⟨rfl, by decide⟩, rfl⟩, hremains, hcascade, hdone rfl, ?_, ?_⟩
  · rw [hs']
    decide +kernel
  · rw [hs']
    decide +kernel

end FileSite

end Provenance
