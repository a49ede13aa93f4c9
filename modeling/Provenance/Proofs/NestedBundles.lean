import Provenance.Proofs.DeletionFrame

/-!
Bundles that are members of bundles. A bundle that goes as a member of another one goes like any
other object: what it has as members is looked at only when it is deleted itself. So the deletion of
the outer bundle leaves what deleting the inner one first leaves only if whatever would go with the
inner one goes with the outer one anyway (`Covers`), and then it does if the inner one has no hold
on the outer one (`Apart`).
-/

set_option autoImplicit false
set_option relaxedAutoImplicit false

namespace Provenance

open Relational (Statement World)

namespace Store

variable {s s' : Store} {r y : RelationRow} {o : ObjectRow} {bundle id : Nat}

/-! ### Ids are not shared -/

/-- No two relations have the same id. -/
def Distinct (s : Store) : Prop := s.relations.Pairwise (·.id < ·.id)

theorem Distinct.eq_of_id_eq (h : s.Distinct) (hr : r ∈ s.relations) (hy : y ∈ s.relations)
    (hid : y.id = r.id) : y = r := by
  obtain ⟨i, hi, rfl⟩ := List.getElem_of_mem hr
  obtain ⟨j, hj, rfl⟩ := List.getElem_of_mem hy
  have hlt := List.pairwise_iff_getElem.mp h
  rcases Nat.lt_trichotomy i j with hij | rfl | hji
  · exact absurd hid.symm (Nat.ne_of_lt (hlt i j hi hj hij))
  · rfl
  · exact absurd hid (Nat.ne_of_lt (hlt j i hj hi hji))

theorem Change.distinct {query : Query} {rows : List Row} (h : s.Change query rows s')
    (hanchored : s.Anchored) (hnumbered : s.Numbered) (hs : s.Distinct) : s'.Distinct := by
  cases h with
  | relation row hid hsource hdestination =>
    refine List.pairwise_append.mpr ⟨hs, List.pairwise_singleton _ _, fun r hr y hy ↦ ?_⟩
    rw [List.mem_singleton.mp hy, hid]
    exact Nat.lt_succ_of_le (hnumbered.relations r hr)
  | deletion id => exact hs.sublist (Thinned.sublist (hanchored.remains_deleteBundle id).relations)
  | _ => exact hs

theorem Reachable.distinct (h : s.Reachable) : s.Distinct := by
  induction h with
  | empty => exact List.Pairwise.nil
  | step h hstep ih =>
    obtain ⟨hanchored, hnumbered⟩ := h.anchored_numbered
    obtain ⟨query, rows, hchange⟩ := hstep.exists_change
    exact hchange.distinct hanchored hnumbered ih

/-! ### Two bundles -/

/-- Whatever goes with the inner bundle goes with the outer one. -/
structure Covers (s : Store) (outer inner : Nat) : Prop where
  objects : ∀ id, s.Goes inner id → s.Goes outer id
  relations : ∀ r ∈ s.relations, r.id ∈ s.memberRelations inner →
    r ∉ (s.deleteBundle (.int outer)).2.relations

/-- The inner bundle has no hold on the outer one: neither that bundle nor any relation from it is
among its members. -/
structure Apart (s : Store) (outer inner : Nat) : Prop where
  bundle : ¬ s.Takes inner outer
  relations : ∀ r ∈ s.relations, r.source = outer → r.id ∉ s.memberRelations inner

theorem mem_memberRelations : id ∈ s.memberRelations bundle ↔
    ∃ r ∈ s.relations, r.source = bundle ∧ r.holdsRelation = true ∧ r.destination = id := by
  simp only [memberRelations, List.mem_map, List.mem_filter, Bool.and_eq_true, beq_iff_eq,
    and_assoc]

theorem memberRelations_mono (h : s'.relations ⊆ s.relations)
    (hid : id ∈ s'.memberRelations bundle) : id ∈ s.memberRelations bundle := by
  obtain ⟨r, hr, hmember⟩ := mem_memberRelations.mp hid
  exact mem_memberRelations.mpr ⟨r, h hr, hmember⟩

theorem Touches.mono {objects objects' : Nat → Prop} (h : Touches objects r)
    (hsource : objects r.source → objects' r.source)
    (hdestination : r.holdsRelation = false → objects r.destination → objects' r.destination) :
    Touches objects' r :=
  h.imp hsource fun ⟨hplain, hd⟩ ↦ ⟨hplain, hdestination hplain hd⟩

section Nested

variable {outer inner : ObjectRow}

/-- Two bundles of a store in which every reference leads somewhere. -/
structure TwoBundles (s : Store) (outer inner : ObjectRow) : Prop where
  anchored : s.Anchored
  distinct : s.Distinct
  outer_mem : outer ∈ s.objects
  outer_isBundle : outer.isBundle = true
  inner_mem : inner ∈ s.objects
  inner_isBundle : inner.isBundle = true
  ne : outer.id ≠ inner.id

namespace TwoBundles

/-- The store after the deletion of the inner bundle. -/
abbrev withoutInner (_ : s.TwoBundles outer inner) : Store := (s.deleteBundle (.int inner.id)).2

/-- The store after the deletion of the outer bundle. -/
abbrev withoutOuter (_ : s.TwoBundles outer inner) : Store := (s.deleteBundle (.int outer.id)).2

/-- The store after the deletion of the inner bundle and then of the outer one. -/
abbrev withoutBoth (h : s.TwoBundles outer inner) : Store :=
  (h.withoutInner.deleteBundle (.int outer.id)).2

variable (h : s.TwoBundles outer inner)

include h

theorem mem_withoutInner :
    o ∈ h.withoutInner.objects ↔ o ∈ s.objects ∧ ¬ s.Goes inner.id o.id :=
  mem_objects_deleteBundle h.inner_mem h.inner_isBundle

theorem mem_withoutOuter :
    o ∈ h.withoutOuter.objects ↔ o ∈ s.objects ∧ ¬ s.Goes outer.id o.id :=
  mem_objects_deleteBundle h.outer_mem h.outer_isBundle

theorem leaves_withoutInner : s.Leaves (s.Hit inner.id) h.withoutInner :=
  h.anchored.leaves_deleteBundle h.inner_mem h.inner_isBundle

theorem leaves_withoutOuter : s.Leaves (s.Hit outer.id) h.withoutOuter :=
  h.anchored.leaves_deleteBundle h.outer_mem h.outer_isBundle

theorem remains_withoutInner : s.Remains h.withoutInner := h.anchored.remains_deleteBundle _

theorem anchored_withoutInner : h.withoutInner.Anchored := h.anchored.deleteBundle _

/-- If the inner bundle can as well be left to the outer one, then the outer one covers it. -/
theorem covers_of_same (hsame : h.withoutBoth = h.withoutOuter) :
    s.Covers outer.id inner.id := by
  have hremains : h.withoutInner.Remains h.withoutBoth :=
    h.anchored_withoutInner.remains_deleteBundle _
  constructor
  · intro id hgoes
    have hobject : ∃ o ∈ s.objects, o.id = id := by
      rcases hgoes with rfl | ⟨r, hr, -, hholds, rfl, -⟩
      · exact ⟨inner, h.inner_mem, rfl⟩
      · exact hasObject_iff.mp (h.anchored.destinations r hr (holdsRelation_of_holdsObject hholds))
    obtain ⟨o, ho, rfl⟩ := hobject
    refine Decidable.not_not.mp fun hstays ↦ ?_
    have hleft : o ∈ h.withoutBoth.objects := hsame ▸ h.mem_withoutOuter.mpr ⟨ho, hstays⟩
    exact (h.mem_withoutInner.mp (hremains.objects.subset hleft)).2 hgoes
  · intro r hr hmember hleft
    have hleft' : r ∈ h.withoutBoth.relations := hsame ▸ hleft
    exact ((h.leaves_withoutInner r).mp (hremains.relations.subset hleft')).2.1 (.inl hmember)

section Apart

variable (hapart : s.Apart outer.id inner.id)

include hapart

/-- A relation from the outer bundle stays without the inner one, if it leads to something that
does. -/
theorem mem_withoutInner_of_source (hr : r ∈ s.relations) (hsource : r.source = outer.id)
    (hplain : r.holdsRelation = false → ¬ s.Goes inner.id r.destination)
    (hmember : r.holdsRelation = true → ∀ y ∈ s.relations, y.id = r.destination →
      y ∈ h.withoutInner.relations) : r ∈ h.withoutInner.relations := by
  refine (h.leaves_withoutInner r).mpr ⟨hr, ?_, fun hholds y hy hid hhit ↦ ?_⟩
  · rintro (hmemberOf | hgoes | ⟨hholds, hgoes⟩)
    · exact hapart.relations r hr hsource hmemberOf
    · rw [hsource] at hgoes
      exact hgoes.elim h.ne hapart.bundle
    · exact hplain hholds hgoes
  · have hy' := hmember hholds y hy hid
    exact absurd hhit ((h.leaves_withoutInner y).mp hy').2.1

/-- A relation that stays without the inner bundle is a member of the outer one as before. -/
theorem mem_memberRelations_withoutInner (hr : r ∈ h.withoutInner.relations) :
    r.id ∈ h.withoutInner.memberRelations outer.id ↔ r.id ∈ s.memberRelations outer.id := by
  have hsubset := h.remains_withoutInner.relations.subset
  refine ⟨memberRelations_mono hsubset, fun hid ↦ ?_⟩
  obtain ⟨m, hm, hsource, hholds, hdestination⟩ := mem_memberRelations.mp hid
  refine mem_memberRelations.mpr ⟨m, ?_, hsource, hholds, hdestination⟩
  refine h.mem_withoutInner_of_source hapart hm hsource (fun hplain ↦ ?_) fun _ y hy hyid ↦ ?_
  · rw [hholds] at hplain
    cases hplain
  · rw [h.distinct.eq_of_id_eq (hsubset hr) hy (hyid.trans hdestination)]
    exact hr

/-- Without the inner bundle the outer one takes what it took of what is left. -/
theorem takes_withoutInner (hstays : ¬ s.Goes inner.id id) :
    h.withoutInner.Takes outer.id id ↔ s.Takes outer.id id := by
  have hsubset := h.remains_withoutInner.relations.subset
  constructor
  · rintro ⟨r, hr, hsource, hholds, hid, hkept⟩
    rw [h.mem_memberRelations_withoutInner hapart hr] at hkept
    exact ⟨r, hsubset hr, hsource, hholds, hid, hkept⟩
  · rintro ⟨r, hr, hsource, hholds, rfl, hkept⟩
    refine ⟨r, ?_, hsource, hholds, rfl, fun hid ↦ hkept (memberRelations_mono hsubset hid)⟩
    refine h.mem_withoutInner_of_source hapart hr hsource (fun _ ↦ hstays) fun hholds' ↦ ?_
    rw [holdsRelation_of_holdsObject hholds] at hholds'
    cases hholds'

theorem goes_withoutInner (hstays : ¬ s.Goes inner.id id) :
    h.withoutInner.Goes outer.id id ↔ s.Goes outer.id id :=
  or_congr_right (h.takes_withoutInner hapart hstays)

/-- A relation that stays without the inner bundle is hit by the deletion of the outer one as
before. -/
theorem hit_withoutInner (hr : r ∈ h.withoutInner.relations) :
    h.withoutInner.Hit outer.id r ↔ s.Hit outer.id r := by
  obtain ⟨-, hmissed, -⟩ := (h.leaves_withoutInner r).mp hr
  obtain ⟨-, htouches⟩ := not_or.mp hmissed
  obtain ⟨hsource, hdestination⟩ := not_or.mp htouches
  refine or_congr (h.mem_memberRelations_withoutInner hapart hr) (or_congr ?_ ?_)
  · exact h.goes_withoutInner hapart hsource
  · refine and_congr_right fun hplain ↦ h.goes_withoutInner hapart fun hgoes ↦ ?_
    exact hdestination ⟨hplain, hgoes⟩

theorem outer_mem_withoutInner : outer ∈ h.withoutInner.objects :=
  h.mem_withoutInner.mpr ⟨h.outer_mem, fun hgoes ↦ hgoes.elim h.ne hapart.bundle⟩

theorem mem_withoutBoth : o ∈ h.withoutBoth.objects ↔
    o ∈ h.withoutInner.objects ∧ ¬ s.Goes outer.id o.id := by
  refine (mem_objects_deleteBundle (h.outer_mem_withoutInner hapart) h.outer_isBundle).trans ?_
  refine and_congr_right fun ho ↦ not_congr ?_
  exact h.goes_withoutInner hapart (h.mem_withoutInner.mp ho).2

theorem leaves_withoutBoth :
    h.withoutInner.Leaves (s.Hit outer.id) h.withoutBoth := by
  have hleaves := h.anchored_withoutInner.leaves_deleteBundle (h.outer_mem_withoutInner hapart)
    h.outer_isBundle
  exact hleaves.congr fun r hr ↦ h.hit_withoutInner hapart hr

/-- If the outer bundle covers the inner one, then the inner one can as well be left to it. -/
theorem same_of_covers (hcovers : s.Covers outer.id inner.id) :
    h.withoutBoth = h.withoutOuter := by
  have hboth : s.Leaves (fun r ↦ s.Hit inner.id r ∨ s.Hit outer.id r) h.withoutBoth :=
    h.leaves_withoutInner.trans (h.leaves_withoutBoth hapart)
  -- What the inner bundle hits goes with the outer one, if only as a membership.
  have hcovered : ∀ y ∈ s.relations, s.Hit inner.id y →
      s.Hit outer.id y ∨ y.holdsRelation = true ∧ y ∉ h.withoutOuter.relations := by
    intro y hy hhit
    rcases hhit with hmember | htouches
    · have hgone := hcovers.relations y hy hmember
      exact (h.leaves_withoutOuter.goes_or_membership hy hgone).imp_right fun hm ↦ ⟨hm.1, hgone⟩
    · exact .inl (.inr (htouches.mono (hcovers.objects _) fun _ ↦ hcovers.objects _))
  refine Remains.ext (h.remains_withoutInner.trans
    (h.anchored_withoutInner.remains_deleteBundle _)) (h.anchored.remains_deleteBundle _)
    (fun o ho ↦ ?_) fun r hr ↦ ?_
  · rw [h.mem_withoutBoth hapart, h.mem_withoutInner, h.mem_withoutOuter, and_assoc]
    refine and_congr_right fun _ ↦ and_iff_right_of_imp fun hstays hgoes ↦ ?_
    exact hstays (hcovers.objects _ hgoes)
  · rw [hboth r, h.leaves_withoutOuter r]
    refine and_congr_right fun _ ↦ ⟨?_, ?_⟩
    · rintro ⟨hstays, hmember⟩
      exact ⟨fun hhit ↦ hstays (.inr hhit),
        fun hholds y hy hid hhit ↦ hmember hholds y hy hid (.inr hhit)⟩
    · rintro ⟨hstays, hmember⟩
      refine ⟨?_, fun hholds y hy hid hhit ↦ ?_⟩
      · rintro (hhit | hhit)
        · obtain hhit' | ⟨-, hgone⟩ := hcovered r hr hhit
          · exact hstays hhit'
          · exact hgone ((h.leaves_withoutOuter r).mpr ⟨hr, hstays, hmember⟩)
        · exact hstays hhit
      · rcases hhit with hhit | hhit
        · obtain hhit' | ⟨hplain, -⟩ := hcovered y hy hhit
          · exact hmember hholds y hy hid hhit'
          · exact hplain
        · exact hmember hholds y hy hid hhit

end Apart

end TwoBundles

end Nested

end Store

/-! ### The operation -/

namespace FileSite

variable {site : FileSite} {s : Store} {backend : FileBackend}

/-- Nothing stands in the way of a request: the backend is connected or may connect again, and
nothing is planned to fail. -/
structure Ready (site : FileSite) (s : Store) (backend : FileBackend) : Prop where
  settled : backend.connection.Settled site s
  opens : backend.connection.isConnected = true ∨ backend.options.maxRetries ≠ 0
  queues : ∀ point, backend.connection.world.plan.queues point = []

/-- A bundle is deleted, and the backend is ready for the next one. -/
theorem Ready.deleteBundle (h : site.Ready s backend) {id : Nat} (hpos : 0 < id)
    (hid : id ≤ Limit.id) :
    site.Ready (s.deleteBundle (.int id)).2 (site.afterAll [.deleteBundle id] backend) := by
  obtain ⟨read, hrequest⟩ := Operation.request_deleteBundle hpos hid backend.reader
  obtain ⟨c', hperform, hserved⟩ := Connection.perform_of_nothing_planned h.settled h.opens
    ⟨.deleteBundle, [.int id], read⟩ 0 h.queues
  have hran := congrArg (·.2.2)
    (Operation.run_passive_of_perform hrequest hperform Operation.ignore ())
  obtain ⟨live, hopen⟩ := hserved.isOpen
  rw [show site.afterAll [.deleteBundle id] backend = _ from hran]
  refine ⟨.inl ⟨live, hopen⟩, .inl ?_, fun point ↦ ?_⟩
  · exact congrArg Option.isSome hopen.live_eq
  · exact (congrFun hserved.queues point).trans (h.queues point)

/-- Of any two bundles of any file the inner one is deleted before the outer one or left to it, with
nothing planned to fail. Both ways come to the same only if the outer bundle covers the inner one,
and then they do if the inner one has no hold on the outer one. -/
theorem deletion_of_nested (hreach : site.Reachable (.opened backend))
    (hopens : backend.connection.isConnected = true ∨ backend.options.maxRetries ≠ 0)
    (hkeeps : site.Keeps backend.connection.world.world s) {outer inner : ObjectRow}
    (houter : outer ∈ s.objects) (houterKind : outer.isBundle = true)
    (houterId : outer.id ≤ Limit.id) (hinner : inner ∈ s.objects)
    (hinnerKind : inner.isBundle = true) (hinnerId : inner.id ≤ Limit.id)
    (hne : outer.id ≠ inner.id) :
    let quiet := backend.mapWorld (Faulty.replan fun _ ↦ [])
    let left := site.afterAll [.deleteBundle outer.id] quiet
    let leftFirst := site.afterAll [.deleteBundle inner.id, .deleteBundle outer.id] quiet
    ∃ s' s'', site.Keeps left.connection.world.world s' ∧
      site.Keeps leftFirst.connection.world.world s'' ∧ Store.Deleted outer.id s s' ∧
      (s'' = s' → s.Covers outer.id inner.id) ∧
      (s.Apart outer.id inner.id → s.Covers outer.id inner.id → s'' = s') := by
  intro quiet left leftFirst
  obtain ⟨t, ht, hsettled⟩ := hreach.exists_store
  obtain rfl : t = s := hsettled.keeps.unique hkeeps
  obtain ⟨hanchored, hnumbered⟩ := ht.anchored_numbered
  have hbundles : t.TwoBundles outer inner :=
    ⟨hanchored, ht.distinct, houter, houterKind, hinner, hinnerKind, hne⟩
  have hready : site.Ready t quiet :=
    ⟨(steady_replan fun _ ↦ []).settled hsettled, hopens, fun _ ↦ rfl⟩
  have hleft : site.Ready hbundles.withoutOuter left :=
    hready.deleteBundle (hnumbered.objects outer houter) houterId
  have hleftFirst : site.Ready hbundles.withoutBoth leftFirst :=
    (hready.deleteBundle (hnumbered.objects inner hinner) hinnerId).deleteBundle
      (hnumbered.objects outer houter) houterId
  exact ⟨hbundles.withoutOuter, hbundles.withoutBoth, hleft.settled.keeps, hleftFirst.settled.keeps,
    Store.deleted_deleteBundle houter houterKind, hbundles.covers_of_same,
    hbundles.same_of_covers⟩

/-- A bundle that has another bundle as a member, which has an object as a member. -/
def bundleInBundle : List Operation :=
  [.createSession ⟨"00:00:00:00:00:00", "user", 1, "program", "program --flag"⟩,
    .createBundle "outer" "" 1, .createBundle "inner" "" 1, .createObject "" "member" .entity 1,
    .addRelation 1 2 .inBundle, .addRelation 2 3 .inBundle]

/-- The object stays if the outer bundle is deleted, and goes if the inner one is deleted before. -/
theorem object_left_by_nested_deletion :
    named.Reachable (.opened (named.afterAll bundleInBundle first)) ∧
      ∃ s s' s'', named.Keeps (named.afterAll bundleInBundle first).connection.world.world s ∧
        ⟨1, 1, 2, .int 19⟩ ∈ s.relations ∧
        named.Keeps (named.afterAll (bundleInBundle ++ [.deleteBundle 1])
          first).connection.world.world s' ∧ s'.hasObject 3 = true ∧
        named.Keeps (named.afterAll (bundleInBundle ++ [.deleteBundle 2, .deleteBundle 1])
          first).connection.world.world s'' ∧ s''.hasObject 3 = false :=
  ⟨reachable_first.afterAll _, _, _, _, ⟨⟨rfl, by decide⟩, rfl⟩, by decide +kernel,
    ⟨⟨rfl, by decide⟩, rfl⟩, rfl, ⟨⟨rfl, by decide⟩, rfl⟩, rfl⟩

/-- The bundles of those operations: the outer one does not cover the inner one, because the object
goes with that one only. -/
theorem bundleInBundle_stored :
    ∃ s, named.Keeps (named.afterAll bundleInBundle first).connection.world.world s ∧
      ⟨1, .text "2026-01-01 00:00:00", .text "", .text "outer", .int 4, .int 1⟩ ∈ s.objects ∧
      ⟨2, .text "2026-01-01 00:00:00", .text "", .text "inner", .int 4, .int 1⟩ ∈ s.objects ∧
      s.hasObject 3 = true ∧ s.Apart 1 2 ∧ s.Goes 2 3 ∧ ¬ s.Goes 1 3 :=
  ⟨_, ⟨⟨rfl, by decide⟩, rfl⟩, by decide +kernel, by decide +kernel, rfl,
    ⟨by decide +kernel, by decide +kernel⟩, by decide +kernel, by decide +kernel⟩

/-- So the two ways of deleting them come to different stores, and the object is left if the outer
one is deleted alone. -/
theorem nested_deletion_uncovered :
    ∃ s s' s'', named.Keeps (named.afterAll bundleInBundle first).connection.world.world s ∧
      s.Apart 1 2 ∧ ¬ s.Covers 1 2 ∧ Store.Deleted 1 s s' ∧ s'.hasObject 3 = true ∧ s'' ≠ s' := by
  obtain ⟨s, hkeeps, houter, hinner, hobject, hapart, hinside, houtside⟩ := bundleInBundle_stored
  have hdeletions := deletion_of_nested (reachable_first.afterAll bundleInBundle) (.inl rfl) hkeeps
    houter rfl (by decide) hinner rfl (by decide) (by decide)
  obtain ⟨s', s'', -, -, hdeleted, hcovers, -⟩ := hdeletions
  have huncovered : ¬ s.Covers 1 2 := fun hcovers ↦ houtside (hcovers.objects 3 hinside)
  have hleft : s'.hasObject 3 = true :=
    (hdeleted.objects 3).mpr ⟨hobject, by decide, fun htakes ↦ houtside (.inr htakes)⟩
  exact ⟨s, s', s'', hkeeps, hapart, huncovered, hdeleted, hleft,
    fun hsame ↦ huncovered (hcovers hsame)⟩

end FileSite

end Provenance
