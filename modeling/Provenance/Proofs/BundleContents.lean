import Mathlib.Algebra.BigOperators.Group.List.Basic
import Provenance.Proofs.DatedObjects
import Provenance.Proofs.NestedBundles
import Provenance.Proofs.QuietOperations

/-!
What is listed of a bundle. Its objects are listed in the order of their ids and each once: those
that it contains, and with them any object whose id a member relation has as the id of a relation
that it leads to (`bundle_objects_listed`, `stranger_listed`). Its relations are listed in the order
of their ids, each as often as the bundle records it (`bundle_relations_listed`,
`relation_listed_twice`).
-/

set_option autoImplicit false
set_option relaxedAutoImplicit false

namespace Provenance

namespace Store

variable {s : Store} {bundle id : Nat}

/-! ### Objects of a bundle -/

/-- The bundle has the object as a member, or has as a member a relation that starts at it or,
unless what it leads to is a relation, ends at it. -/
def Contains (s : Store) (bundle id : Nat) : Prop :=
  id ∈ s.memberObjects bundle ∨
    ∃ r ∈ s.relations, r.id ∈ s.memberRelations bundle ∧
      (r.source = id ∨ r.holdsRelation = false ∧ r.destination = id)

instance (s : Store) (bundle id : Nat) : Decidable (s.Contains bundle id) :=
  inferInstanceAs (Decidable (_ ∨ _))

/-- A relation that the bundle has as a member leads to a relation of this id. -/
def LeadsToRelation (s : Store) (bundle id : Nat) : Prop :=
  ∃ r ∈ s.relations, r.id ∈ s.memberRelations bundle ∧ r.holdsRelation = true ∧ r.destination = id

instance (s : Store) (bundle id : Nat) : Decidable (s.LeadsToRelation bundle id) :=
  inferInstanceAs (Decidable (∃ r ∈ s.relations, _))

/-- The ids by which the objects of a bundle are looked for. -/
theorem mem_bundleIds :
    id ∈ s.memberObjects bundle ++ (s.membersOf (.int bundle)).map (·.source) ++
        (s.membersOf (.int bundle)).map (·.destination) ↔
      s.Contains bundle id ∨ s.LeadsToRelation bundle id := by
  simp only [List.mem_append, List.mem_map, mem_membersOf]
  constructor
  · rintro ((hmember | ⟨r, ⟨hr, hmember⟩, hsource⟩) | ⟨r, ⟨hr, hmember⟩, hdestination⟩)
    · exact .inl (.inl hmember)
    · exact .inl (.inr ⟨r, hr, hmember, .inl hsource⟩)
    · cases hholds : r.holdsRelation with
      | false => exact .inl (.inr ⟨r, hr, hmember, .inr ⟨hholds, hdestination⟩⟩)
      | true => exact .inr ⟨r, hr, hmember, hholds, hdestination⟩
  · rintro ((hmember | ⟨r, hr, hmember, hsource | ⟨-, hdestination⟩⟩) |
      ⟨r, hr, hmember, -, hdestination⟩)
    · exact .inl (.inl hmember)
    · exact .inl (.inr ⟨r, ⟨hr, hmember⟩, hsource⟩)
    · exact .inr ⟨r, ⟨hr, hmember⟩, hdestination⟩
    · exact .inr ⟨r, ⟨hr, hmember⟩, hdestination⟩

/-- The objects that are listed for a bundle. -/
def listedObjects (s : Store) (bundle : Nat) : List ObjectRow :=
  s.objects.filter fun row ↦
    (s.memberObjects bundle ++ (s.membersOf (.int bundle)).map (·.source) ++
      (s.membersOf (.int bundle)).map (·.destination)).contains row.id

theorem mem_listedObjects {row : ObjectRow} : row ∈ s.listedObjects bundle ↔
    row ∈ s.objects ∧ (s.Contains bundle row.id ∨ s.LeadsToRelation bundle row.id) := by
  rw [listedObjects, List.mem_filter, List.contains_iff_mem, mem_bundleIds]

theorem bundleObjects_eq (s : Store) (bundle : Nat) :
    s.bundleObjects (.int bundle) = (s.listedObjects bundle).map objectColumns := by
  simp only [bundleObjects, idEquals_int]
  rfl

theorem yields_bundleObjects {now : Value} (hlegible : s.ObjectsLegible) (reader : Reader)
    (hpos : 0 < bundle) (hle : bundle ≤ Limit.id) :
    s.Yields now (Request.bundleObjects reader bundle)
      (.ok ((s.listedObjects bundle).map (·.shown reader))) s := by
  have hrow : ∀ row ∈ s.listedObjects bundle, row.IsLegible := fun row hrow ↦
    hlegible row (mem_listedObjects.mp hrow).1
  refine yields_list .getBundleObjects [.int bundle] ?_ (by simp) rfl rfl
    (s.bundleObjects_eq bundle) (fun row h ↦ (hrow row h).isReadable)
    fun row h ↦ (hrow row h).reads_shown reader
  rw [Request.bundleObjects, Argument.id_eq _ hpos hle]
  rfl

/-! ### Relations of a bundle -/

/-- The ids of the relations that are listed for a bundle. -/
theorem ids_membersOf (s : Store) (bundle : Nat) :
    (s.membersOf (.int bundle)).map (·.id) =
      (Table.relations.ids s).flatMap fun id ↦
        List.replicate ((s.memberRelations bundle).count id) id := by
  have hrecords : ∀ id, ((s.relations.filter fun row ↦
      row.source == bundle && row.holdsRelation).filter fun entry ↦ entry.destination == id).length
        = (s.memberRelations bundle).count id := by
    intro id
    rw [memberRelations, List.count_eq_countP, List.countP_map, List.countP_eq_length_filter]
    rfl
  simp only [membersOf, idEquals_int, List.map_flatMap, List.map_const', List.map_replicate,
    hrecords, Table.ids, List.flatMap_map]

/-- A relation is listed as often as the bundle records it. -/
theorem Reachable.count_membersOf (h : s.Reachable) (bundle : Nat)
    (hid : id ∈ Table.relations.ids s) :
    ((s.membersOf (.int bundle)).map (·.id)).count id = (s.memberRelations bundle).count id := by
  have hothers : ∀ other, other ≠ id → other ∈ Table.relations.ids s →
      (List.replicate ((s.memberRelations bundle).count other) other).count id = 0 := by
    intro other hne _
    exact List.count_eq_zero.mpr fun hmem ↦ hne (List.eq_of_mem_replicate hmem).symm
  rw [ids_membersOf, List.count_flatMap, Function.comp_def,
    List.sum_map_eq_nsmul_single id _ hothers, List.count_replicate_self,
    List.count_eq_one_of_mem (h.counted .relations).nodup hid, one_nsmul]

theorem Reachable.ids_membersOf_ascend (h : s.Reachable) (bundle : Nat) :
    ((s.membersOf (.int bundle)).map (·.id)).Pairwise (· ≤ ·) := by
  rw [ids_membersOf, List.pairwise_flatMap]
  refine ⟨fun id _ ↦ List.pairwise_replicate.mpr (.inr (Nat.le_refl id)), ?_⟩
  refine (h.pairwise_ids .relations).imp fun hlt x hx y hy ↦ ?_
  rw [List.eq_of_mem_replicate hx, List.eq_of_mem_replicate hy]
  exact Nat.le_of_lt hlt

/-- No relation is listed twice if the bundle records none twice. -/
theorem Reachable.ids_membersOf_distinct_iff (h : s.Reachable) (bundle : Nat) :
    ((s.membersOf (.int bundle)).map (·.id)).Pairwise (· < ·) ↔
      ∀ r ∈ s.relations, (s.memberRelations bundle).count r.id ≤ 1 := by
  constructor
  · intro hascend r hr
    rw [← h.count_membersOf bundle (List.mem_map_of_mem hr)]
    exact List.nodup_iff_count_le_one.mp hascend.nodup r.id
  · intro honce
    have hnodup : ((s.membersOf (.int bundle)).map (·.id)).Nodup := by
      refine List.nodup_iff_count_le_one.mpr fun id ↦ ?_
      by_cases hid : id ∈ (s.membersOf (.int bundle)).map (·.id)
      · obtain ⟨r, hr, rfl⟩ := List.mem_map.mp hid
        have hr := (mem_membersOf.mp hr).1
        rw [h.count_membersOf bundle (List.mem_map_of_mem hr)]
        exact honce r hr
      · rw [List.count_eq_zero.mpr hid]
        exact Nat.zero_le 1
    refine ((h.ids_membersOf_ascend bundle).and hnodup).imp fun hboth ↦ ?_
    exact Nat.lt_of_le_of_ne hboth.1 hboth.2

end Store

/-! ### The operations -/

namespace FileSite

variable {site : FileSite} {s : Store} {backend : FileBackend} {bundle : Nat}

/-- Whatever bundle of whatever dated file: its objects are listed in the order of their ids and
each once. They are the objects that the bundle contains and those that share their id with a
relation that a member leads to, so it takes such an object for anything else to be listed. -/
theorem bundle_objects_listed (hdated : site.Dated (.opened backend))
    (hkeeps : site.Keeps backend.connection.world.world s) (hpos : 0 < bundle)
    (hle : bundle ≤ Limit.id) :
    ∃ rows : List ObjectRow,
      (site.Reports backend (.bundleObjects bundle) fun answer listed ↦
        answer = .afterRows rows ∧ listed = Listed.objects backend.reader rows) ∧
      (rows.map (·.id)).Pairwise (· < ·) ∧
      (∀ o, o ∈ rows ↔
        o ∈ s.objects ∧ (s.Contains bundle o.id ∨ s.LeadsToRelation bundle o.id)) ∧
      ((∀ o ∈ rows, s.Contains bundle o.id) ↔
        ∀ o ∈ s.objects, s.LeadsToRelation bundle o.id → s.Contains bundle o.id) := by
  obtain ⟨hs, hsettled⟩ := hdated.reachable.settled hkeeps
  have hlegible := hdated.objectsLegible hkeeps
  refine ⟨s.listedObjects bundle, ?_, ?_, fun o ↦ Store.mem_listedObjects, ?_⟩
  · refine reports_of_yields hsettled
      (Store.yields_bundleObjects hlegible backend.reader hpos hle) rfl ⟨?_, ?_⟩
    · exact Answer.afterRows_map _ _
    · exact (Listed.objects_eq _ _).symm
  · exact (hs.pairwise_ids .objects).sublist (List.filter_sublist.map _)
  · constructor
    · exact fun hcontained o ho hleads ↦
        hcontained o (Store.mem_listedObjects.mpr ⟨ho, .inr hleads⟩)
    · intro hcollisions o ho
      obtain ⟨ho, hcontains | hleads⟩ := Store.mem_listedObjects.mp ho
      · exact hcontains
      · exact hcollisions o ho hleads

/-- A bundle has as members another bundle and the relation that records a relation as a member of
that one. The id of the relation so recorded is also that of an object that no bundle has. -/
def collision : List Operation :=
  [.createSession ⟨"00:00:00:00:00:00", "user", 1, "program", "program --flag"⟩,
    .createObject "" "bystander" .entity 1, .createBundle "inner" "" 1,
    .createObject "" "member" .entity 1, .createBundle "outer" "" 1,
    .addRelation 2 3 .inBundle, .addRelation 2 1 .bundleRelation,
    .addRelation 4 2 .bundleRelation]

/-- The object is listed with the inner bundle, although the outer bundle does not contain it. -/
theorem stranger_listed :
    named.Reachable (.opened (named.afterAll collision first)) ∧
      ∃ s, named.Keeps (named.afterAll collision first).connection.world.world s ∧
        ¬ s.Contains 4 1 ∧ s.Contains 4 2 ∧
        (((Operation.bundleObjects 4).run named.driver Backend.keepRow).run
            ([], named.afterAll collision first)).2.1 =
          [.object ⟨1, 1, 1767225600, "", "bystander", .entity⟩,
            .object ⟨2, 1, 1767225600, "", "inner", .bundle⟩] :=
  ⟨reachable_first.afterAll _, _, ⟨⟨rfl, by decide⟩, rfl⟩, by decide +kernel, by decide +kernel,
    by decide +kernel⟩

/-- The stranger is among what is listed because a relation has its id. -/
theorem collision_listed :
    ∃ (s : Store) (rows : List ObjectRow),
      named.Keeps (named.afterAll collision first).connection.world.world s ∧
      (rows.map (·.id)).Pairwise (· < ·) ∧
      (∃ o ∈ rows, o.id = 1) ∧ ¬ s.Contains 4 1 ∧ s.LeadsToRelation 4 1 ∧
      ¬ ∀ o ∈ rows, s.Contains 4 o.id := by
  obtain ⟨rows, -, hascend, hrows, hcontained⟩ :=
    bundle_objects_listed (dated_first.afterAll isClock_first collision) ⟨⟨rfl, by decide⟩, rfl⟩
      (show 0 < 4 by decide) (by decide)
  refine ⟨_, rows, ⟨⟨rfl, by decide⟩, rfl⟩, hascend, ?_, by decide +kernel, by decide +kernel, ?_⟩
  · exact ⟨⟨1, .text "2026-01-01 00:00:00", .text "", .text "bystander", .int 1, .int 1⟩,
      (hrows _).mpr (by decide +kernel), rfl⟩
  · rw [hcontained]
    decide +kernel

/-- Whatever bundle of whatever file: its relations are listed with their fields in the order of
their ids, each as often as the bundle records it, and so each once only if none is recorded twice.
-/
theorem bundle_relations_listed (hreach : site.Reachable (.opened backend))
    (hkeeps : site.Keeps backend.connection.world.world s) (hpos : 0 < bundle)
    (hle : bundle ≤ Limit.id) :
    ∃ infos : List RelationInfo,
      (site.Reports backend (.bundleRelations bundle) fun answer listed ↦
        answer = .afterRows infos ∧ listed = infos.map .relation) ∧
      (∀ info ∈ infos, ∃ r ∈ s.relations,
        info.columns = (r.id, r.source, r.destination, r.kind)) ∧
      (infos.map (·.id)).Pairwise (· ≤ ·) ∧
      (∀ r ∈ s.relations, (infos.map (·.id)).count r.id = (s.memberRelations bundle).count r.id) ∧
      ((infos.map (·.id)).Pairwise (· < ·) ↔
        ∀ r ∈ s.relations, (s.memberRelations bundle).count r.id ≤ 1) := by
  obtain ⟨hs, hsettled⟩ := hreach.settled hkeeps
  obtain ⟨infos, hyields, hcolumns⟩ := Store.yields_bundleRelations
    backend.connection.world.world.now hs.knownKinds hpos hle
  have hids : infos.map (·.id) = (s.membersOf (.int bundle)).map (·.id) := by
    have hfirst := congrArg (List.map Prod.fst) hcolumns
    rw [List.map_map, List.map_map] at hfirst
    exact hfirst
  refine ⟨infos, reports_of_yields hsettled hyields rfl ⟨rfl, rfl⟩, fun info hinfo ↦ ?_, ?_⟩
  · have hmem := List.mem_map_of_mem (f := RelationInfo.columns) hinfo
    rw [hcolumns] at hmem
    obtain ⟨r, hr, hsame⟩ := List.mem_map.mp hmem
    exact ⟨r, (Store.mem_membersOf.mp hr).1, hsame.symm⟩
  · rw [hids]
    exact ⟨hs.ids_membersOf_ascend bundle,
      fun r hr ↦ hs.count_membersOf bundle (List.mem_map_of_mem hr),
      hs.ids_membersOf_distinct_iff bundle⟩

/-- A bundle that records one relation twice. -/
def recordedTwice : List Operation :=
  [.createSession ⟨"00:00:00:00:00:00", "user", 1, "program", "program --flag"⟩,
    .createBundle "bundle" "" 1, .createObject "" "source" .entity 1,
    .createObject "" "destination" .entity 1, .addRelation 2 3 .used,
    .addRelation 1 1 .bundleRelation, .addRelation 1 1 .bundleRelation]

/-- The relation is listed twice, and each of its ends once. -/
theorem relation_listed_twice :
    named.Reachable (.opened (named.afterAll recordedTwice first)) ∧
      (((Operation.bundleRelations 1).run named.driver Backend.keepRow).run
          ([], named.afterAll recordedTwice first)).2.1 =
        [.relation ⟨1, 2, 3, .used⟩, .relation ⟨1, 2, 3, .used⟩] ∧
      (((Operation.bundleObjects 1).run named.driver Backend.keepRow).run
          ([], named.afterAll recordedTwice first)).2.1 =
        [.object ⟨2, 1, 1767225600, "", "source", .entity⟩,
          .object ⟨3, 1, 1767225600, "", "destination", .entity⟩] :=
  ⟨reachable_first.afterAll _, by decide +kernel, by decide +kernel⟩

/-- It is listed as often as it is recorded. -/
theorem recorded_twice_listed :
    ∃ (s : Store) (infos : List RelationInfo),
      named.Keeps (named.afterAll recordedTwice first).connection.world.world s ∧
      (infos.map (·.id)).count 1 = 2 ∧ ¬ (infos.map (·.id)).Pairwise (· < ·) := by
  obtain ⟨infos, -, -, -, hcount, honce⟩ :=
    bundle_relations_listed (reachable_first.afterAll recordedTwice) ⟨⟨rfl, by decide⟩, rfl⟩
      (show 0 < 1 by decide) (by decide)
  refine ⟨_, infos, ⟨⟨rfl, by decide⟩, rfl⟩, ?_, ?_⟩
  · exact (hcount ⟨1, 2, 3, .int 11⟩ (by decide +kernel)).trans (by decide +kernel)
  · rw [honce]
    decide +kernel

end FileSite

end Provenance
