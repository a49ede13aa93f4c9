import Mathlib.Data.List.Perm.Subperm
import Provenance.Proofs.LedgerView

/-!
Bundles that are deleted, as a ledger tells of them. Deleted from the store and from the ledger, a
bundle leaves a ledger that follows the store (`Tracks.deleteBundle`). Where only the store has
deleted it, or only the store knows of a member, the ledger is brought in line by looking at all
bundles one after another (`Settles`): what is still to be looked at gets less with each of them
(`Reviewing.settle`), and then the ledger follows the store again (`Reviewing.tracks_of_nil`).
-/

set_option autoImplicit false
set_option relaxedAutoImplicit false

namespace Provenance.Simulation.Ledger

open Ascending

variable {s s' : Store} {ledger ledger' : Ledger} {stale rest : List Nat} {session id bundle : Nat}
  {members : List Nat}

/-! ### Ledgers without a bundle -/

/-- What goes from a ledger with a bundle. -/
def taken (ledger : Ledger) (bundle : Nat) : List Nat := (get? bundle ledger.bundles).getD []

theorem taken_eq (h : (keys ledger.bundles).Pairwise (· < ·))
    (hmem : (bundle, members) ∈ ledger.bundles) : ledger.taken bundle = members := by
  rw [taken, get?_eq_some h hmem, Option.getD_some]

theorem deleteBundle_of_not_mem (h : bundle ∉ keys ledger.bundles) :
    ledger.deleteBundle bundle = ledger := by
  rw [deleteBundle, get?_eq_none h]

theorem deleteBundle_of_mem (h : (keys ledger.bundles).Pairwise (· < ·))
    (hmem : (bundle, members) ∈ ledger.bundles) :
    ledger.deleteBundle bundle =
      { ledger with
        objects := ledger.objects.filter fun entry ↦ !members.contains entry.1
        relations := ledger.relations.filter fun entry ↦
          !members.contains entry.2.source && !members.contains entry.2.destination
        bundles := (erase bundle ledger.bundles).map fun entry ↦
          (entry.1, entry.2.filter fun id ↦ !members.contains id)
        deletedObjects :=
          (members.filter ledger.hasObject).foldr Ascending.insert ledger.deletedObjects
        deletedBundles := Ascending.insert bundle ledger.deletedBundles } := by
  rw [deleteBundle, get?_eq_some h hmem]

section Deletion

variable (h : (keys ledger.bundles).Pairwise (· < ·)) (hmem : (bundle, members) ∈ ledger.bundles)

include h hmem

theorem mem_objects_deleteBundle {entry : Nat × ObjectRecord} :
    entry ∈ (ledger.deleteBundle bundle).objects ↔ entry ∈ ledger.objects ∧ entry.1 ∉ members := by
  rw [deleteBundle_of_mem h hmem]
  simp

theorem mem_relations_deleteBundle {entry : Nat × RelationRecord} :
    entry ∈ (ledger.deleteBundle bundle).relations ↔ entry ∈ ledger.relations ∧
      entry.2.source ∉ members ∧ entry.2.destination ∉ members := by
  rw [deleteBundle_of_mem h hmem]
  simp

theorem mem_bundles_deleteBundle {entry : Nat × List Nat} :
    entry ∈ (ledger.deleteBundle bundle).bundles ↔ ∃ others, (entry.1, others) ∈ ledger.bundles ∧
      entry.1 ≠ bundle ∧ entry.2 = others.filter fun id ↦ !members.contains id := by
  rw [deleteBundle_of_mem h hmem, List.mem_map]
  constructor
  · rintro ⟨⟨id, others⟩, hkept, rfl⟩
    obtain ⟨hin, hne⟩ := mem_erase.mp hkept
    exact ⟨others, hin, hne, rfl⟩
  · rintro ⟨others, hin, hne, hothers⟩
    exact ⟨(entry.1, others), mem_erase.mpr ⟨hin, hne⟩, Prod.ext rfl hothers.symm⟩

theorem mem_deletedObjects_deleteBundle :
    id ∈ (ledger.deleteBundle bundle).deletedObjects ↔
      id ∈ members ∧ ledger.hasObject id = true ∨ id ∈ ledger.deletedObjects := by
  rw [deleteBundle_of_mem h hmem]
  simp only [mem_foldr_insert, List.mem_filter]

theorem mem_deletedBundles_deleteBundle :
    id ∈ (ledger.deleteBundle bundle).deletedBundles ↔
      id = bundle ∨ id ∈ ledger.deletedBundles := by
  rw [deleteBundle_of_mem h hmem]
  simp only [mem_insert]

theorem keys_deleteBundle :
    keys (ledger.deleteBundle bundle).bundles = keys (erase bundle ledger.bundles) := by
  rw [deleteBundle_of_mem h hmem]
  simp only [keys, List.map_map, Function.comp_def]

end Deletion

/-- An object stays in a ledger unless it goes with the bundle. -/
theorem hasObject_deleteBundle (h : (keys ledger.bundles).Pairwise (· < ·)) :
    (ledger.deleteBundle bundle).hasObject id = true ↔
      ledger.hasObject id = true ∧ id ∉ ledger.taken bundle := by
  by_cases hkey : bundle ∈ keys ledger.bundles
  · obtain ⟨members, hmem⟩ := mem_keys.mp hkey
    simp only [hasObject_iff, mem_keys, mem_objects_deleteBundle h hmem, taken_eq h hmem,
      exists_and_right]
  · rw [deleteBundle_of_not_mem hkey, taken, get?_eq_none hkey]
    simp

/-- A bundle that is recorded anew stays so when another one goes, but for what goes with that. -/
theorem deleteBundle_putBundle (members : List Nat) {lost : Nat} (hne : bundle ≠ lost)
    (h : (keys ledger.bundles).Pairwise (· < ·)) :
    (ledger.putBundle bundle members).deleteBundle lost =
      (ledger.deleteBundle lost).putBundle bundle
        (members.filter fun id ↦ !(ledger.taken lost).contains id) := by
  have hsorted : (keys (ledger.putBundle bundle members).bundles).Pairwise (· < ·) :=
    pairwise_put h
  by_cases hkey : lost ∈ keys ledger.bundles
  · obtain ⟨others, hmem⟩ := mem_keys.mp hkey
    have hmem' : (lost, others) ∈ (ledger.putBundle bundle members).bundles :=
      (mem_put h).mpr (.inr ⟨hmem, Ne.symm hne⟩)
    rw [deleteBundle_of_mem hsorted hmem', deleteBundle_of_mem h hmem, taken_eq h hmem]
    simp only [putBundle, erase_put hne h, map_put]
    rfl
  · have hkey' : lost ∉ keys (ledger.putBundle bundle members).bundles := by
      intro hlost
      rcases (mem_keys_put h).mp hlost with hsame | hlost
      · exact hne hsame.symm
      · exact hkey hlost
    rw [deleteBundle_of_not_mem hkey', deleteBundle_of_not_mem hkey, taken, get?_eq_none hkey]
    simp

namespace Tracks

/-! ### A bundle is deleted -/

section Counting

variable {present absent : List Nat} (hpresent : present.Pairwise (· < ·))
  (habsent : absent.Pairwise (· < ·)) (hthere : ∀ id ∈ present, s.hasObject id = true)
  (hgone : ∀ id ∈ absent, 0 < id ∧ id ≤ s.lastObject ∧ s.hasObject id = false)

include hpresent habsent hthere hgone

/-- Ids that are there and ids that are gone have none in common. -/
theorem nodup_append : (present ++ absent).Nodup := by
  refine List.nodup_append'.mpr
    ⟨hpresent.imp Nat.ne_of_lt, habsent.imp Nat.ne_of_lt, fun id hid hlost ↦ ?_⟩
  have hfalse := (hgone id hlost).2.2
  rw [hthere id hid] at hfalse
  cases hfalse

/-- So they are no more than have been handed out. -/
theorem length_add_le (hlegible : s.IsLegible session) :
    present.length + absent.length ≤ s.lastObject := by
  have hsub : present ++ absent ⊆ List.range' 1 s.lastObject := by
    intro id hid
    have hbounds : 0 < id ∧ id ≤ s.lastObject := by
      rcases List.mem_append.mp hid with hid | hid
      · exact hlegible.pos_and_le_last (hthere id hid)
      · exact ⟨(hgone id hid).1, (hgone id hid).2.1⟩
    exact List.mem_range'_1.mpr (by omega)
  have hle :=
    (List.subperm_of_subset (nodup_append hpresent habsent hthere hgone) hsub).length_le
  rwa [List.length_append, List.length_range'] at hle

end Counting

/-- No more objects have been recorded than ids have been handed out. -/
theorem objectCount_le (h : ledger.Tracks stale s) (hlegible : s.IsLegible session) :
    ledger.objectCount ≤ s.lastObject := by
  have hle := length_add_le h.objectKeys h.deletedObjects
    (fun id hid ↦ h.hasObject (hasObject_iff.mpr hid)) (fun id hid ↦ h.gone id (.inl hid)) hlegible
  rwa [keys, List.length_map] at hle

theorem bundleCount_le (h : ledger.Tracks stale s) (hlegible : s.IsLegible session) :
    ledger.bundleCount ≤ s.lastObject := by
  have hle := length_add_le h.bundleKeys h.deletedBundles (fun id hid ↦ h.hasObject_bundle hid)
    (fun id hid ↦ h.gone id (.inr hid)) hlegible
  rwa [keys, List.length_map] at hle

/-- The numbers of names are not used again after a deletion. -/
theorem objectCount_deleteBundle (h : ledger.Tracks stale s)
    (hmem : (bundle, members) ∈ ledger.bundles) :
    ledger.objectCount ≤ (ledger.deleteBundle bundle).objectCount := by
  have hsub : keys ledger.objects ++ ledger.deletedObjects ⊆
      keys (ledger.deleteBundle bundle).objects ++
        (ledger.deleteBundle bundle).deletedObjects := by
    intro id hid
    rw [List.mem_append, mem_deletedObjects_deleteBundle h.bundleKeys hmem]
    rcases List.mem_append.mp hid with hid | hid
    · by_cases htaken : id ∈ members
      · exact .inr (.inl ⟨htaken, hasObject_iff.mpr hid⟩)
      · obtain ⟨record, hrecord⟩ := mem_keys.mp hid
        exact .inl (mem_keys.mpr
          ⟨record, (mem_objects_deleteBundle h.bundleKeys hmem).mpr ⟨hrecord, htaken⟩⟩)
    · exact .inr (.inr hid)
  have hnodup := nodup_append h.objectKeys h.deletedObjects
    (fun id hid ↦ h.hasObject (hasObject_iff.mpr hid)) fun id hid ↦ h.gone id (.inl hid)
  have hle := (List.subperm_of_subset hnodup hsub).length_le
  simp only [List.length_append, keys, List.length_map] at hle
  exact hle

/-- A row that stays is still the last of its name and kind. -/
theorem getLast?_of_without {gone : Nat → Prop} (hgone : s.Without gone s') (hstays : ¬ gone id)
    {space name kind : Value}
    (hlast : (s.namedOfKind space name kind).getLast?.map (·.id) = some id) :
    (s'.namedOfKind space name kind).getLast?.map (·.id) = some id := by
  obtain ⟨row, hrow, rfl⟩ := Option.map_eq_some_iff.mp hlast
  obtain ⟨earlier, hsplit⟩ := List.getLast?_eq_some_iff.mp hrow
  have hmem : row ∈ s.namedOfKind space name kind := List.mem_of_getLast? hrow
  have hleft : row ∈ s'.objects :=
    (hgone.objects row).mpr ⟨(List.mem_filter.mp hmem).1, hstays⟩
  have hfilter : s'.namedOfKind space name kind =
      (s.namedOfKind space name kind).filter fun row ↦ decide (row ∈ s'.objects) := by
    have hthinned : s'.objects = s.objects.filter fun row ↦ decide (row ∈ s'.objects) :=
      hgone.thinned
    rw [Store.namedOfKind, Store.namedOfKind, List.filter_filter]
    refine (congrArg (List.filter _) hthinned).trans ?_
    rw [List.filter_filter]
    exact List.filter_congr fun row _ ↦ Bool.and_comm _ _
  rw [hfilter, hsplit, List.filter_append, List.filter_singleton, decide_eq_true hleft]
  simp

section Deleting

variable (h : ledger.Tracks [] s) (hlegible : s.IsLegible session)
  (hmem : (bundle, members) ∈ ledger.bundles)
  (hgone : s.Without (fun id ↦ id = bundle ∨ id ∈ s.memberObjects bundle) s')

section Staying

include h hlegible hmem

/-- The objects of the ledger are no bundles, so only the members among them go. -/
theorem stays_of_not_mem (hid : ledger.hasObject id = true) (hother : id ∉ members) :
    ¬ (id = bundle ∨ id ∈ s.memberObjects bundle) := by
  obtain ⟨row, hrow, hrowId, hkind⟩ := h.bundles bundle members hmem
  rw [← h.members bundle members hmem List.not_mem_nil id, not_or]
  refine ⟨?_, hother⟩
  rintro rfl
  rw [h.not_isBundle hlegible hid hrow hrowId] at hkind
  cases hkind

/-- The members of the ledger are no bundles, so no other bundle goes. -/
theorem bundle_stays {others : List Nat} (hin : (id, others) ∈ ledger.bundles)
    (hother : id ≠ bundle) : ¬ (id = bundle ∨ id ∈ s.memberObjects bundle) := by
  rintro (hsame | hmember)
  · exact hother hsame
  · obtain ⟨own, hown, hownId, hkind⟩ := h.bundles id others hin
    rw [h.not_isBundle hlegible (h.known bundle members hmem id hmember) hown hownId] at hkind
    cases hkind

end Staying

section Leaving

include h hmem hgone

/-- What is left is neither the bundle nor a member of it. -/
theorem hasObject_of_without (hid : s'.hasObject id = true) :
    s.hasObject id = true ∧ id ≠ bundle ∧ id ∉ members := by
  obtain ⟨o, ho, rfl⟩ := Store.hasObject_iff.mp hid
  obtain ⟨ho, hkept⟩ := (hgone.objects o).mp ho
  rw [← h.members bundle members hmem List.not_mem_nil o.id, not_or] at hkept
  exact ⟨Store.hasObject_iff.mpr ⟨o, ho, rfl⟩, hkept⟩

include hlegible

/-- Another bundle keeps the members that it does not share with the one that goes. -/
theorem mem_memberObjects_of_without {others : List Nat} {member : Nat}
    (hin : (id, others) ∈ ledger.bundles) (hother : id ≠ bundle) :
    member ∈ s'.memberObjects id ↔ member ∈ s.memberObjects id ∧ member ∉ members := by
  constructor
  · intro hmember
    obtain ⟨r, hr, rfl, hholds, rfl⟩ := Store.mem_memberObjects.mp hmember
    obtain ⟨hr, -, hkept⟩ := (hgone.relations r).mp hr
    rw [← h.members bundle members hmem List.not_mem_nil r.destination, not_or] at hkept
    exact ⟨Store.mem_memberObjects.mpr ⟨r, hr, rfl, hholds, rfl⟩, hkept.2⟩
  · rintro ⟨hmember, hkept⟩
    have hdestination := h.known id others hin member hmember
    obtain ⟨r, hr, rfl, hholds, rfl⟩ := Store.mem_memberObjects.mp hmember
    exact Store.mem_memberObjects.mpr ⟨r, (hgone.relations r).mpr ⟨hr,
      h.bundle_stays hlegible hmem hin hother,
      h.stays_of_not_mem hlegible hmem hdestination hkept⟩, rfl, hholds, rfl⟩

/-- What is recorded as deleted has gone. -/
theorem gone_deleteBundle
    (hid : id ∈ (ledger.deleteBundle bundle).deletedObjects ∨
      id ∈ (ledger.deleteBundle bundle).deletedBundles) :
    0 < id ∧ id ≤ s'.lastObject ∧ s'.hasObject id = false := by
  have hkeys := h.bundleKeys
  rw [mem_deletedObjects_deleteBundle hkeys hmem, mem_deletedBundles_deleteBundle hkeys hmem] at hid
  rw [hgone.lastObject, ← and_assoc, Bool.eq_false_iff]
  rcases hid with (⟨htaken, hobject⟩ | hdeleted) | (rfl | hdeleted)
  · refine ⟨hlegible.pos_and_le_last (h.hasObject hobject), fun hleft ↦ ?_⟩
    exact (h.hasObject_of_without hmem hgone hleft).2.2 htaken
  · obtain ⟨hpos, hle, hmissing⟩ := h.gone id (.inl hdeleted)
    refine ⟨⟨hpos, hle⟩, fun hleft ↦ ?_⟩
    exact Bool.eq_false_iff.mp hmissing (h.hasObject_of_without hmem hgone hleft).1
  · refine ⟨hlegible.pos_and_le_last (h.hasObject_bundle (mem_keys.mpr ⟨members, hmem⟩)),
      fun hleft ↦ ?_⟩
    exact (h.hasObject_of_without hmem hgone hleft).2.1 rfl
  · obtain ⟨hpos, hle, hmissing⟩ := h.gone id (.inr hdeleted)
    refine ⟨⟨hpos, hle⟩, fun hleft ↦ ?_⟩
    exact Bool.eq_false_iff.mp hmissing (h.hasObject_of_without hmem hgone hleft).1

/-- The bundle and its members are deleted from the store and from the ledger. -/
theorem deleteBundle : (ledger.deleteBundle bundle).Tracks [] s' := by
  have hkeys := h.bundleKeys
  have hknown : ∀ id, (ledger.deleteBundle bundle).hasObject id = true ↔
      ledger.hasObject id = true ∧ id ∉ members := by
    intro id
    rw [hasObject_deleteBundle hkeys, taken_eq hkeys hmem]
  have hspace : (ledger.deleteBundle bundle).space = ledger.space := by
    rw [deleteBundle_of_mem hkeys hmem]
  have hobjectKeys : (keys (ledger.deleteBundle bundle).objects).Pairwise (· < ·) := by
    rw [deleteBundle_of_mem hkeys hmem]
    exact h.objectKeys.sublist (List.filter_sublist.map _)
  have hbundleKeys : (keys (ledger.deleteBundle bundle).bundles).Pairwise (· < ·) := by
    rw [keys_deleteBundle hkeys hmem]
    exact hkeys.sublist (List.filter_sublist.map _)
  refine ⟨hspace ▸ h.space, ?_, ?_, ?_, ?_, ?_, ?_, ?_, ?_, ?_,
    fun id hid ↦ h.gone_deleteBundle hlegible hmem hgone hid, hobjectKeys, hbundleKeys, ?_, ?_⟩
  · intro id record hin
    obtain ⟨hin, hother⟩ := (mem_objects_deleteBundle hkeys hmem).mp hin
    have hid : ledger.hasObject id = true := hasObject_iff.mpr (mem_keys.mpr ⟨record, hin⟩)
    rw [hspace]
    exact getLast?_of_without hgone (h.stays_of_not_mem hlegible hmem hid hother)
      (h.latest id record hin)
  · intro id record hin
    obtain ⟨n, hn, hname⟩ :=
      h.numbered id record ((mem_objects_deleteBundle hkeys hmem).mp hin).1
    exact ⟨n, Nat.lt_of_lt_of_le hn (h.objectCount_deleteBundle hmem), hname⟩
  · intro id record hin
    exact h.plain id record ((mem_objects_deleteBundle hkeys hmem).mp hin).1
  · intro id record hin
    obtain ⟨hin, hsource, hdestination⟩ := (mem_relations_deleteBundle hkeys hmem).mp hin
    obtain ⟨hfrom, hto⟩ := h.ends id record hin
    exact (hgone.relations _).mpr ⟨h.relations id record hin,
      h.stays_of_not_mem hlegible hmem hfrom hsource,
      h.stays_of_not_mem hlegible hmem hto hdestination⟩
  · intro id record hin
    obtain ⟨hin, hsource, hdestination⟩ := (mem_relations_deleteBundle hkeys hmem).mp hin
    obtain ⟨hfrom, hto⟩ := h.ends id record hin
    exact ⟨(hknown _).mpr ⟨hfrom, hsource⟩, (hknown _).mpr ⟨hto, hdestination⟩⟩
  · intro id record hin
    exact h.kinds id record ((mem_relations_deleteBundle hkeys hmem).mp hin).1
  · intro id kept hin
    obtain ⟨others, hin, hother, -⟩ := (mem_bundles_deleteBundle hkeys hmem).mp hin
    obtain ⟨own, hown, rfl, hownKind⟩ := h.bundles id others hin
    exact ⟨own, (hgone.objects own).mpr ⟨hown, h.bundle_stays hlegible hmem hin hother⟩, rfl,
      hownKind⟩
  · intro id kept hin _ member
    obtain ⟨others, hin, hother, rfl⟩ := (mem_bundles_deleteBundle hkeys hmem).mp hin
    rw [h.mem_memberObjects_of_without hlegible hmem hgone hin hother,
      ← h.members id others hin List.not_mem_nil member]
    simp
  · intro id kept hin member hmember
    obtain ⟨others, hin, hother, -⟩ := (mem_bundles_deleteBundle hkeys hmem).mp hin
    obtain ⟨hmember, hkept⟩ :=
      (h.mem_memberObjects_of_without hlegible hmem hgone hin hother).mp hmember
    exact (hknown member).mpr ⟨h.known id others hin member hmember, hkept⟩
  · rw [deleteBundle_of_mem hkeys hmem]
    exact pairwise_foldr_insert h.deletedObjects
  · rw [deleteBundle_of_mem hkeys hmem]
    exact pairwise_insert h.deletedBundles

end Leaving

end Deleting

end Tracks

/-! ### Bundles are looked at again -/

/-- What is done about one bundle: it is forgotten if it is gone, and what the store records of it
is recorded if it is not. -/
inductive Settles (s : Store) (bundle : Nat) (ledger : Ledger) : Ledger → Prop
  | gone (habsent : s.hasObject bundle = false) :
      Settles s bundle ledger (ledger.deleteBundle bundle)
  | kept {row : ObjectRow} (hrow : row ∈ s.objects) (hrowId : row.id = bundle)
      (hkind : row.isBundle = true) (members : List Nat)
      (hmembers : ∀ member, member ∈ members ↔
        member ∈ s.memberObjects bundle ∧ ledger.hasObject member = true) :
      Settles s bundle ledger (ledger.putBundle bundle members)

/-- Some bundles are still to be looked at. One of them may have gone from the store; without it
the ledger follows the store but for the members of these bundles. -/
structure Reviewing (rest : List Nat) (s : Store) (ledger : Ledger) (lost : Nat) : Prop where
  absent : s.hasObject lost = false
  tracks : (ledger.deleteBundle lost).Tracks rest s
  waits : lost ∈ keys ledger.bundles → lost ∈ rest
  listed : ∀ other ∈ rest, other = lost ∨ other ∈ keys (ledger.deleteBundle lost).bundles
  bounds : ∀ other ∈ rest, 0 < other ∧ other ≤ s.lastObject
  bundleKeys : (keys ledger.bundles).Pairwise (· < ·)

/-- A ledger that follows the store but for some members can be brought in line. -/
theorem Tracks.reviewing (h : ledger.Tracks stale s) (hlegible : s.IsLegible session)
    (hstale : stale ⊆ keys ledger.bundles) : ledger.Reviewing (keys ledger.bundles) s 0 := by
  have hzero : s.hasObject 0 = false := by
    refine Bool.eq_false_iff.mpr fun hzero ↦ ?_
    exact Nat.lt_irrefl 0 (hlegible.pos_and_le_last hzero).1
  have hnone : 0 ∉ keys ledger.bundles := fun hkey ↦
    Bool.eq_false_iff.mp hzero (h.hasObject_bundle hkey)
  have hsame : ledger.deleteBundle 0 = ledger := deleteBundle_of_not_mem hnone
  refine ⟨hzero, ?_, id, fun other hother ↦ .inr ?_,
    fun other hother ↦ hlegible.pos_and_le_last (h.hasObject_bundle hother), h.bundleKeys⟩
  · rw [hsame]
    exact h.mono hstale
  · rwa [hsame]

/-- A ledger whose bundle has been deleted from the store can be brought in line. -/
theorem Tracks.reviewing_of_deleted (h : (ledger.deleteBundle bundle).Tracks stale s)
    (hlegible : s.IsLegible session) (hkeys : (keys ledger.bundles).Pairwise (· < ·))
    (hmem : (bundle, members) ∈ ledger.bundles) (habsent : s.hasObject bundle = false)
    (hstale : stale ⊆ keys ledger.bundles) :
    ledger.Reviewing (keys ledger.bundles) s bundle := by
  have hlisted : ∀ other ∈ keys ledger.bundles, other = bundle ∨
      other ∈ keys (ledger.deleteBundle bundle).bundles := by
    intro other hother
    by_cases hsame : other = bundle
    · exact .inl hsame
    · obtain ⟨others, hothers⟩ := mem_keys.mp hother
      refine .inr ?_
      rw [keys_deleteBundle hkeys hmem]
      exact mem_keys.mpr ⟨others, mem_erase.mpr ⟨hothers, hsame⟩⟩
  refine ⟨habsent, h.mono hstale, id, hlisted, fun other hother ↦ ?_, hkeys⟩
  rcases hlisted other hother with rfl | hkey
  · obtain ⟨hpos, hle, -⟩ :=
      h.gone other (.inr ((mem_deletedBundles_deleteBundle hkeys hmem).mpr (.inl rfl)))
    exact ⟨hpos, hle⟩
  · exact hlegible.pos_and_le_last (h.hasObject_bundle hkey)

namespace Reviewing

variable {lost : Nat}

theorem not_mem_keys (h : ledger.Reviewing rest s lost) :
    lost ∉ keys (ledger.deleteBundle lost).bundles := fun hkey ↦
  Bool.eq_false_iff.mp h.absent (h.tracks.hasObject_bundle hkey)

/-- The bundle that has gone is forgotten. -/
theorem forget (h : ledger.Reviewing (lost :: rest) s lost) :
    (ledger.deleteBundle lost).Reviewing rest s lost := by
  have hforgotten := h.not_mem_keys
  have hsame := deleteBundle_of_not_mem hforgotten
  refine ⟨h.absent, ?_, fun hkey ↦ absurd hkey hforgotten, ?_,
    fun other hother ↦ h.bounds other (List.mem_cons_of_mem _ hother), h.tracks.bundleKeys⟩
  · rw [hsame]
    refine { h.tracks with members := fun id members hmem hfresh ↦ ?_ }
    refine h.tracks.members id members hmem fun hstale ↦ ?_
    rcases List.mem_cons.mp hstale with rfl | hstale
    · exact hforgotten (mem_keys.mpr ⟨members, hmem⟩)
    · exact hfresh hstale
  · rw [hsame]
    exact fun other hother ↦ h.listed other (List.mem_cons_of_mem _ hother)

/-- One bundle less has to be looked at. -/
theorem settle (h : ledger.Reviewing (bundle :: rest) s lost)
    (hsettles : ledger.Settles s bundle ledger') : ledger'.Reviewing rest s lost := by
  have hlisted := h.listed bundle List.mem_cons_self
  cases hsettles with
  | gone habsent =>
    obtain rfl : bundle = lost := hlisted.resolve_right fun hkey ↦
      Bool.eq_false_iff.mp habsent (h.tracks.hasObject_bundle hkey)
    exact h.forget
  | @kept row hrow hrowId hkind members hmembers =>
    have hne : bundle ≠ lost := by
      rintro rfl
      exact Bool.eq_false_iff.mp h.absent (Store.hasObject_iff.mpr ⟨row, hrow, hrowId⟩)
    obtain ⟨before, hbefore⟩ := mem_keys.mp (hlisted.resolve_left hne)
    have hswap := deleteBundle_putBundle members hne h.bundleKeys
    refine ⟨h.absent, ?_, fun hkey ↦ ?_, fun other hother ↦ ?_,
      fun other hother ↦ h.bounds other (List.mem_cons_of_mem _ hother),
      pairwise_put h.bundleKeys⟩
    · rw [hswap]
      refine h.tracks.putBundle hrow hrowId hkind (fun member ↦ ?_)
        (h.tracks.known bundle before hbefore)
      rw [List.mem_filter, hmembers, Bool.not_eq_true', List.contains_eq_mem,
        decide_eq_false_iff_not]
      refine ⟨fun hkept ↦ hkept.1.1, fun hmember ↦ ?_⟩
      obtain ⟨hknown, hstays⟩ := (hasObject_deleteBundle h.bundleKeys).mp
        (h.tracks.known bundle before hbefore member hmember)
      exact ⟨⟨hmember, hknown⟩, hstays⟩
    · rcases (mem_keys_put h.bundleKeys).mp hkey with hsame | hkey
      · exact absurd hsame.symm hne
      · exact (List.mem_cons.mp (h.waits hkey)).resolve_left (Ne.symm hne)
    · rw [hswap]
      refine (h.listed other (List.mem_cons_of_mem _ hother)).imp_right fun hkey ↦ ?_
      exact (mem_keys_put h.tracks.bundleKeys).mpr (.inr hkey)

/-- When all bundles have been looked at the ledger follows the store. -/
theorem tracks_of_nil (h : ledger.Reviewing [] s lost) : ledger.Tracks [] s := by
  have hnone : lost ∉ keys ledger.bundles := fun hkey ↦ List.not_mem_nil (h.waits hkey)
  have htracks := h.tracks
  rwa [deleteBundle_of_not_mem hnone] at htracks

end Reviewing

end Provenance.Simulation.Ledger
