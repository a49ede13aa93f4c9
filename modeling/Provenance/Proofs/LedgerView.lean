import Provenance.Proofs.LegibleStore
import Provenance.Simulation.Ledger

/-!
What a ledger tells of a store. `Ledger.TrueOf` says that everything in a ledger is so in a store,
and `Ledger.Tracks` what has to hold besides for that to stay so: which names are given out, that
objects are found by their names, that relations lead from and to objects of the ledger. Every way
in which a store grows and a ledger is written keeps it: what is made need not be recorded
(`Tracks.withObject`, `Tracks.withRelation`), and can be (`Tracks.recordObject`,
`Tracks.recordBundle`, `Tracks.recordRelation`, `Tracks.recordMember`).
-/

set_option autoImplicit false
set_option relaxedAutoImplicit false

namespace Provenance.Simulation.Ledger

open Ascending

variable {s s' : Store} {ledger ledger' : Ledger} {stale rest : List Nat} {session id bundle : Nat}
  {members : List Nat}

/-! ### Ledgers -/

/-- How many objects have been recorded. -/
def objectCount (ledger : Ledger) : Nat := ledger.objects.length + ledger.deletedObjects.length

/-- How many bundles have been recorded. -/
def bundleCount (ledger : Ledger) : Nat := ledger.bundles.length + ledger.deletedBundles.length

theorem hasObject_iff : ledger.hasObject id = true ↔ id ∈ keys ledger.objects := by
  simp only [hasObject, List.any_eq_true, beq_iff_eq, keys, List.mem_map]

/-! ### True views -/

/-- Everything that the ledger tells of the store is so: what it has recorded is there with the same
fields, the members of its bundles are those that the store records, and what has been deleted from
it is gone. -/
structure TrueOf (s : Store) (ledger : Ledger) : Prop where
  objects : ∀ id record, (id, record) ∈ ledger.objects → ∃ row ∈ s.objects, row.id = id ∧
    row.space = .text ledger.space ∧ row.name = .text record.name ∧
      row.kind = .int record.kind.code
  relations : ∀ id record, (id, record) ∈ ledger.relations →
    ⟨id, record.source, record.destination, .int record.kind.code⟩ ∈ s.relations
  bundles : ∀ id members, (id, members) ∈ ledger.bundles → ∃ row ∈ s.objects, row.id = id ∧
    row.isBundle = true
  members : ∀ id members, (id, members) ∈ ledger.bundles →
    ∀ member, member ∈ members ↔ member ∈ s.memberObjects id
  deletedObjects : ∀ id ∈ ledger.deletedObjects, s.hasObject id = false
  deletedBundles : ∀ id ∈ ledger.deletedBundles, s.hasObject id = false

/-- The ledger follows the store, but may not know all members of the stale bundles. An object is
the last of its name and kind, and the names of objects are numbered. -/
structure Tracks (stale : List Nat) (s : Store) (ledger : Ledger) : Prop where
  space : ledger.space.utf8ByteSize ≤ Limit.space
  latest : ∀ id record, (id, record) ∈ ledger.objects →
    (s.namedOfKind (.text ledger.space) (.text record.name)
      (.int record.kind.code)).getLast?.map (·.id) = some id
  numbered : ∀ id record, (id, record) ∈ ledger.objects →
    ∃ n < ledger.objectCount, record.name = s!"obj{n}"
  plain : ∀ id record, (id, record) ∈ ledger.objects → record.kind ≠ .bundle
  relations : ∀ id record, (id, record) ∈ ledger.relations →
    ⟨id, record.source, record.destination, .int record.kind.code⟩ ∈ s.relations
  ends : ∀ id record, (id, record) ∈ ledger.relations →
    ledger.hasObject record.source = true ∧ ledger.hasObject record.destination = true
  kinds : ∀ id record, (id, record) ∈ ledger.relations → record.kind.isBookkeeping = false
  bundles : ∀ id members, (id, members) ∈ ledger.bundles → ∃ row ∈ s.objects, row.id = id ∧
    row.isBundle = true
  members : ∀ id members, (id, members) ∈ ledger.bundles → id ∉ stale →
    ∀ member, member ∈ members ↔ member ∈ s.memberObjects id
  known : ∀ id members, (id, members) ∈ ledger.bundles → ∀ member ∈ s.memberObjects id,
    ledger.hasObject member = true
  gone : ∀ id, id ∈ ledger.deletedObjects ∨ id ∈ ledger.deletedBundles →
    0 < id ∧ id ≤ s.lastObject ∧ s.hasObject id = false
  objectKeys : (keys ledger.objects).Pairwise (· < ·)
  bundleKeys : (keys ledger.bundles).Pairwise (· < ·)
  deletedObjects : ledger.deletedObjects.Pairwise (· < ·)
  deletedBundles : ledger.deletedBundles.Pairwise (· < ·)

namespace Tracks

theorem mono (h : ledger.Tracks stale s) (hsub : stale ⊆ rest) : ledger.Tracks rest s :=
  { h with
    members := fun id members hmem hfresh ↦
      h.members id members hmem fun hstale ↦ hfresh (hsub hstale) }

/-- The row of a recorded object. -/
theorem exists_row (h : ledger.Tracks stale s) {record : ObjectRecord}
    (hmem : (id, record) ∈ ledger.objects) : ∃ row ∈ s.objects, row.id = id ∧
      row.space = .text ledger.space ∧ row.name = .text record.name ∧
        row.kind = .int record.kind.code := by
  obtain ⟨row, hrow, hid⟩ := Option.map_eq_some_iff.mp (h.latest id record hmem)
  obtain ⟨hrow, htest⟩ := List.mem_filter.mp (List.mem_of_getLast? hrow)
  simp only [Value.equalsText, Value.equalsNumber, Value.inTextColumn, Value.inNumericColumn,
    Value.isNull, Bool.not_false, Bool.true_and, Bool.and_eq_true, beq_iff_eq] at htest
  exact ⟨row, hrow, hid, htest.1.1, htest.1.2, htest.2⟩

/-- Where no bundle is stale the ledger is a true view. -/
theorem trueOf (h : ledger.Tracks [] s) : ledger.TrueOf s where
  objects _ _ hmem := h.exists_row hmem
  relations := h.relations
  bundles := h.bundles
  members id members hmem := h.members id members hmem List.not_mem_nil
  deletedObjects id hid := (h.gone id (.inl hid)).2.2
  deletedBundles id hid := (h.gone id (.inr hid)).2.2

theorem hasObject (h : ledger.Tracks stale s) (hid : ledger.hasObject id = true) :
    s.hasObject id = true := by
  obtain ⟨record, hmem⟩ := mem_keys.mp (hasObject_iff.mp hid)
  obtain ⟨row, hrow, hrowId, -⟩ := h.exists_row hmem
  exact Store.hasObject_iff.mpr ⟨row, hrow, hrowId⟩

/-- The bundles of the ledger are bundles of the store. -/
theorem exists_bundle (h : ledger.Tracks stale s) (hkey : bundle ∈ keys ledger.bundles) :
    ∃ row ∈ s.objects, row.id = bundle ∧ row.isBundle = true := by
  obtain ⟨members, hmem⟩ := mem_keys.mp hkey
  exact h.bundles bundle members hmem

theorem hasObject_bundle (h : ledger.Tracks stale s) (hkey : bundle ∈ keys ledger.bundles) :
    s.hasObject bundle = true := by
  obtain ⟨row, hrow, hrowId, -⟩ := h.exists_bundle hkey
  exact Store.hasObject_iff.mpr ⟨row, hrow, hrowId⟩

/-- No object of the ledger is a bundle. -/
theorem not_isBundle (h : ledger.Tracks stale s) (hlegible : s.IsLegible session)
    (hid : ledger.hasObject id = true) {row : ObjectRow} (hrow : row ∈ s.objects)
    (hrowId : row.id = id) : row.isBundle = false := by
  obtain ⟨record, hmem⟩ := mem_keys.mp (hasObject_iff.mp hid)
  obtain ⟨own, hown, hownId, -, -, hkind⟩ := h.exists_row hmem
  obtain rfl := hlegible.eq_of_id_eq hrow hown (hrowId.trans hownId.symm)
  have hplain := h.plain id record hmem
  rw [ObjectRow.isBundle, hkind]
  cases hcase : record.kind <;> first
    | rfl
    | exact absurd hcase hplain

/-! ### The store grows -/

theorem mem_memberObjects_withRelation {row : RelationRow} {member : Nat} :
    member ∈ (s.withRelation row).memberObjects bundle ↔ member ∈ s.memberObjects bundle ∨
      row.source = bundle ∧ row.holdsObject = true ∧ row.destination = member := by
  simp only [Store.mem_memberObjects, Store.withRelation, List.mem_append, List.mem_singleton,
    or_and_right, exists_or, exists_eq_left]

theorem objectName_inj {n m : Nat} (h : s!"obj{n}" = s!"obj{m}") : n = m := by
  have htext : toString n = toString m := (String.append_right_inj _).mp h
  have hdigits : Nat.toDigits 10 n = Nat.toDigits 10 m := by
    rw [Nat.toString_eq_ofList_toDigits, Nat.toString_eq_ofList_toDigits] at htext
    exact String.ofList_injective htext
  rw [← Nat.ofDigitChars_ten_toDigits (n := n), hdigits, Nat.ofDigitChars_ten_toDigits]

/-- A new object comes last of its name and kind, and changes nothing for another. -/
theorem namedOfKind_withObject (now : Value) (space name space' name' : String)
    (kind kind' : ObjectKind) (session : Nat) :
    (s.withObject (s.nextObject now space name kind session)).namedOfKind (.text space')
        (.text name') (.int kind'.code) =
      s.namedOfKind (.text space') (.text name') (.int kind'.code) ++
        if space = space' ∧ name = name' ∧ kind = kind' then
          [s.nextObject now space name kind session]
        else [] := by
  have hcode : kind.code = kind'.code ↔ kind = kind' := by
    cases kind <;> cases kind' <;> decide
  change (s.objects ++ [_]).filter _ = _
  rw [List.filter_append, List.filter_singleton]
  refine congrArg (s.namedOfKind _ _ _ ++ ·) ?_
  simp [Store.nextObject, Value.equalsText, Value.equalsNumber, Value.inTextColumn,
    Value.inNumericColumn, Value.isNull, hcode, and_assoc]

/-- A new object that is a bundle, or has the next name, is not taken for one of the ledger. -/
theorem withObject (h : ledger.Tracks stale s) (now : Value) (space name : String)
    (kind : ObjectKind) (session : Nat)
    (hnew : kind = .bundle ∨ name = s!"obj{ledger.objectCount}") :
    ledger.Tracks stale (s.withObject (s.nextObject now space name kind session)) := by
  refine { h with latest := ?_, bundles := ?_, gone := ?_ }
  · intro id record hmem
    have hother : ¬ (space = ledger.space ∧ name = record.name ∧ kind = record.kind) := by
      rintro ⟨-, hname, hkind⟩
      rcases hnew with rfl | rfl
      · exact h.plain id record hmem hkind.symm
      · obtain ⟨n, hn, hnumber⟩ := h.numbered id record hmem
        have hsame := objectName_inj (hname.trans hnumber)
        omega
    rw [namedOfKind_withObject, if_neg hother, List.append_nil]
    exact h.latest id record hmem
  · intro id members hmem
    obtain ⟨row, hrow, hbundle⟩ := h.bundles id members hmem
    exact ⟨row, List.mem_append_left _ hrow, hbundle⟩
  · intro id hid
    obtain ⟨hpos, hle, habsent⟩ := h.gone id hid
    refine ⟨hpos, Nat.le_succ_of_le hle, ?_⟩
    have hother : (s.lastObject + 1 == id) = false := beq_false_of_ne (by omega)
    change (s.objects ++ [_]).any _ = false
    rw [List.any_append, List.any_cons, List.any_nil, Bool.or_false]
    exact Bool.or_eq_false_iff.mpr ⟨habsent, hother⟩

/-- A new relation is nothing that the ledger tells of, but for one that gives a member to a
bundle. -/
theorem withRelation (h : ledger.Tracks stale s) (source destination : Nat) {kind : RelationKind}
    (hmember : kind = .inBundle → source ∈ stale ∧ ledger.hasObject destination = true) :
    ledger.Tracks stale (s.withRelation (s.nextRelation source destination kind)) := by
  have hholds : (s.nextRelation source destination kind).holdsObject = true → kind = .inBundle := by
    cases kind <;> first
      | exact fun _ ↦ rfl
      | exact fun h ↦ Bool.noConfusion h
  refine { h with relations := ?_, members := ?_, known := ?_ }
  · intro id record hmem
    exact List.mem_append_left _ (h.relations id record hmem)
  · intro id members hmem hfresh member
    rw [h.members id members hmem hfresh member, mem_memberObjects_withRelation]
    refine ⟨.inl, fun hnew ↦ hnew.resolve_right ?_⟩
    rintro ⟨rfl, hkind, -⟩
    exact hfresh (hmember (hholds hkind)).1
  · intro id members hmem member hnew
    rcases mem_memberObjects_withRelation.mp hnew with hold | ⟨-, hkind, rfl⟩
    · exact h.known id members hmem member hold
    · exact (hmember (hholds hkind)).2

theorem withProperty (h : ledger.Tracks stale s) (row : PropertyRow) :
    ledger.Tracks stale (s.withProperty row) :=
  ⟨h.space, h.latest, h.numbered, h.plain, h.relations, h.ends, h.kinds, h.bundles, h.members,
    h.known, h.gone, h.objectKeys, h.bundleKeys, h.deletedObjects, h.deletedBundles⟩

/-! ### The ledger is written -/

/-- The last object of the next name is recorded. -/
theorem putObject (h : ledger.Tracks stale s) {record : ObjectRecord}
    (hlatest : (s.namedOfKind (.text ledger.space) (.text record.name)
      (.int record.kind.code)).getLast?.map (·.id) = some id)
    (hname : record.name = s!"obj{ledger.objectCount}") (hplain : record.kind ≠ .bundle)
    (hnew : id ∉ keys ledger.objects) : (ledger.putObject id record).Tracks stale s := by
  have hkept : ∀ {other}, ledger.hasObject other = true →
      (ledger.putObject id record).hasObject other = true := by
    intro other hother
    rw [hasObject_iff] at hother ⊢
    exact (mem_keys_put h.objectKeys).mpr (.inr hother)
  have hcount : (ledger.putObject id record).objectCount = ledger.objectCount + 1 := by
    have hlength : (put id record ledger.objects).length = ledger.objects.length + 1 :=
      length_put hnew
    simp only [objectCount, Ledger.putObject, hlength]
    omega
  refine { h with
    latest := ?_, numbered := ?_, plain := ?_, ends := ?_, known := ?_
    objectKeys := pairwise_put h.objectKeys }
  · intro id' record' hmem
    rcases eq_or_mem_of_mem_put hmem with hsame | hmem
    · cases hsame
      exact hlatest
    · exact h.latest id' record' hmem
  · intro id' record' hmem
    rw [hcount]
    rcases eq_or_mem_of_mem_put hmem with hsame | hmem
    · cases hsame
      exact ⟨ledger.objectCount, Nat.lt_succ_self _, hname⟩
    · obtain ⟨n, hn, hnumber⟩ := h.numbered id' record' hmem
      exact ⟨n, Nat.lt_succ_of_lt hn, hnumber⟩
  · intro id' record' hmem
    rcases eq_or_mem_of_mem_put hmem with hsame | hmem
    · cases hsame
      exact hplain
    · exact h.plain id' record' hmem
  · intro id' record' hmem
    exact (h.ends id' record' hmem).imp hkept hkept
  · intro id' members hmem member hmember
    exact hkept (h.known id' members hmem member hmember)

/-- A relation of the store between objects of the ledger is recorded. -/
theorem putRelation (h : ledger.Tracks stale s) {record : RelationRecord}
    (hrow : ⟨id, record.source, record.destination, .int record.kind.code⟩ ∈ s.relations)
    (hsource : ledger.hasObject record.source = true)
    (hdestination : ledger.hasObject record.destination = true)
    (hkind : record.kind.isBookkeeping = false) :
    (ledger.putRelation id record).Tracks stale s := by
  refine { h with relations := ?_, ends := ?_, kinds := ?_ }
  · intro id' record' hmem
    rcases eq_or_mem_of_mem_put hmem with hsame | hmem
    · cases hsame
      exact hrow
    · exact h.relations id' record' hmem
  · intro id' record' hmem
    rcases eq_or_mem_of_mem_put hmem with hsame | hmem
    · cases hsame
      exact ⟨hsource, hdestination⟩
    · exact h.ends id' record' hmem
  · intro id' record' hmem
    rcases eq_or_mem_of_mem_put hmem with hsame | hmem
    · cases hsame
      exact hkind
    · exact h.kinds id' record' hmem

/-- What the store records of a bundle is recorded. -/
theorem putBundle (h : ledger.Tracks (bundle :: rest) s) {row : ObjectRow}
    (hrow : row ∈ s.objects) (hrowId : row.id = bundle) (hkind : row.isBundle = true)
    (hmembers : ∀ member, member ∈ members ↔ member ∈ s.memberObjects bundle)
    (hknown : ∀ member ∈ s.memberObjects bundle, ledger.hasObject member = true) :
    (ledger.putBundle bundle members).Tracks rest s := by
  have hput : ∀ {id members'}, (id, members') ∈ (ledger.putBundle bundle members).bundles →
      (id, members') = (bundle, members) ∨ (id, members') ∈ ledger.bundles ∧ id ≠ bundle :=
    fun hmem ↦ (mem_put h.bundleKeys).mp hmem
  refine { h with
    bundles := ?_, members := ?_, known := ?_, bundleKeys := pairwise_put h.bundleKeys }
  · intro id members' hmem
    rcases hput hmem with hsame | ⟨hmem, -⟩
    · cases hsame
      exact ⟨row, hrow, hrowId, hkind⟩
    · exact h.bundles id members' hmem
  · intro id members' hmem hfresh
    rcases hput hmem with hsame | ⟨hmem, hne⟩
    · cases hsame
      exact hmembers
    · refine h.members id members' hmem fun hstale ↦ ?_
      exact (List.mem_cons.mp hstale).elim hne hfresh
  · intro id members' hmem
    rcases hput hmem with hsame | ⟨hmem, -⟩
    · cases hsame
      exact hknown
    · exact h.known id members' hmem

/-! ### What is made is recorded -/

/-- The next object is made and recorded under the next name. -/
theorem recordObject (h : ledger.Tracks stale s) (hlegible : s.IsLegible session) (now : Value)
    {kind : ObjectKind} (hplain : kind ≠ .bundle) :
    (ledger.putObject (s.lastObject + 1) ⟨s!"obj{ledger.objectCount}", kind⟩).Tracks stale
      (s.withObject
        (s.nextObject now ledger.space s!"obj{ledger.objectCount}" kind session)) := by
  refine (h.withObject now ledger.space _ kind session (.inr rfl)).putObject ?_ rfl hplain ?_
  · rw [namedOfKind_withObject, if_pos ⟨rfl, rfl, rfl⟩, List.getLast?_append]
    rfl
  · intro hkey
    have hpresent := h.hasObject (hasObject_iff.mpr hkey)
    rw [hlegible.hasObject_next] at hpresent
    cases hpresent

/-- The next bundle is made and recorded without members. -/
theorem recordBundle (h : ledger.Tracks [] s) (hlegible : s.IsLegible session) (now : Value)
    (space name : String) :
    (ledger.putBundle (s.lastObject + 1) []).Tracks []
      (s.withObject (s.nextObject now space name .bundle session)) := by
  have hnone : ∀ member, member ∉ s.memberObjects (s.lastObject + 1) := by
    intro member hmember
    obtain ⟨r, hr, hsource, -⟩ := Store.mem_memberObjects.mp hmember
    have hpresent := hlegible.anchored.sources r hr
    rw [hsource, hlegible.hasObject_next] at hpresent
    cases hpresent
  have hmade := h.withObject now space name .bundle session (.inl rfl)
  refine (hmade.mono (List.nil_subset [s.lastObject + 1])).putBundle
    (List.mem_append_right _ (List.mem_singleton.mpr rfl)) rfl rfl ?_ ?_
  · exact fun member ↦ ⟨fun hmember ↦ absurd hmember List.not_mem_nil,
      fun hmember ↦ absurd hmember (hnone member)⟩
  · exact fun member hmember ↦ absurd hmember (hnone member)

/-- The next relation is made and recorded. -/
theorem recordRelation (h : ledger.Tracks stale s) {source destination : Nat}
    {kind : RelationKind} (hkind : kind.isBookkeeping = false)
    (hsource : ledger.hasObject source = true)
    (hdestination : ledger.hasObject destination = true) :
    (ledger.putRelation (s.lastRelation + 1) ⟨source, destination, kind⟩).Tracks stale
      (s.withRelation (s.nextRelation source destination kind)) := by
  have hplain : kind ≠ .inBundle := by
    rintro rfl
    cases hkind
  exact (h.withRelation source destination fun hmember ↦ absurd hmember hplain).putRelation
    (List.mem_append_right _ (List.mem_singleton.mpr rfl)) hsource hdestination hkind

/-- An object is made a member of a bundle, and the ledger need not know of it. -/
theorem withMember (h : ledger.Tracks [] s) (bundle : Nat) {member : Nat}
    (hmember : ledger.hasObject member = true) :
    ledger.Tracks [bundle] (s.withRelation (s.nextRelation bundle member .inBundle)) :=
  (h.mono (List.nil_subset [bundle])).withRelation bundle member fun _ ↦
    ⟨List.mem_singleton.mpr rfl, hmember⟩

/-- An object is made a member of a bundle, and is recorded as one. -/
theorem recordMember (h : ledger.Tracks [] s) {member : Nat}
    (hmem : (bundle, members) ∈ ledger.bundles) (hmember : ledger.hasObject member = true) :
    (ledger.addMember bundle member).Tracks []
      (s.withRelation (s.nextRelation bundle member .inBundle)) := by
  have hadded : ledger.addMember bundle member =
      ledger.putBundle bundle (Ascending.insert member members) := by
    rw [addMember, get?_eq_some h.bundleKeys hmem, Option.getD_some]
  obtain ⟨row, hrow, hrowId, hkind⟩ := h.bundles bundle members hmem
  have hmembers : ∀ other, other ∈ (s.withRelation
      (s.nextRelation bundle member .inBundle)).memberObjects bundle ↔
        other ∈ s.memberObjects bundle ∨ other = member := by
    intro other
    rw [mem_memberObjects_withRelation]
    exact or_congr_right ⟨fun hnew ↦ hnew.2.2.symm, fun hsame ↦ ⟨rfl, rfl, hsame.symm⟩⟩
  rw [hadded]
  refine (h.withMember bundle hmember).putBundle hrow hrowId hkind (fun other ↦ ?_) fun other ↦ ?_
  · rw [mem_insert, hmembers, h.members bundle members hmem List.not_mem_nil, or_comm]
  · rw [hmembers]
    rintro (hold | rfl)
    · exact h.known bundle members hmem other hold
    · exact hmember

end Tracks

end Provenance.Simulation.Ledger
