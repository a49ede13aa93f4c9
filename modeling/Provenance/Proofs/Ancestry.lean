import Mathlib.Data.List.Perm.Subperm
import Mathlib.Data.List.TFAE
import Provenance.Proofs.LegibleStore
import Provenance.Proofs.QuietOperations

/-!
Four views of one graph. Whether one object is an immediate ancestor of another, which relations
leave an object, which enter one and which relation of a kind leads from one object to another is
all read off the same edges, the relations of the vocabulary (`Store.edges`). Listed for all
objects, from either end, they come out as the same relations and each once; what a bundle records
is never among them (`ancestry_agrees`).
-/

set_option autoImplicit false
set_option relaxedAutoImplicit false

namespace Provenance

/-! ### Entries -/

/-- The entry about a relation that is seen from one of its ends. -/
def RelationRow.seenFrom (direction : Direction) (row : RelationRow) : RelationInfo where
  id := row.id
  queried := direction.near row
  other := direction.far row
  kind := row.kind.toRelationKind.toOption.getD .used

/-- The entry about the same relation that is seen from its other end. -/
def RelationInfo.turned (info : RelationInfo) : RelationInfo :=
  ⟨info.id, info.other, info.queried, info.kind⟩

theorem RelationRow.seenFrom_eq {row : RelationRow} {kind : RelationKind}
    (h : row.kind = .int kind.code) (direction : Direction) :
    row.seenFrom direction = ⟨row.id, direction.near row, direction.far row, kind⟩ := by
  have hcode : (Value.int kind.code).toRelationKind = .ok kind := kind.ofCode_code
  rw [seenFrom, h, hcode]
  rfl

/-- Rows that are grouped by a key are the same rows. -/
theorem perm_grouped {ρ : Type} (key : ρ → Nat) {keys : List Nat} {rows : List ρ}
    (hkeys : keys.Nodup) (hcovered : ∀ row ∈ rows, key row ∈ keys) :
    (keys.flatMap fun x ↦ rows.filter fun row ↦ key row == x).Perm rows := by
  induction keys generalizing rows with
  | nil =>
    rw [List.eq_nil_iff_forall_not_mem.mpr fun row hrow ↦ List.not_mem_nil (hcovered row hrow)]
    exact .refl _
  | cons x keys ih =>
    obtain ⟨hx, hkeys⟩ := List.nodup_cons.mp hkeys
    have hcovered' : ∀ row ∈ rows.filter fun row ↦ !(key row == x), key row ∈ keys := by
      intro row hrow
      obtain ⟨hrow, hne⟩ := List.mem_filter.mp hrow
      refine (List.mem_cons.mp (hcovered row hrow)).resolve_left ?_
      simpa using hne
    have hgroups : (keys.flatMap fun y ↦ rows.filter fun row ↦ key row == y) =
        keys.flatMap fun y ↦
          (rows.filter fun row ↦ !(key row == x)).filter fun row ↦ key row == y := by
      refine List.flatMap_congr fun y hy ↦ ?_
      have hne : y ≠ x := fun heq ↦ hx (heq ▸ hy)
      rw [List.filter_filter]
      refine List.filter_congr fun row _ ↦ ?_
      by_cases hsame : key row = y
      · simp [hsame, hne]
      · simp [hsame]
    rw [List.flatMap_cons, hgroups]
    exact ((ih hkeys hcovered').append_left _).trans (List.filter_append_perm _ rows)

namespace Store

variable {s : Store} {now : Value} {a b x : Nat}

/-! ### Edges -/

/-- The relations of the vocabulary. -/
def edges (s : Store) : List RelationRow := s.relations.filter isPlain

/-- The relations of the vocabulary that leave or enter an object. -/
def edgesAt (s : Store) (direction : Direction) (x : Nat) : List RelationRow :=
  s.edges.filter fun r ↦ direction.near r == x

theorem mem_edgesAt {direction : Direction} {r : RelationRow} : r ∈ s.edgesAt direction x ↔
    r ∈ s.edges ∧ direction.near r = x := by
  rw [edgesAt, List.mem_filter, beq_iff_eq]

theorem holdsRelation_of_isPlain {r : RelationRow} (h : isPlain r = true) :
    r.holdsRelation = false := by
  rw [← Bool.not_eq_true]
  intro hholds
  rw [isPlain, beq_iff_eq.mp hholds] at h
  cases h

/-- Both ends of an edge are objects. -/
theorem Anchored.near_mem_ids (h : s.Anchored) (direction : Direction) {r : RelationRow}
    (hr : r ∈ s.edges) : direction.near r ∈ Table.objects.ids s := by
  obtain ⟨hr, hplain⟩ := List.mem_filter.mp hr
  have hthere : s.hasObject (direction.near r) = true := by
    cases direction with
    | ancestors => exact h.sources r hr
    | descendants => exact h.destinations r hr (holdsRelation_of_isPlain hplain)
  obtain ⟨o, ho, hid⟩ := hasObject_iff.mp hthere
  exact List.mem_map.mpr ⟨o, ho, hid⟩

/-- The edges at all objects are all edges, each once. -/
theorem Reachable.perm_edges (h : s.Reachable) (direction : Direction) :
    ((Table.objects.ids s).flatMap (s.edgesAt direction)).Perm s.edges :=
  perm_grouped direction.near (h.counted .objects).nodup fun _ hr ↦
    h.anchored_numbered.1.near_mem_ids direction hr

/-- An edge that is seen from its end has the kind that it is stored with. -/
theorem KnownKinds.seenFrom (h : s.KnownKinds) (direction : Direction) {r : RelationRow}
    (hr : r ∈ s.edges) : ∃ kind : RelationKind, kind.isBookkeeping = false ∧
      r.kind = .int kind.code ∧
        r.seenFrom direction = ⟨r.id, direction.near r, direction.far r, kind⟩ := by
  obtain ⟨hr, hplain⟩ := List.mem_filter.mp hr
  obtain ⟨kind, hkind⟩ := h r hr
  rw [isPlain_eq hkind, Bool.not_eq_true'] at hplain
  exact ⟨kind, hplain, hkind, RelationRow.seenFrom_eq hkind direction⟩

/-- The entries about the edges at an object. -/
def entriesAt (s : Store) (direction : Direction) (x : Nat) : List RelationInfo :=
  (s.edgesAt direction x).map (·.seenFrom direction)

/-! ### Requests -/

theorem yields_entriesAt (hkinds : s.KnownKinds) (hpos : 0 < x) (hle : x ≤ Limit.id)
    (direction : Direction) : s.Yields now (Request.objectRelations x direction)
      (.ok (s.entriesAt direction x)) s := by
  obtain ⟨infos, hyields, hcolumns⟩ := yields_objectRelations now hkinds hpos hle direction
  have hedges : (s.relations.filter fun r ↦ direction.near r == x && isPlain r) =
      s.edgesAt direction x := List.filter_filter.symm
  have hinfos : infos = s.entriesAt direction x := by
    refine List.map_injective_iff.mpr RelationInfo.columns_injective (hcolumns.trans ?_)
    rw [hedges, entriesAt, List.map_map]
    refine List.map_congr_left fun r hr ↦ ?_
    obtain ⟨hr, hnear⟩ := mem_edgesAt.mp hr
    obtain ⟨kind, -, hkind, hseen⟩ := hkinds.seenFrom direction hr
    rw [Function.comp, hseen, RelationInfo.columns, hkind, hnear]
  rw [← hinfos]
  exact hyields

/-- An edge leads from one object to the other. -/
def hasEdge (s : Store) (a b : Nat) : Bool :=
  s.edges.any fun r ↦ r.source == a && r.destination == b

theorem hasEdge_iff : s.hasEdge a b = true ↔
    ∃ r ∈ s.edges, r.source = a ∧ r.destination = b := by
  simp only [hasEdge, List.any_eq_true, Bool.and_eq_true, beq_iff_eq]

/-- The query for an edge finds one relation if there are any. -/
theorem immediate_eq (s : Store) (a b : Nat) :
    ∃ id : Nat, s.immediate (.int a) (.int b) = if s.hasEdge a b then [[.int id]] else [] := by
  have hedges : s.hasEdge a b = !(s.relations.filter fun r ↦
      r.source == a && r.destination == b && isPlain r).isEmpty := by
    rw [Bool.eq_iff_iff, hasEdge_iff]
    simp [edges, and_assoc, and_comm, and_left_comm]
  simp only [immediate, idEquals_int]
  cases hfound : s.relations.filter fun r ↦
      r.source == a && r.destination == b && isPlain r with
  | nil =>
    rw [hfound] at hedges
    exact ⟨0, by rw [hedges]; rfl⟩
  | cons row rest =>
    rw [hfound] at hedges
    exact ⟨_, by rw [hedges]; rfl⟩

/-- The oldest relation of a kind from one object to another. -/
def oldestRelation (s : Store) (a b : Nat) (kind : RelationKind) : Option Nat :=
  (s.relations.find? fun r ↦
    r.source == a && r.destination == b && r.kind == .int kind.code).map (·.id)

/-- Along an edge, and only then, a relation of one of the kinds of the vocabulary is found. -/
theorem KnownKinds.exists_oldest_iff (h : s.KnownKinds) :
    (∃ kind : RelationKind, kind.isBookkeeping = false ∧
      (s.oldestRelation a b kind).isSome = true) ↔ s.hasEdge a b = true := by
  simp only [oldestRelation, Option.isSome_map, List.find?_isSome, Bool.and_eq_true, beq_iff_eq,
    hasEdge_iff]
  constructor
  · rintro ⟨kind, hplain, r, hr, ⟨hsource, hdestination⟩, hkind⟩
    refine ⟨r, List.mem_filter.mpr ⟨hr, ?_⟩, hsource, hdestination⟩
    rw [isPlain_eq hkind, hplain]
    rfl
  · rintro ⟨r, hr, hsource, hdestination⟩
    obtain ⟨kind, hplain, hkind, -⟩ := h.seenFrom .ancestors hr
    exact ⟨kind, hplain, r, (List.mem_filter.mp hr).1, ⟨hsource, hdestination⟩, hkind⟩

/-- Along an edge, and only then, an entry about one end leads to the other one. -/
theorem exists_entry_iff (direction : Direction) (x y : Nat) :
    (∃ info ∈ s.entriesAt direction x, info.other = y) ↔
      ∃ r ∈ s.edges, direction.near r = x ∧ direction.far r = y := by
  simp only [entriesAt, List.mem_map, mem_edgesAt]
  constructor
  · rintro ⟨info, ⟨r, ⟨hr, hnear⟩, rfl⟩, hfar⟩
    exact ⟨r, hr, hnear, hfar⟩
  · rintro ⟨r, hr, hnear, hfar⟩
    exact ⟨_, ⟨r, ⟨hr, hnear⟩, rfl⟩, hfar⟩

section Ends

variable (ha : 0 < a ∧ a ≤ Limit.id) (hb : 0 < b ∧ b ≤ Limit.id)

include ha hb

theorem yields_hasEdge :
    s.Yields now (Request.hasImmediateAncestor a b) (.ok (s.hasEdge a b)) s := by
  obtain ⟨id, hrows⟩ := s.immediate_eq a b
  have hreadable : Readable (if s.hasEdge a b then [[.int (id : Int)]] else []) := by
    split
    · exact readable_ids [id]
    · exact readable_nil
  refine yields_of_run ⟨.hasImmediateAncestor, [.int a, .int b], fun _ ↦
      (Reading.single 0 Value.toId .standard).andThen fun fetched ↦
        .stop (.ok fetched.toOption.isSome)⟩ ?_ (by simp [Request.IsPlain])
    (run_of_readable .hasImmediateAncestor [.int a, .int b] rfl rfl hrows hreadable) ?_
  · rw [Request.hasImmediateAncestor, Argument.id_eq _ ha.1 ha.2, Argument.id_eq _ hb.1 hb.2]
    rfl
  · cases s.hasEdge a b with
    | false => rfl
    | true =>
      simp [Request.readOff, Reading.single, Reading.andThen, Reading.closeIf,
        FetchOptions.standard, Reading.outcome, Value.isNull, Value.toId_int, Fetched.toOption]

theorem yields_oldestRelation (kind : RelationKind) :
    s.Yields now (Request.lookupRelation a b kind)
      ((s.oldestRelation a b kind).elim (.error .notFound) .ok) s := by
  have hrows : s.relationsBetween (.int a) (.int b) (.int kind.code) =
      ((s.oldestRelation a b kind).map fun id : Nat ↦ [Value.int id]).toList := by
    simp only [relationsBetween, idEquals_int, List.take_one, List.head?_filter, oldestRelation,
      Option.map_map]
    exact Option.toList_map.symm
  refine yields_oneId .lookupRelation [.int a, .int b, .int kind.code] ?_ (by simp) rfl rfl hrows
  rw [Request.lookupRelation, relationParams_eq kind ha hb]
  rfl

end Ends

/-- An entry is about an edge, with its ends and its kind. -/
theorem KnownKinds.mem_entries_iff (h : s.KnownKinds) {direction : Direction}
    {info : RelationInfo} : info ∈ s.entriesAt direction x ↔
      info.kind.isBookkeeping = false ∧ ∃ r ∈ s.relations, direction.near r = x ∧
        info.columns = (r.id, direction.near r, direction.far r, r.kind) := by
  constructor
  · intro hinfo
    obtain ⟨r, hr, rfl⟩ := List.mem_map.mp hinfo
    obtain ⟨hedge, hnear⟩ := mem_edgesAt.mp hr
    obtain ⟨kind, hplain, hkind, hseen⟩ := h.seenFrom direction hedge
    refine ⟨?_, r, (List.mem_filter.mp hedge).1, hnear, ?_⟩
    · rw [hseen]
      exact hplain
    · rw [hseen, RelationInfo.columns, hkind]
  · rintro ⟨hplain, r, hr, hnear, hcolumns⟩
    have hkind : r.kind = .int info.kind.code := (congrArg (·.2.2.2) hcolumns).symm
    have hedge : r ∈ s.edges := by
      refine List.mem_filter.mpr ⟨hr, ?_⟩
      rw [isPlain_eq hkind, hplain]
      rfl
    refine List.mem_map.mpr ⟨r, mem_edgesAt.mpr ⟨hedge, hnear⟩, ?_⟩
    refine RelationInfo.columns_injective ?_
    rw [hcolumns, RelationRow.seenFrom_eq hkind, RelationInfo.columns, hkind]

/-- The entries of all objects, seen from one end, are about all edges, each once. -/
theorem Reachable.perm_entries (h : s.Reachable) (direction : Direction) :
    ((Table.objects.ids s).flatMap (s.entriesAt direction)).Perm
      (s.edges.map (·.seenFrom direction)) := by
  change ((Table.objects.ids s).flatMap fun x ↦ (s.edgesAt direction x).map _).Perm _
  rw [← List.map_flatMap]
  exact (h.perm_edges direction).map _

end Store

/-! ### The operations -/

namespace FileSite

variable {site : FileSite} {s : Store} {backend : FileBackend}

/-- What is told of ancestors and descendants, with these entries about each object. -/
structure Ancestry (site : FileSite) (s : Store) (backend : FileBackend)
    (entries : Direction → Nat → List RelationInfo) : Prop where
  listed : ∀ direction x, 0 < x → x ≤ Limit.id →
    site.Gives s backend (.objectRelations x direction)
      (.ok (.afterRows (entries direction x))) ((entries direction x).map .relation)
  /-- One object is an immediate ancestor of another if an entry about either leads to the other,
  and if a relation of some kind of the vocabulary is found between them. -/
  agree : ∀ a b, 0 < a ∧ a ≤ Limit.id → 0 < b ∧ b ≤ Limit.id →
    ∃ (immediate : Bool) (found : RelationKind → Option Nat),
      site.Gives s backend (.hasImmediateAncestor a b) (.ok (.truth immediate)) [] ∧
      (∀ kind, site.Gives s backend (.lookupRelation a b kind) (Answer.ofId (found kind)) []) ∧
      [immediate = true, ∃ info ∈ entries .ancestors a, info.other = b,
        ∃ info ∈ entries .descendants b, info.other = a,
        ∃ kind : RelationKind, kind.isBookkeeping = false ∧ (found kind).isSome = true].TFAE
  /-- An entry is about a relation of the vocabulary, and has its id, its ends and its kind. -/
  entry_iff : ∀ direction x info, info ∈ entries direction x ↔
    info.kind.isBookkeeping = false ∧ ∃ r ∈ s.relations, direction.near r = x ∧
      info.columns = (r.id, direction.near r, direction.far r, r.kind)
  /-- Over all objects both directions have the same entries, seen from the two ends. -/
  same : (((Store.Table.objects.ids s).flatMap (entries .ancestors)).map (·.turned)).Perm
    ((Store.Table.objects.ids s).flatMap (entries .descendants))
  once : ∀ direction,
    (((Store.Table.objects.ids s).flatMap (entries direction)).map (·.id)).Nodup

/-- In every state of every file, with nothing planned to fail, ancestors and descendants are read
off the same edges. -/
theorem ancestry_agrees (hreach : site.Reachable (.opened backend))
    (hquiet : site.Quiet s backend) :
    site.Ancestry s backend s.entriesAt := by
  obtain ⟨hs, -⟩ := hreach.settled hquiet.keeps
  have hkinds := hs.knownKinds
  constructor
  case listed =>
    intro direction x hpos hle
    exact hquiet.gives_of_ok hreach (Store.yields_entriesAt hkinds hpos hle direction)
  case agree =>
    intro a b ha hb
    refine ⟨s.hasEdge a b, s.oldestRelation a b, ?_, fun kind ↦ ?_, ?_⟩
    · exact hquiet.gives_of_ok hreach (Store.yields_hasEdge ha hb)
    · exact hquiet.gives_ofId hreach rfl (Store.yields_oldestRelation ha hb kind)
    · refine List.tfae_of_forall (s.hasEdge a b = true) _ ?_
      simp only [List.forall_mem_cons, List.not_mem_nil, false_implies, implies_true, and_true,
        true_and]
      refine ⟨?_, ?_, hkinds.exists_oldest_iff⟩
      · exact (Store.exists_entry_iff .ancestors a b).trans Store.hasEdge_iff.symm
      · rw [Store.exists_entry_iff, Store.hasEdge_iff]
        exact exists_congr fun r ↦ and_congr_right fun _ ↦ and_comm
  case entry_iff => exact fun direction x info ↦ hkinds.mem_entries_iff
  case same =>
    have hturned : (s.edges.map (·.seenFrom .ancestors)).map (·.turned) =
        s.edges.map (·.seenFrom .descendants) := List.map_map
    refine ((hs.perm_entries .ancestors).map _).trans ?_
    rw [hturned]
    exact (hs.perm_entries .descendants).symm
  case once =>
    intro direction
    refine ((hs.perm_entries direction).map (·.id)).nodup_iff.mpr ?_
    rw [List.map_map]
    exact (hs.pairwise_ids .relations).nodup.sublist (List.filter_sublist.map _)

/-- One object uses another one, and a bundle has as members the first of them and the relation
between them. The ids of relations are ids of objects, too. -/
def recordedUse : List Operation :=
  [.createSession ⟨"00:00:00:00:00:00", "user", 1, "program", "program --flag"⟩,
    .createObject "" "used" .entity 1, .createObject "" "user" .activity 1,
    .createBundle "bundle" "" 1, .addRelation 2 1 .used, .addRelation 3 2 .inBundle,
    .addRelation 3 1 .bundleRelation]

/-- The object that is used has one descendant, although the bundle leads to its id, too, and the
bundle has no ancestors. -/
theorem recorded_use_ancestry :
    ∃ s, named.Quiet s (named.afterAll recordedUse first) ∧
      named.Ancestry s (named.afterAll recordedUse first) s.entriesAt ∧
      s.entriesAt .descendants 1 = [⟨1, 1, 2, .used⟩] ∧ s.entriesAt .ancestors 3 = [] := by
  have hquiet : named.Quiet _ (named.afterAll recordedUse first) :=
    ⟨⟨⟨rfl, by decide⟩, rfl⟩, .inl rfl, fun _ ↦ rfl⟩
  exact ⟨_, hquiet, ancestry_agrees (reachable_first.afterAll recordedUse) hquiet,
    by decide +kernel, by decide +kernel⟩

end FileSite

end Provenance
