import Mathlib.Data.List.Perm.Subperm
import Provenance.Proofs.DatedObjects
import Provenance.Proofs.QuietOperations

/-!
One directory of objects. Whatever is looked up by a space and a name, with a kind or without one,
as an object or as a bundle, the last match or all of them, is read off the same objects
(`Store.goingBy`): those of the store that go by this name, in the order in which they were made. An
enumeration of a space is the part of the enumeration of all objects that is in the space
(`lookups_agree`).
-/

set_option autoImplicit false
set_option relaxedAutoImplicit false

namespace Provenance

/-! ### Objects of a name -/

theorem ObjectKind.code_injective : Function.Injective ObjectKind.code := by
  intro kind other h
  have hsame := other.ofCode_code
  rw [← h, kind.ofCode_code] at hsame
  exact Except.ok.inj hsame

/-- The object is in this space under this name and is of this kind, or is no bundle if no kind is
asked for. -/
def ObjectRow.goesBy (space name : String) (kind : Option ObjectKind) (row : ObjectRow) : Bool :=
  row.space == .text space && row.name == .text name &&
    match kind with
    | some kind => row.kind == .int kind.code
    | none => !row.isBundle

/-- An object that is no bundle is of one of the other kinds. -/
theorem ObjectRow.IsLegible.goesBy_none_iff {row : ObjectRow} (h : row.IsLegible)
    (space name : String) : row.goesBy space name none = true ↔
      row.goesBy space name (some .entity) = true ∨
        row.goesBy space name (some .activity) = true ∨
          row.goesBy space name (some .agent) = true := by
  obtain ⟨kind, hkind⟩ := h.kind
  simp only [goesBy, isBundle, hkind, Bool.and_eq_true]
  cases kind <;> simp [ObjectKind.code]

namespace Store

variable {s : Store} {now : Value} {space name : String} {kind : Option ObjectKind}

/-- The objects that go by a name, in the order in which they were made. -/
def goingBy (s : Store) (space name : String) (kind : Option ObjectKind) : List ObjectRow :=
  s.objects.filter (·.goesBy space name kind)

theorem mem_goingBy {row : ObjectRow} : row ∈ s.goingBy space name kind ↔
    row ∈ s.objects ∧ row.goesBy space name kind = true := List.mem_filter

theorem named_eq_goingBy (s : Store) (space name : String) :
    s.named (.text space) (.text name) = s.goingBy space name none := rfl

theorem namedOfKind_eq_goingBy (s : Store) (space name : String) (kind : ObjectKind) :
    s.namedOfKind (.text space) (.text name) (.int kind.code) = s.goingBy space name (some kind) :=
  rfl

theorem Reachable.goingBy_ascends (h : s.Reachable) (space name : String)
    (kind : Option ObjectKind) : (s.goingBy space name kind).Pairwise (·.id < ·.id) :=
  (List.pairwise_map.mp (h.pairwise_ids .objects)).filter _

theorem Reachable.nodup_goingBy (h : s.Reachable) (space name : String)
    (kind : Option ObjectKind) : (s.goingBy space name kind).Nodup :=
  (h.goingBy_ascends space name kind).imp fun hlt heq ↦ Nat.ne_of_lt hlt (congrArg _ heq)

/-- No object goes by a name as two kinds. -/
theorem disjoint_goingBy {kind kind' : ObjectKind} (hne : kind ≠ kind') :
    (s.goingBy space name (some kind)).Disjoint (s.goingBy space name (some kind')) := by
  intro row hrow hrow'
  have hkind := (Bool.and_eq_true_iff.mp (mem_goingBy.mp hrow).2).2
  have hkind' := (Bool.and_eq_true_iff.mp (mem_goingBy.mp hrow').2).2
  rw [beq_iff_eq] at hkind hkind'
  rw [hkind] at hkind'
  exact hne (ObjectKind.code_injective (Value.int.inj hkind'))

/-- Without a kind are found those that are found as one of the kinds other than bundles. -/
theorem Reachable.perm_goingBy (h : s.Reachable) (hlegible : s.ObjectsLegible)
    (space name : String) : (s.goingBy space name none).Perm
      (s.goingBy space name (some .entity) ++ s.goingBy space name (some .activity) ++
        s.goingBy space name (some .agent)) := by
  have hnodup := fun kind ↦ h.nodup_goingBy space name kind
  have hfirst := (hnodup _).append (hnodup _)
    (disjoint_goingBy (show .entity ≠ .activity by decide))
  have hall := hfirst.append (hnodup (some .agent)) (List.disjoint_append_left.mpr
    ⟨disjoint_goingBy (by decide), disjoint_goingBy (by decide)⟩)
  refine (List.perm_ext_iff_of_nodup (hnodup none) hall).mpr fun row ↦ ?_
  simp only [List.mem_append, mem_goingBy, ← and_or_left, or_assoc]
  exact and_congr_right fun hrow ↦ (hlegible row hrow).goesBy_none_iff space name

/-- The last of the objects of a name has the greatest id. -/
theorem Reachable.le_last_goingBy (h : s.Reachable) {row last : ObjectRow}
    (hlast : (s.goingBy space name kind).getLast? = some last)
    (hrow : row ∈ s.goingBy space name kind) : row.id ≤ last.id := by
  obtain ⟨earlier, hrows⟩ := List.getLast?_eq_some_iff.mp hlast
  have hascends := h.goingBy_ascends space name kind
  rw [hrows] at hascends hrow
  rcases List.mem_append.mp hrow with hearlier | hsame
  · exact Nat.le_of_lt ((List.pairwise_append.mp hascends).2.2 row hearlier last (.head _))
  · exact Nat.le_of_eq (congrArg _ (List.mem_singleton.mp hsame))

/-! ### Requests -/

theorem latest_eq (rows : List ObjectRow) : latest rows =
    ((rows.getLast?.map (·.id)).map fun id : Nat ↦ [Value.int id]).toList := by
  rw [Option.map_map]
  rfl

section Requests

variable (hspace : space.utf8ByteSize ≤ Limit.space) (hname : name.utf8ByteSize ≤ Limit.name)

include hspace hname

theorem yields_lastObject (kind : Option ObjectKind) :
    s.Yields now (Request.lookupObject space name kind)
      (((s.goingBy space name kind).getLast?.map (·.id)).elim (.error .notFound) .ok) s := by
  cases kind with
  | none =>
    refine yields_oneId .lookupObject [.text space, .text name] ?_ (by simp) rfl rfl ?_
    · rw [Request.lookupObject, Argument.checkName_eq hspace hname]
      rfl
    · change latest (s.named (.text space) (.text name)) = _
      rw [named_eq_goingBy, latest_eq]
  | some kind =>
    refine yields_oneId .lookupObjectByType [.text space, .text name, .int kind.code] ?_ (by simp)
      rfl rfl ?_
    · rw [Request.lookupObject, Argument.checkName_eq hspace hname]
      rfl
    · change latest (s.namedOfKind (.text space) (.text name) (.int kind.code)) = _
      rw [namedOfKind_eq_goingBy, latest_eq]

theorem yields_lastBundle : s.Yields now (Request.lookupBundle name space)
    (((s.goingBy space name (some .bundle)).getLast?.map (·.id)).elim (.error .notFound) .ok)
      s := by
  refine yields_oneId .lookupBundle [.text space, .text name] ?_ (by simp) rfl rfl ?_
  · rw [Request.lookupBundle, Argument.checkName_eq hspace hname]
    rfl
  · change latest (s.namedOfKind (.text space) (.text name) (.int ObjectKind.bundle.code)) = _
    rw [namedOfKind_eq_goingBy, latest_eq]

theorem yields_namedObjects (hlegible : s.ObjectsLegible) (reader : Reader)
    (kind : Option ObjectKind) : s.Yields now (Request.lookupObjects reader space name kind)
      (.ok ((s.goingBy space name kind).map (·.found reader))) s := by
  have hrow : ∀ row ∈ s.goingBy space name kind, row.IsLegible := fun row hrow ↦
    hlegible row (mem_goingBy.mp hrow).1
  cases kind with
  | none =>
    refine yields_list .lookupObjectExt [.text space, .text name] ?_ (by simp) rfl rfl
      (congrArg withTimes (s.named_eq_goingBy space name))
      (fun row h ↦ (hrow row h).isReadable_found) fun row h ↦ (hrow row h).reads_found reader
    rw [Request.lookupObjects, Argument.checkName_eq hspace hname]
    rfl
  | some kind =>
    refine yields_list .lookupObjectExtByType [.text space, .text name, .int kind.code] ?_
      (by simp) rfl rfl (congrArg withTimes (s.namedOfKind_eq_goingBy space name kind))
      (fun row h ↦ (hrow row h).isReadable_found) fun row h ↦ (hrow row h).reads_found reader
    rw [Request.lookupObjects, Argument.checkName_eq hspace hname]
    rfl

theorem yields_namedBundles (hlegible : s.ObjectsLegible) (reader : Reader) :
    s.Yields now (Request.lookupBundles reader name space)
      (.ok ((s.goingBy space name (some .bundle)).map (·.found reader))) s := by
  have hrow : ∀ row ∈ s.goingBy space name (some .bundle), row.IsLegible := fun row hrow ↦
    hlegible row (mem_goingBy.mp hrow).1
  refine yields_list .lookupBundleExt [.text space, .text name] ?_ (by simp) rfl rfl
    (congrArg withTimes (s.namedOfKind_eq_goingBy space name .bundle))
    (fun row h ↦ (hrow row h).isReadable_found) fun row h ↦ (hrow row h).reads_found reader
  rw [Request.lookupBundles, Argument.checkName_eq hspace hname]
  rfl

end Requests

/-- The objects that are no bundles. -/
def plain (s : Store) : List ObjectRow := s.objects.filter fun row ↦ !row.isBundle

theorem yields_plainObjects (hlegible : s.ObjectsLegible) (reader : Reader) :
    s.Yields now (Request.allObjects reader none)
      (.ok (s.plain.map (·.shown reader))) s :=
  have hrow : ∀ row ∈ s.plain, row.IsLegible := fun row hrow ↦
    hlegible row (List.mem_filter.mp hrow).1
  yields_list .getAllObjects [] rfl (by simp) rfl rfl rfl
    (fun row h ↦ (hrow row h).isReadable) fun row h ↦ (hrow row h).reads_shown reader

theorem yields_plainObjectsIn (hlegible : s.ObjectsLegible) (reader : Reader)
    (hspace : space.utf8ByteSize ≤ Limit.space) :
    s.Yields now (Request.allObjects reader (some space))
      (.ok ((s.plain.filter fun row ↦ row.space == .text space).map (·.shown reader))) s := by
  have hrows : s.plainObjectsIn (.text space) =
      (s.plain.filter fun row ↦ row.space == .text space).map objectColumns := by
    rw [plain, List.filter_filter, plainObjectsIn]
    refine congrArg (List.map objectColumns) (List.filter_congr fun row _ ↦ ?_)
    exact Bool.and_comm _ _
  have hrow : ∀ row ∈ s.plain.filter fun row ↦ row.space == .text space, row.IsLegible := by
    intro row hrow
    exact hlegible row (List.mem_filter.mp (List.mem_filter.mp hrow).1).1
  refine yields_list .getAllObjectsWithPrefix [.text space] ?_ (by simp) rfl rfl hrows
    (fun row h ↦ (hrow row h).isReadable) fun row h ↦ (hrow row h).reads_shown reader
  rw [Request.allObjects, Argument.checkLength_eq _ hspace]
  rfl

end Store

/-! ### Answers -/

/-- The answer of a lookup that has handed out all of these. -/
def Answer.afterFound (flags : LookupFlags) (entries : List LookupEntry) : Except Error Answer :=
  if entries.isEmpty && !flags.noFail then .error .notFound else .ok (.afterRows entries)

namespace FileSite

variable {site : FileSite} {s t : Store} {backend : FileBackend} {space name : String}

/-- An object that is there was there before, if one with no smaller id was. -/
theorem Leads.hasObject_of_le {past present : State} (h : site.Leads past present)
    (hreach : site.Reachable past) (hpast : past.Keeps site t) (hpresent : present.Keeps site s)
    {row : ObjectRow} (hrow : row ∈ s.objects) {id : Nat} (hthere : t.hasObject id = true)
    (hle : row.id ≤ id) : t.hasObject row.id = true := by
  obtain ⟨t', htreach, ht'⟩ := hreach.exists_store
  obtain rfl := hpast.unique ht'
  obtain ⟨other, hother, rfl⟩ := Store.hasObject_iff.mp hthere
  have hcounted := (htreach.counted .objects).le_last (List.mem_map_of_mem hother)
  obtain ⟨ids, u, hassigns, -⟩ := h.exists_assigns hpast .objects
  obtain ⟨s', hs', -, -, habsent⟩ := hassigns.counts hpast htreach
  obtain rfl := hpresent.unique hs'
  by_contra hmissing
  rw [Bool.not_eq_true, Store.Table.hasObject_eq_false_iff] at hmissing
  exact (habsent row.id (Nat.le_trans hle hcounted) hmissing).2 (List.mem_map_of_mem hrow)

/-- What lookups of a space and a name find, by the kind that is asked for, and what enumerations of
all objects and of the space list. -/
structure Directory (site : FileSite) (s : Store) (backend : FileBackend) (space name : String)
    (found : Option ObjectKind → List LookupEntry) : Prop where
  /-- All matches are listed, and if there is none, it is a failure unless the flags allow it. -/
  lookupObjects : ∀ kind flags, site.Gives s backend (.lookupObjects space name kind flags)
    (Answer.afterFound flags (found kind)) ((found kind).map .lookup)
  lookupObject : ∀ kind, site.Gives s backend (.lookupObject space name kind)
    (Answer.ofId ((found kind).getLast?.map (·.id))) []
  lookupBundles : ∀ flags, site.Gives s backend (.lookupBundles name space flags)
    (Answer.afterFound flags (found (some .bundle))) ((found (some .bundle)).map .lookup)
  lookupBundle : site.Gives s backend (.lookupBundle name space)
    (Answer.ofId ((found (some .bundle)).getLast?.map (·.id))) []
  /-- The matches are the objects that go by the name, however they were made. -/
  matches_iff : ∀ kind id, id ∈ (found kind).map (·.id) ↔
    ∃ o ∈ s.objects, o.goesBy space name kind = true ∧ o.id = id
  ascends : ∀ kind, ((found kind).map (·.id)).Pairwise (· < ·)
  /-- Without a kind the matches of the other kinds are merged, without those that are bundles. -/
  merges : (found none).Perm
    (found (some .entity) ++ found (some .activity) ++ found (some .agent))
  /-- The last match was made last: whenever it was there, every other one was. -/
  newest : ∀ kind entry, (found kind).getLast? = some entry → ∀ past t, site.Reachable past →
    site.Leads past (.opened backend) → past.Keeps site t → t.hasObject entry.id = true →
      ∀ o ∈ s.objects, o.goesBy space name kind = true → t.hasObject o.id = true
  allObjects : site.Gives s backend (.allObjects none) (.ok (.afterRows s.plain))
    (Listed.objects backend.reader s.plain)
  /-- Of all objects exactly those are listed for a space that are stored in it. -/
  allObjects_space : site.Gives s backend (.allObjects (some space))
    (.ok (.afterRows (s.plain.filter fun row ↦ row.space == .text space)))
    (Listed.objects backend.reader (s.plain.filter fun row ↦ row.space == .text space))

/-- In every state of every dated file, with nothing planned to fail, all lookups of a space and a
name are read off the same objects, and so are the enumerations. -/
theorem lookups_agree (hdated : site.Dated (.opened backend)) (hquiet : site.Quiet s backend)
    (hspace : space.utf8ByteSize ≤ Limit.space) (hname : name.utf8ByteSize ≤ Limit.name) :
    site.Directory s backend space name fun kind ↦
      (s.goingBy space name kind).map (·.found backend.reader) := by
  have hreach := hdated.reachable
  obtain ⟨hs, hsettled⟩ := hreach.settled hquiet.keeps
  have hlegible := hdated.objectsLegible hquiet.keeps
  have hids : ∀ kind, ((s.goingBy space name kind).map (·.found backend.reader)).map (·.id) =
      (s.goingBy space name kind).map (·.id) := fun kind ↦ List.map_map
  have hlast : ∀ kind, ((s.goingBy space name kind).map (·.found backend.reader)).getLast?.map
      (·.id) = (s.goingBy space name kind).getLast?.map (·.id) := by
    intro kind
    rw [← List.getLast?_map, hids, List.getLast?_map]
  constructor
  case lookupObjects =>
    exact fun kind flags ↦ hquiet.gives_of_ok hreach
      (Store.yields_namedObjects hspace hname hlegible backend.reader kind)
  case lookupObject =>
    intro kind
    rw [hlast]
    exact hquiet.gives_ofId hreach rfl (Store.yields_lastObject hspace hname kind)
  case lookupBundles =>
    exact fun flags ↦ hquiet.gives_of_ok hreach
      (Store.yields_namedBundles hspace hname hlegible backend.reader)
  case lookupBundle =>
    rw [hlast]
    exact hquiet.gives_ofId hreach rfl (Store.yields_lastBundle hspace hname)
  case matches_iff =>
    intro kind id
    rw [hids]
    simp only [List.mem_map, Store.mem_goingBy, and_assoc]
  case ascends =>
    intro kind
    rw [hids]
    exact List.pairwise_map.mpr (hs.goingBy_ascends space name kind)
  case merges =>
    rw [← List.map_append, ← List.map_append]
    exact (hs.perm_goingBy hlegible space name).map _
  case newest =>
    intro kind entry hentry past t hpast hleads ht hthere o ho hgoes
    rw [List.getLast?_map] at hentry
    obtain ⟨last, hlast, rfl⟩ := Option.map_eq_some_iff.mp hentry
    exact hleads.hasObject_of_le hpast ht hsettled ho hthere
      (hs.le_last_goingBy hlast (Store.mem_goingBy.mpr ⟨ho, hgoes⟩))
  case allObjects =>
    rw [← Answer.afterRows_map (·.shown backend.reader), Listed.objects_eq]
    exact hquiet.gives_of_ok hreach (Store.yields_plainObjects hlegible backend.reader)
  case allObjects_space =>
    rw [← Answer.afterRows_map (·.shown backend.reader), Listed.objects_eq]
    exact hquiet.gives_of_ok hreach (Store.yields_plainObjectsIn hlegible backend.reader hspace)

/-- Objects of one name: an entity, a bundle, an agent and an object made as a bundle. The agent is
deleted as the member of another bundle. -/
def namesakes : List Operation :=
  [.createSession ⟨"00:00:00:00:00:00", "user", 1, "program", "program --flag"⟩,
    .createObject "" "namesake" .entity 1, .createBundle "namesake" "" 1,
    .createObject "" "namesake" .agent 1, .createObject "" "namesake" .bundle 1,
    .createBundle "other" "" 1, .addRelation 5 3 .inBundle, .deleteBundle 5]

/-- The entity is left as the last that is no bundle, and both bundles are found. -/
theorem namesakes_found :
    ∃ s, named.Quiet s (named.afterAll namesakes first) ∧
      (named.Directory s (named.afterAll namesakes first) "" "namesake" fun kind ↦
        (s.goingBy "" "namesake" kind).map (·.found (named.afterAll namesakes first).reader)) ∧
      (s.goingBy "" "namesake" none).map (·.id) = [1] ∧
      (s.goingBy "" "namesake" (some .bundle)).map (·.id) = [2, 4] := by
  have hquiet : named.Quiet _ (named.afterAll namesakes first) :=
    ⟨⟨⟨rfl, by decide⟩, rfl⟩, .inl rfl, fun _ ↦ rfl⟩
  have hdirectory := lookups_agree (dated_first.afterAll isClock_first namesakes) hquiet
    (show "".utf8ByteSize ≤ Limit.space by decide)
    (show "namesake".utf8ByteSize ≤ Limit.name by decide)
  exact ⟨_, hquiet, hdirectory, by decide +kernel, by decide +kernel⟩

end FileSite

end Provenance
