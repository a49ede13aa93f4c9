import Provenance.Proofs.Notes
import Provenance.Proofs.ObjectDirectory
import Provenance.Proofs.Patterns

/-!
Looking for objects by their properties. The exact lookup finds the objects that have a property of
this space, key and value, and the lookup by a pattern those that have a property whose value the
pattern matches; both find each object once and in ascending order (`FileSite.property_lookups`). A
value matches itself, so whatever is found by its value is found by this value as a pattern, and the
pattern `%` finds every object that has a property.

Only what stands before the first NUL is compared with a pattern, of the pattern and of the value.
-/

set_option autoImplicit false
set_option relaxedAutoImplicit false

namespace Provenance

/-- The pattern matches the value, as far as both are seen. -/
def Text.MatchesSeen (pattern text : String) : Prop :=
  Matches (untilNul pattern.toList) (untilNul text.toList)

namespace PropertyRow

/-- The property is this one. -/
def Is (space key value : String) (row : PropertyRow) : Prop :=
  row.space = .text space ∧ row.key = .text key ∧ row.value = .text value

instance (space key value : String) : DecidablePred (Is space key value) := fun row ↦
  inferInstanceAs (Decidable (row.space = .text space ∧ row.key = .text key ∧
    row.value = .text value))

/-- The pattern matches the value of the property. -/
def MatchedBy (pattern : String) (row : PropertyRow) : Prop :=
  ∃ text, row.value = .text text ∧ Text.MatchesSeen pattern text

/-- A property with this value is matched by its value. -/
theorem Is.matchedBy {space key value : String} {row : PropertyRow} (h : row.Is space key value) :
    row.MatchedBy value :=
  ⟨value, h.2.2, Text.matches_self _⟩

end PropertyRow

namespace Store

variable {s : Store} {row : PropertyRow} {space key value pattern : String}

/-- The objects that have a property so, in ascending order and each once. -/
structure Owners (s : Store) (holds : PropertyRow → Prop) (ids : List Nat) : Prop where
  ascend : ids.Pairwise (· < ·)
  mem_iff : ∀ id, id ∈ ids ↔
    s.hasObject id = true ∧ ∃ row ∈ s.objectProperties, row.owner = id ∧ holds row

/-- Whatever has one property has the other. -/
theorem Owners.subset {holds other : PropertyRow → Prop} {ids ids' : List Nat}
    (h : s.Owners holds ids) (h' : s.Owners other ids') (himp : ∀ row, holds row → other row) :
    ids ⊆ ids' := by
  intro id hid
  obtain ⟨hthere, row, hrow, howner, hholds⟩ := (h.mem_iff id).mp hid
  exact (h'.mem_iff id).mpr ⟨hthere, row, hrow, howner, himp row hholds⟩

/-- What is selected by a test that decides this of every property. -/
theorem exists_owners (hs : s.Anchored) {holds : PropertyRow → Prop} {test : PropertyRow → Bool}
    (htest : ∀ row ∈ s.objectProperties, test row = true ↔ holds row) :
    ∃ ids : List Nat, owners test s.objectProperties = ids.map (fun id : Nat ↦ [Value.int id]) ∧
      s.Owners holds ids := by
  refine ⟨_, rfl, Ascending.pairwise_ofList _, fun id ↦ ?_⟩
  rw [Ascending.mem_ofList, List.mem_map]
  constructor
  · rintro ⟨row, hrow, rfl⟩
    obtain ⟨hrow, hpasses⟩ := List.mem_filter.mp hrow
    exact ⟨hs.objectProperties row hrow, row, hrow, rfl, (htest row hrow).mp hpasses⟩
  · rintro ⟨-, row, hrow, rfl, hholds⟩
    exact ⟨row, List.mem_filter.mpr ⟨hrow, (htest row hrow).mpr hholds⟩, rfl⟩

/-! ### What the tests decide -/

theorem passes_is_iff : (row.space.equalsText (.text space) && row.key.equalsText (.text key) &&
    row.value.equalsText (.text value)) = true ↔ row.Is space key value := by
  simp only [equalsText_text, Bool.and_eq_true, beq_iff_eq, PropertyRow.Is, and_assoc,
    eq_comm (a := Value.text _)]

/-- Every value in a store is a text. -/
theorem Reachable.exists_value (hs : s.Reachable) (hrow : row ∈ s.objectProperties) :
    ∃ text, row.value = .text text := by
  obtain ⟨texts, htexts⟩ := hs.notes_texts .ofObjects
  have hnote : row.note ∈ texts.map storedNote :=
    htexts ▸ List.mem_map_of_mem (f := PropertyRow.note) hrow
  obtain ⟨note, -, hnote⟩ := List.mem_map.mp hnote
  have hvalue : row.value ∈ note.2.map Value.text := by
    rw [show note.2.map Value.text = [row.space, row.key, row.value] from
      congrArg Prod.snd hnote]
    exact .tail _ (.tail _ (.head _))
  obtain ⟨text, -, htext⟩ := List.mem_map.mp hvalue
  exact ⟨text, htext.symm⟩

theorem matchesPattern_text (pattern text : String) :
    matchesPattern (.text pattern) (.text text) = true ↔ Text.MatchesSeen pattern text :=
  Text.like_eq_true_iff

theorem passes_matchedBy_iff (hs : s.Reachable) (hrow : row ∈ s.objectProperties) :
    matchesPattern (.text pattern) row.value = true ↔ row.MatchedBy pattern := by
  obtain ⟨text, htext⟩ := hs.exists_value hrow
  rw [PropertyRow.MatchedBy, htext, matchesPattern_text]
  simp only [Value.text.injEq, exists_eq_left']

/-! ### What lookups yield -/

/-- A lookup of objects yields their ids. -/
theorem yields_ids {now : Value} {made : Except Error (Request (List Nat))} (query : Query)
    (params : List Value) {ids : List Nat}
    (hmade : made = .ok (.list query params (Reading.required 0 Value.toId)))
    (hplain : ∀ value ∈ params, value.IsPlain) (hwrites : query.writes = false)
    (harity : params.length = query.arity)
    (hrows : s.select query (params.getD · .null) = ids.map fun id : Nat ↦ [Value.int id]) :
    s.Yields now made (.ok ids) s := by
  have hreads : ∀ n ∈ ids, (Reading.required 0 Value.toId).Reads [Value.int n] (id n) :=
    fun n _ ↦ Reading.reads_required rfl rfl (Value.toId_int n)
  have hyields : s.Yields now made (.ok (ids.map id)) s :=
    yields_list query params hmade hplain hwrites harity hrows
      (fun _ _ ↦ List.forall_mem_singleton.mpr rfl) hreads
  rwa [List.map_id] at hyields

end Store

/-- The answer of a lookup of objects that has handed out all of these. -/
def Answer.afterLookup (flags : LookupFlags) (ids : List Nat) : Except Error Answer :=
  if ids.isEmpty && !flags.noFail then .error .notFound else .ok (.afterRows ids)

/-! ### Both lookups -/

namespace FileSite

variable {site : FileSite} {s : Store} {backend : FileBackend} {space key value pattern : String}

/-- The lookup hands out exactly the objects that have a property so, in ascending order and each
once, and if there is none, it fails unless the flags allow for that. -/
def FindsOwners (site : FileSite) (s : Store) (backend : FileBackend)
    (lookup : LookupFlags → Operation) (holds : PropertyRow → Prop) (ids : List Nat) : Prop :=
  s.Owners holds ids ∧ ∀ flags, site.Gives s backend (lookup flags)
    (Answer.afterLookup flags ids) (ids.map .id)

theorem exists_exact (hreach : site.Reachable (.opened backend)) (hquiet : site.Quiet s backend)
    (hspace : space.utf8ByteSize ≤ Limit.space) (hkey : key.utf8ByteSize ≤ Limit.key)
    (hvalue : value.utf8ByteSize ≤ Limit.value) :
    ∃ ids, site.FindsOwners s backend (.objectsWithProperty space key value)
      (·.Is space key value) ids := by
  obtain ⟨hs, -⟩ := hreach.settled hquiet.keeps
  obtain ⟨ids, hids, howners⟩ := Store.exists_owners hs.anchored_numbered.1
    fun _ _ ↦ Store.passes_is_iff
  have hmade : Request.objectsWithProperty space key value =
      .ok (.list .lookupObjectByProperty [.text space, .text key, .text value]
        (Reading.required 0 Value.toId)) := by
    rw [Request.objectsWithProperty, Argument.checkProperty_eq hspace hkey hvalue]
    rfl
  refine ⟨ids, howners, fun flags ↦ hquiet.gives_of_ok hreach ?_⟩
  exact Store.yields_ids _ _ hmade (by simp) rfl rfl hids

theorem exists_matching (hreach : site.Reachable (.opened backend)) (hquiet : site.Quiet s backend)
    (hpattern : pattern.utf8ByteSize ≤ Limit.value) :
    ∃ ids, site.FindsOwners s backend (.objectsMatching pattern) (·.MatchedBy pattern) ids := by
  obtain ⟨hs, -⟩ := hreach.settled hquiet.keeps
  obtain ⟨ids, hids, howners⟩ := Store.exists_owners hs.anchored_numbered.1
    fun row hrow ↦ Store.passes_matchedBy_iff hs hrow
  have hmade : Request.objectsMatching pattern =
      .ok (.list .lookupObjectPropertyWildcard [.text pattern]
        (Reading.required 0 Value.toId)) := by
    rw [Request.objectsMatching, Argument.checkLength_eq _ hpattern]
    rfl
  refine ⟨ids, howners, fun flags ↦ hquiet.gives_of_ok hreach ?_⟩
  exact Store.yields_ids _ _ hmade (by simp) rfl rfl hids

/-- What is found on a file by a property and by patterns. -/
structure FindsByProperty (site : FileSite) (s : Store) (backend : FileBackend)
    (space key value pattern : String) (found matched byValue all : List Nat) : Prop where
  exact : site.FindsOwners s backend (.objectsWithProperty space key value)
    (·.Is space key value) found
  matching : site.FindsOwners s backend (.objectsMatching pattern) (·.MatchedBy pattern) matched
  /-- The value itself, whatever signs are in it, is a pattern that finds no less. -/
  ofValue : site.FindsOwners s backend (.objectsMatching value) (·.MatchedBy value) byValue
  exact_subset : found ⊆ byValue
  /-- The wild card alone finds the objects that have any property. -/
  any : site.FindsOwners s backend (.objectsMatching "%") (fun _ ↦ True) all

/-- On every file, with nothing planned to fail, objects are found by their properties and by
patterns. -/
theorem property_lookups (hreach : site.Reachable (.opened backend))
    (hquiet : site.Quiet s backend) (hspace : space.utf8ByteSize ≤ Limit.space)
    (hkey : key.utf8ByteSize ≤ Limit.key) (hvalue : value.utf8ByteSize ≤ Limit.value)
    (hpattern : pattern.utf8ByteSize ≤ Limit.value) :
    ∃ found matched byValue all,
      site.FindsByProperty s backend space key value pattern found matched byValue all := by
  obtain ⟨hs, -⟩ := hreach.settled hquiet.keeps
  obtain ⟨found, hfound⟩ := exists_exact hreach hquiet hspace hkey hvalue
  obtain ⟨matched, hmatched⟩ := exists_matching hreach hquiet hpattern
  obtain ⟨byValue, hbyValue⟩ := exists_matching hreach hquiet hvalue
  obtain ⟨all, hall, hgives⟩ :=
    exists_matching hreach hquiet (show "%".utf8ByteSize ≤ Limit.value by decide)
  have hany : s.Owners (fun _ ↦ True) all := by
    refine ⟨hall.ascend, fun id ↦ (hall.mem_iff id).trans ?_⟩
    refine and_congr_right fun _ ↦ exists_congr fun row ↦ and_congr_right fun hrow ↦
      and_congr_right fun _ ↦ iff_true_intro ?_
    obtain ⟨text, htext⟩ := hs.exists_value hrow
    exact ⟨text, htext, Text.matches_percent _⟩
  exact ⟨found, matched, byValue, all, hfound, hmatched, hbyValue,
    hfound.1.subset hbyValue.1 fun row ↦ PropertyRow.Is.matchedBy, hany, hgives⟩

/-- A value with both wild cards in it on one object, and on the other one that this value
matches. -/
def awkward : List Operation :=
  [.createSession ⟨"00:00:00:00:00:00", "user", 1, "program", "program --flag"⟩,
    .createObject "" "first" .entity 1, .createObject "" "second" .entity 1,
    .addObjectProperty 2 "space" "key" "50 Xpour cent", .addObjectProperty 1 "space" "key" "50%_p%",
    .addObjectProperty 1 "space" "key" "50%_p%"]

/-- The value finds one object, and both as a pattern. -/
theorem awkward_value_found :
    ∃ s exact ofValue, named.Quiet s (named.afterAll awkward first) ∧
      named.FindsOwners s (named.afterAll awkward first)
        (.objectsWithProperty "space" "key" "50%_p%") (·.Is "space" "key" "50%_p%") exact ∧
      named.FindsOwners s (named.afterAll awkward first) (.objectsMatching "50%_p%")
        (·.MatchedBy "50%_p%") ofValue ∧
      1 ∈ exact ∧ 2 ∉ exact ∧ 1 ∈ ofValue ∧ 2 ∈ ofValue := by
  have hquiet : named.Quiet _ (named.afterAll awkward first) :=
    ⟨⟨⟨rfl, by decide⟩, rfl⟩, .inl rfl, fun _ ↦ rfl⟩
  obtain ⟨found, matched, byValue, all, hfinds⟩ :=
    property_lookups (reachable_first.afterAll awkward) hquiet
      (show "space".utf8ByteSize ≤ Limit.space by decide)
      (show "key".utf8ByteSize ≤ Limit.key by decide)
      (show "50%_p%".utf8ByteSize ≤ Limit.value by decide)
      (show "50%_p%".utf8ByteSize ≤ Limit.value by decide)
  have hone : 1 ∈ found := (hfinds.exact.1.mem_iff 1).mpr (by decide +kernel)
  have htwo : 2 ∉ found := mt (hfinds.exact.1.mem_iff 2).mp (by decide +kernel)
  refine ⟨_, found, byValue, hquiet, hfinds.exact, hfinds.ofValue, hone, htwo,
    hfinds.exact_subset hone, (hfinds.ofValue.1.mem_iff 2).mpr ?_⟩
  refine ⟨by decide +kernel, ⟨2, .text "space", .text "key", .text "50 Xpour cent"⟩,
    by decide +kernel, rfl, _, rfl, Text.like_eq_true_iff.mp ?_⟩
  decide +kernel

end FileSite

end Provenance
