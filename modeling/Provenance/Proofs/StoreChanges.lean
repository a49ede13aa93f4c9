import Provenance.Store.Run

/-!
What a query can do to a store, said once. `Store.Change` has a case for every way in which a query
that is not refused can leave the store: a new row with an id of its own or with an owner that
exists, the removal of a bundle, or nothing. `Change.of_run` says that there is no other.
-/

set_option autoImplicit false
set_option relaxedAutoImplicit false

namespace Provenance.Store

/-- The outcome of a query that is not refused: its rows, and the store after it. -/
inductive Change (s : Store) : Query → List Row → Store → Prop
  | session (row : SessionRow) (hid : row.id = s.lastSession + 1) :
      Change s .createSession (returned row.id)
        { s with sessions := s.sessions ++ [row], lastSession := row.id }
  | object (query : Query) (row : ObjectRow) (hid : row.id = s.lastObject + 1)
      (hquery : query = .createObject ∨ query = .createBundle)
      (hsession : row.session = .null ∨
        ∃ id : Nat, row.session = .int id ∧ s.hasSession id = true) :
      Change s query (returned row.id)
        { s with objects := s.objects ++ [row], lastObject := row.id }
  | relation (row : RelationRow) (hid : row.id = s.lastRelation + 1)
      (hsource : s.hasObject row.source = true)
      (hdestination : if row.holdsRelation then s.hasRelation row.destination = true
        else s.hasObject row.destination = true) :
      Change s .addRelation (returned row.id)
        { s with relations := s.relations ++ [row], lastRelation := row.id }
  | objectProperty (row : PropertyRow) (howner : s.hasObject row.owner = true) :
      Change s .addObjectProperty [] { s with objectProperties := s.objectProperties ++ [row] }
  | relationProperty (row : PropertyRow) (howner : s.hasRelation row.owner = true) :
      Change s .addRelationProperty []
        { s with relationProperties := s.relationProperties ++ [row] }
  | bundleProperty (row : PropertyRow) (howner : s.hasObject row.owner = true) :
      Change s .addBundleProperty [] { s with bundleProperties := s.bundleProperties ++ [row] }
  | abbreviation (row : PrefixRow) (howner : s.hasObject row.bundle = true) :
      Change s .addPrefix [] { s with prefixes := s.prefixes ++ [row] }
  | deletion (id : Value) :
      Change s .deleteBundle (s.deleteBundle id).1 (s.deleteBundle id).2
  | nothing (query : Query) (rows : List Row) (hreads : query.writes = false) :
      Change s query rows s

variable {s s' : Store} {rows : List Row}

theorem exists_of_refersTo {test : Nat → Bool} {value : Value} (h : refersTo test value = true) :
    ∃ id, value.rowId? = some id ∧ test id = true := by
  unfold refersTo at h
  split at h
  · exact ⟨_, by assumption, h⟩
  · cases h

/-- A value that refers to a row is stored as the id of the row. -/
theorem inNumericColumn_of_refersTo {test : Nat → Bool} {value : Value}
    (h : refersTo test value = true) :
    ∃ id : Nat, value.inNumericColumn = .int id ∧ test id = true := by
  obtain ⟨id, hid, hexists⟩ := exists_of_refersTo h
  unfold Value.rowId? at hid
  split at hid
  · rename_i i hnumber
    split at hid
    · rename_i hpositive
      obtain rfl := Option.some.inj hid
      refine ⟨i.toNat, ?_, hexists⟩
      rw [hnumber, Int.toNat_of_nonneg hpositive]
    · cases hid
  · cases hid

theorem change_addSession {started macAddress user pid program commandLine : Value}
    (h : s.addSession started macAddress user pid program commandLine = .ok (rows, s')) :
    s.Change .createSession rows s' := by
  unfold addSession at h
  split at h
  · cases h
  · cases h
    exact .session ⟨s.lastSession + 1, _, _, _, _, _, _⟩ rfl

theorem change_addObject {query : Query} {created space name kind session : Value}
    (hquery : query = .createObject ∨ query = .createBundle)
    (h : s.addObject created space name kind session = .ok (rows, s')) :
    s.Change query rows s' := by
  unfold addObject at h
  split at h
  · cases h
  · split at h
    · cases h
    · split at h
      · cases h
      · split at h
        · cases h
        · rename_i hsession
          cases h
          refine .object query ⟨s.lastObject + 1, _, _, _, _, _⟩ rfl hquery ?_
          cases hgiven : session.isNull with
          | true =>
            obtain rfl := Value.eq_null_of_isNull hgiven
            exact .inl rfl
          | false =>
            rw [hgiven, Bool.not_false, Bool.true_and, Bool.not_eq_true,
              Bool.not_eq_false'] at hsession
            exact .inr (inNumericColumn_of_refersTo hsession)

theorem change_addRelation {source destination kind : Value}
    (h : s.addRelation source destination kind = .ok (rows, s')) :
    s.Change .addRelation rows s' := by
  unfold addRelation at h
  dsimp only at h
  by_cases hmember : (kind.inNumericColumn == .int 20 && !refersTo s.hasRelation destination) = true
  · rw [if_pos hmember] at h
    cases h
  by_cases hplain : (!kind.inNumericColumn.isNull && kind.inNumericColumn != .int 20 &&
      !refersTo s.hasObject destination) = true
  · rw [if_neg hmember, if_pos hplain] at h
    cases h
  rw [if_neg hmember, if_neg hplain] at h
  split at h
  · cases h
  split at h
  · cases h
  split at h
  · cases h
  rename_i hkind
  split at h
  · cases h
  rename_i hsource
  cases h
  rw [Bool.not_eq_true, Bool.not_eq_false'] at hsource
  obtain ⟨source, hfrom, hexists⟩ := exists_of_refersTo hsource
  refine .relation ⟨s.lastRelation + 1, _, _, _⟩ rfl ?_ ?_
  · simp only [hfrom, Option.getD_some, hexists]
  · cases hholds : kind.inNumericColumn == .int 20 with
    | true =>
      simp only [hholds, Bool.true_and, Bool.not_eq_true, Bool.not_eq_false'] at hmember
      obtain ⟨found, hto, hrelation⟩ := exists_of_refersTo hmember
      simp only [RelationRow.holdsRelation, hholds, if_true, hto, Option.getD_some, hrelation]
    | false =>
      simp only [bne, hholds, hkind, Bool.not_false, Bool.true_and, Bool.not_eq_true,
        Bool.not_eq_false'] at hplain
      obtain ⟨found, hto, hobject⟩ := exists_of_refersTo hplain
      simp [RelationRow.holdsRelation, hholds, hto, hobject]

/-- A property that is not refused belongs to an owner that exists. -/
theorem exists_of_newProperty {table : String} {test : Nat → Bool} {owner space key value : Value}
    {row : PropertyRow} (h : newProperty table test owner space key value = .ok row) :
    test row.owner = true := by
  unfold newProperty at h
  split at h
  · cases h
  split at h
  · cases h
  split at h
  · cases h
  split at h
  · cases h
  split at h
  · cases h
  rename_i howner
  cases h
  rw [Bool.not_eq_true, Bool.not_eq_false'] at howner
  obtain ⟨id, hid, hexists⟩ := exists_of_refersTo howner
  simp only [hid, Option.getD_some, hexists]

/-- A query that adds a property adds a row whose owner exists. -/
theorem exists_row_of_newProperty {table : String} {test : Nat → Bool}
    {owner space key value : Value} {added : PropertyRow → Store}
    (h : (match newProperty table test owner space key value with
      | .ok row => .ok ([], added row)
      | .error violation => .error violation) = Except.ok (rows, s')) :
    ∃ row, test row.owner = true ∧ rows = [] ∧ s' = added row := by
  cases hrow : newProperty table test owner space key value with
  | error violation =>
    rw [hrow] at h
    cases h
  | ok row =>
    rw [hrow] at h
    cases h
    exact ⟨row, exists_of_newProperty hrow, rfl, rfl⟩

theorem change_addPrefix {bundle space iri : Value}
    (h : s.addPrefix bundle space iri = .ok (rows, s')) : s.Change .addPrefix rows s' := by
  unfold addPrefix at h
  split at h
  · cases h
  split at h
  · cases h
  split at h
  · cases h
  split at h
  · cases h
  rename_i howner
  cases h
  rw [Bool.not_eq_true, Bool.not_eq_false'] at howner
  obtain ⟨id, hid, hexists⟩ := exists_of_refersTo howner
  refine .abbreviation _ ?_
  simp only [hid, Option.getD_some, hexists]

/-- A query that is not refused changes a store in one of these ways. -/
theorem Change.of_run {now : Value} {query : Query} {params : List Value}
    (h : s.run now query params = .ok (rows, s')) : s.Change query rows s' := by
  unfold run at h
  split at h
  · cases h
  cases query with
  | createSession => exact change_addSession h
  | createObject => exact change_addObject (.inl rfl) h
  | createBundle => exact change_addObject (.inr rfl) h
  | addRelation => exact change_addRelation h
  | addObjectProperty =>
    obtain ⟨row, howner, rfl, rfl⟩ := exists_row_of_newProperty h
    exact .objectProperty row howner
  | addRelationProperty =>
    obtain ⟨row, howner, rfl, rfl⟩ := exists_row_of_newProperty h
    exact .relationProperty row howner
  | addBundleProperty =>
    obtain ⟨row, howner, rfl, rfl⟩ := exists_row_of_newProperty h
    exact .bundleProperty row howner
  | addPrefix => exact change_addPrefix h
  | deleteBundle =>
    have hpair : s.deleteBundle (params.getD 0 .null) = (rows, s') := Except.ok.inj h
    have hdeletion := Change.deletion (s := s) (params.getD 0 .null)
    rwa [hpair] at hdeletion
  | _ =>
    obtain ⟨-, rfl⟩ := eq_of_giveOut h
    exact .nothing _ rows rfl

/-- A query that writes gives out no row, or one with an id. -/
theorem Change.rows_of_writes {query : Query} (h : s.Change query rows s')
    (hwrites : query.writes = true) : rows = [] ∨ ∃ id, rows = returned id := by
  cases h with
  | session row hid => exact .inr ⟨row.id, rfl⟩
  | object query row hid hquery hsession => exact .inr ⟨row.id, rfl⟩
  | relation row hid hsource hdestination => exact .inr ⟨row.id, rfl⟩
  | objectProperty row howner => exact .inl rfl
  | relationProperty row howner => exact .inl rfl
  | bundleProperty row howner => exact .inl rfl
  | abbreviation row howner => exact .inl rfl
  | deletion id =>
    unfold deleteBundle
    split
    · exact .inl rfl
    · rename_i bundle hbundle
      by_cases hleft : (s.deleteMembers bundle.id).hasObject bundle.id
      · simp only [hleft, if_true]
        exact .inr ⟨bundle.id, rfl⟩
      · simp only [hleft]
        exact .inl rfl
  | nothing query rows hreads =>
    rw [hreads] at hwrites
    cases hwrites

end Provenance.Store
