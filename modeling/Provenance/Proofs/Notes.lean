import Provenance.Proofs.CheckedWrites

/-!
Notes: the properties of objects, of relations and of bundles, and the prefixes of bundles. They
stand in four tables (`Store.Notes`), each with an owner in a table of rows that have ids of their
own. A request adds the note that it is about at the end of one of these tables, or adds none; with
a row that goes, its notes go and no others (`Operation.notes_of_run`). So the tables never mix,
whatever the ids, and everything in them is a text (`Store.Reachable.notes_texts`). What is asked
for of an owner is found by the leading texts of its notes (`Operation.notes_selected`).
-/

set_option autoImplicit false
set_option relaxedAutoImplicit false

namespace Provenance

namespace Store

/-- The tables of what is noted of a row: properties of objects, of relations and of bundles, and
the prefixes of bundles. -/
inductive Notes where
  | ofObjects
  | ofRelations
  | ofBundles
  | prefixes
deriving DecidableEq, Repr

end Store

/-- The owner of a property and the other columns. -/
def PropertyRow.note (row : PropertyRow) : Nat × List Value :=
  (row.owner, [row.space, row.key, row.value])

/-- The bundle of a prefix and the other columns. -/
def PrefixRow.note (row : PrefixRow) : Nat × List Value := (row.bundle, [row.space, row.iri])

namespace Store

namespace Notes

/-- The table of the owners. Bundles stand among the objects. -/
def owners : Notes → Table
  | ofRelations => .relations
  | _ => .objects

/-- The notes of a table in the order in which they were added. -/
def rows (s : Store) : Notes → List (Nat × List Value)
  | ofObjects => s.objectProperties.map (·.note)
  | ofRelations => s.relationProperties.map (·.note)
  | ofBundles => s.bundleProperties.map (·.note)
  | prefixes => s.prefixes.map (·.note)

/-- How many columns a note has besides that of its owner. -/
def width : Notes → Nat
  | prefixes => 2
  | _ => 3

variable {s s' : Store} (notes : Notes)

theorem length_eq_width_of_mem : ∀ note ∈ notes.rows s, note.2.length = notes.width := by
  intro note hnote
  cases notes <;>
    obtain ⟨row, -, rfl⟩ := List.mem_map.mp hnote <;>
    rfl

/-- Notes belong to rows that are there. -/
theorem owner_mem_ids (h : s.Anchored) : ∀ note ∈ notes.rows s, note.1 ∈ notes.owners.ids s := by
  intro note hnote
  cases notes with
  | ofObjects =>
    obtain ⟨row, hrow, rfl⟩ := List.mem_map.mp hnote
    exact hasObject_iff_mem_ids.mp (h.objectProperties row hrow)
  | ofRelations =>
    obtain ⟨row, hrow, rfl⟩ := List.mem_map.mp hnote
    exact hasRelation_iff_mem_ids.mp (h.relationProperties row hrow)
  | ofBundles =>
    obtain ⟨row, hrow, rfl⟩ := List.mem_map.mp hnote
    exact hasObject_iff_mem_ids.mp (h.bundleProperties row hrow)
  | prefixes =>
    obtain ⟨row, hrow, rfl⟩ := List.mem_map.mp hnote
    exact hasObject_iff_mem_ids.mp (h.prefixes row hrow)

omit notes in
/-- Rows whose owner is found are those whose note has its owner in the table. -/
theorem map_filter_owner {ρ : Type} {all : List ρ} (note : ρ → Nat × List Value)
    {found : Nat → Bool} {ids : List Nat} (h : ∀ id, found id = true ↔ id ∈ ids) :
    (all.filter fun row ↦ found (note row).1).map note =
      (all.map note).filter fun note ↦ note.1 ∈ ids := by
  rw [List.filter_map]
  refine congrArg (List.map note) (List.filter_congr fun row _ ↦ ?_)
  rw [Bool.eq_iff_iff, h, Function.comp_apply, decide_eq_true_iff]

/-- The notes that are left are those of the owners that are. -/
theorem rows_of_remains (h : s.Remains s') :
    notes.rows s' = (notes.rows s).filter fun note ↦ note.1 ∈ notes.owners.ids s' := by
  cases notes with
  | ofObjects =>
    rw [rows, h.objectProperties]
    exact map_filter_owner PropertyRow.note fun _ ↦ hasObject_iff_mem_ids
  | ofRelations =>
    rw [rows, h.relationProperties]
    exact map_filter_owner PropertyRow.note fun _ ↦ hasRelation_iff_mem_ids
  | ofBundles =>
    rw [rows, h.bundleProperties]
    exact map_filter_owner PropertyRow.note fun _ ↦ hasObject_iff_mem_ids
  | prefixes =>
    rw [rows, h.prefixes]
    exact map_filter_owner PrefixRow.note fun _ ↦ hasObject_iff_mem_ids

end Notes

end Store

/-- The table of notes that a query adds to. -/
def Query.notes? : Query → Option Store.Notes
  | addObjectProperty => some .ofObjects
  | addRelationProperty => some .ofRelations
  | addBundleProperty => some .ofBundles
  | addPrefix => some .prefixes
  | _ => none

/-- A query that adds no note leaves the notes of the owners that are left. -/
theorem Store.Change.notes_rows {s s' : Store} {query : Query} {rows : List Row}
    (h : s.Change query rows s') (hs : s.Anchored) (hs' : s'.Anchored)
    (hquery : query.notes? = none) (notes : Notes) :
    notes.rows s' = (notes.rows s).filter fun note ↦ note.1 ∈ notes.owners.ids s' := by
  have hkept : notes.rows s' = notes.rows s →
      notes.rows s' = (notes.rows s).filter fun note ↦ note.1 ∈ notes.owners.ids s' := by
    intro hsame
    rw [← hsame]
    refine (List.filter_eq_self.mpr fun note hnote ↦ ?_).symm
    exact decide_eq_true (notes.owner_mem_ids hs' note hnote)
  cases h with
  | session | object | relation | nothing => exact hkept (by cases notes <;> rfl)
  | objectProperty | relationProperty | bundleProperty | abbreviation => cases hquery
  | deletion id => exact notes.rows_of_remains (hs.remains_deleteBundle id)

/-- A note of texts as it is stored. -/
def storedNote (note : Nat × List String) : Nat × List Value := (note.1, note.2.map .text)

theorem Store.Notes.length_eq_width {s : Store} {notes : Notes} {texts : List (Nat × List String)}
    (htexts : notes.rows s = texts.map storedNote) :
    ∀ note ∈ texts, note.2.length = notes.width := by
  intro note hnote
  have hmem : storedNote note ∈ notes.rows s := htexts ▸ List.mem_map_of_mem hnote
  rw [← notes.length_eq_width_of_mem _ hmem, storedNote, List.length_map]

namespace Operation

open Store (Notes)

/-- The note that an operation adds: its table, its owner and its texts. -/
def note? : Operation → Option (Notes × Nat × List String)
  | addObjectProperty id space key value => some (.ofObjects, id, [space, key, value])
  | addRelationProperty id space key value => some (.ofRelations, id, [space, key, value])
  | addBundleProperty id space key value => some (.ofBundles, id, [space, key, value])
  | addPrefix bundle space iri => some (.prefixes, bundle, [space, iri])
  | _ => none

/-- What an operation adds to a table of notes. -/
def noted (notes : Notes) (op : Operation) : List (Nat × List String) :=
  match op.note? with
  | some (table, note) => if table = notes then [note] else []
  | none => []

theorem noted_of_note?_eq_none {op : Operation} (h : op.note? = none) (notes : Notes) :
    op.noted notes = [] := by
  rw [noted, h]

theorem notes?_query (op : Operation) : op.query.notes? = op.note?.map (·.1) := by
  cases op with
  | lookupObject space name kind | lookupObjects space name kind flags => cases kind <;> rfl
  | objectProperties id filter | relationProperties id filter | bundleProperties id filter =>
    cases filter <;> rfl
  | allObjects space | prefixes bundle space => cases space <;> rfl
  | objectRelations id direction => cases direction <;> rfl
  | _ => rfl

variable {op : Operation} {s s' : Store} {now : Value} {reader : Reader}
  {request : Request op.form.Rows} {rows : List Row}

/-- A note comes at the end of its table. -/
theorem rows_of_note? {note : Notes × Nat × List String} (hnote : op.note? = some note)
    (hrequest : op.form.request reader = .ok request)
    (hrun : s.run now request.query request.params = .ok (rows, s')) (notes : Notes) :
    notes.rows s' = notes.rows s ++ (op.noted notes).map storedNote := by
  cases op with
  | addObjectProperty id space key value =>
    obtain rfl := Request.ensures_command_addProperty _ _ id space key value request hrequest
    change s.addObjectProperty (.int id) (.text space) (.text key) (.text value) = _ at hrun
    rw [Store.addObjectProperty_eq_ite] at hrun
    split at hrun
    · cases hrun
      cases notes <;> simp [Notes.rows, noted, note?, Store.withProperty, storedNote,
        PropertyRow.note]
    · cases hrun
  | addRelationProperty id space key value =>
    obtain rfl := Request.ensures_command_addProperty _ _ id space key value request hrequest
    change s.addRelationProperty (.int id) (.text space) (.text key) (.text value) = _ at hrun
    rw [Store.addRelationProperty_eq_ite] at hrun
    split at hrun
    · cases hrun
      cases notes <;> simp [Notes.rows, noted, note?, storedNote, PropertyRow.note]
    · cases hrun
  | addBundleProperty id space key value =>
    obtain rfl := Request.ensures_command_addProperty _ _ id space key value request hrequest
    change s.addBundleProperty (.int id) (.text space) (.text key) (.text value) = _ at hrun
    rw [Store.addBundleProperty_eq_ite] at hrun
    split at hrun
    · cases hrun
      cases notes <;> simp [Notes.rows, noted, note?, storedNote, PropertyRow.note]
    · cases hrun
  | addPrefix bundle space iri =>
    obtain rfl := Request.ensures_command_addPrefix bundle space iri request hrequest
    change s.addPrefix (.int bundle) (.text space) (.text iri) = _ at hrun
    rw [Store.addPrefix_eq_ite] at hrun
    split at hrun
    · cases hrun
      cases notes <;> simp [Notes.rows, noted, note?, storedNote, PrefixRow.note]
    · cases hrun
  | _ => cases hnote

/-- A request adds the note that it is about at the end of its table, and of all notes those stay
whose owner does. -/
theorem notes_of_run (hs : s.Reachable) (hrequest : op.form.request reader = .ok request)
    (hrun : s.run now request.query request.params = .ok (rows, s')) (notes : Notes) :
    notes.rows s' = (notes.rows s ++ (op.noted notes).map storedNote).filter
      fun note ↦ note.1 ∈ notes.owners.ids s' := by
  have hs' : s'.Reachable := hs.step (.request now op reader request hrequest hrun)
  obtain ⟨hanchored, -⟩ := hs.anchored_numbered
  obtain ⟨hanchored', -⟩ := hs'.anchored_numbered
  cases hnote : op.note? with
  | none =>
    have hquery : request.query.notes? = none := by
      rw [op.ensures_query reader request hrequest, notes?_query, hnote, Option.map_none]
    rw [noted_of_note?_eq_none hnote, List.map_nil, List.append_nil]
    exact (Store.Change.of_run hrun).notes_rows hanchored hanchored' hquery notes
  | some note =>
    rw [← rows_of_note? hnote hrequest hrun notes]
    refine (List.filter_eq_self.mpr fun note hnote ↦ ?_).symm
    exact decide_eq_true (notes.owner_mem_ids hanchored' note hnote)

end Operation

/-- All that is noted in a store is texts. -/
theorem Store.Reachable.notes_texts {s : Store} (h : s.Reachable) (notes : Store.Notes) :
    ∃ texts : List (Nat × List String), notes.rows s = texts.map storedNote := by
  induction h with
  | empty => exact ⟨[], by cases notes <;> rfl⟩
  | step h hstep ih =>
    obtain ⟨texts, htexts⟩ := ih
    obtain ⟨now, op, reader, request, hrequest, hrun⟩ := hstep
    rw [Operation.notes_of_run h hrequest hrun, htexts, ← List.map_append, List.filter_map]
    exact ⟨_, rfl⟩

/-! ### Notes that are asked for -/

/-- The leading texts of the properties that pass a filter. -/
def PropertyFilter.lead : PropertyFilter → List String
  | all => []
  | space text => [text]
  | key text name => [text, name]

/-- The columns of a note as a statement gives them out. -/
def noteColumns (note : Nat × List Value) : Row := .int note.1 :: note.2

/-- The note belongs to the owner and begins with these texts. -/
def leadsNote (owner : Nat) (lead : List String) (note : Nat × List String) : Bool :=
  note.1 == owner && lead.isPrefixOf note.2

/-- The owner and the texts that a row shows of a note. -/
def Listed.note? : Listed → Option (Nat × List String)
  | property entry => some (entry.owner, [entry.space, entry.key, entry.value])
  | abbreviation entry => some (entry.bundle, [entry.space, entry.iri])
  | _ => none

/-- A note with its texts truncated. -/
def truncatedNote (limit : Nat) (note : Nat × List String) : Nat × List String :=
  (note.1, note.2.map (Text.truncate limit))

namespace Store

theorem equalsText_text (column : Value) (text : String) :
    column.equalsText (.text text) = (Value.text text == column) := by
  rw [Value.equalsText, Bool.beq_comm]
  rfl

theorem isPrefixOf_map_text (lead texts : List String) :
    (lead.map Value.text).isPrefixOf (texts.map .text) = lead.isPrefixOf texts := by
  induction lead generalizing texts with
  | nil => rfl
  | cons text lead ih =>
    cases texts with
    | nil => rfl
    | cons other texts =>
      have hsame : (Value.text text == Value.text other) = (text == other) := by
        rw [Bool.eq_iff_iff, beq_iff_eq, beq_iff_eq, Value.text.injEq]
      rw [List.map_cons, List.map_cons, List.isPrefixOf_cons_cons, List.isPrefixOf_cons_cons, ih,
        hsame]

variable {s : Store} {owner : Nat} {lead : List String} {texts : List (Nat × List String)}

/-- Rows of an owner that pass a test of their leading columns are notes with leading texts. -/
theorem map_filter_leading {ρ : Type} {all : List ρ} (note : ρ → Nat × List Value)
    {test : ρ → Bool} (htest : ∀ row, test row = (lead.map Value.text).isPrefixOf (note row).2)
    (htexts : all.map note = texts.map storedNote) :
    (all.filter fun row ↦ idEquals (note row).1 (.int owner) && test row).map
        (fun row ↦ noteColumns (note row)) =
      (texts.filter (leadsNote owner lead)).map fun note ↦ noteColumns (storedNote note) := by
  let passes (note : Nat × List Value) : Bool :=
    note.1 == owner && (lead.map Value.text).isPrefixOf note.2
  have hrows : (fun row ↦ idEquals (note row).1 (.int owner) && test row) = passes ∘ note := by
    funext row
    rw [idEquals_int, htest]
    rfl
  have hleads : passes ∘ storedNote = leadsNote owner lead := by
    funext note
    change (note.1 == owner && (lead.map Value.text).isPrefixOf (note.2.map .text)) = _
    rw [isPrefixOf_map_text]
    rfl
  calc (all.filter fun row ↦ idEquals (note row).1 (.int owner) && test row).map
        (fun row ↦ noteColumns (note row))
      = ((all.map note).filter passes).map noteColumns := by
        rw [hrows, List.filter_map, List.map_map]
        rfl
    _ = ((texts.map storedNote).filter passes).map noteColumns := by rw [htexts]
    _ = (texts.filter (leadsNote owner lead)).map fun note ↦ noteColumns (storedNote note) := by
        rw [List.filter_map, hleads, List.map_map]
        rfl

theorem propertiesOf_eq {rows : List PropertyRow} {test : PropertyRow → Bool}
    (htest : ∀ row, test row = (lead.map Value.text).isPrefixOf row.note.2)
    (htexts : rows.map (·.note) = texts.map storedNote) :
    propertiesOf (.int owner) test rows =
      (texts.filter (leadsNote owner lead)).map fun note ↦ noteColumns (storedNote note) :=
  map_filter_leading PropertyRow.note htest htexts

theorem prefixesOf_eq {test : PrefixRow → Bool}
    (htest : ∀ row, test row = (lead.map Value.text).isPrefixOf row.note.2)
    (htexts : s.prefixes.map (·.note) = texts.map storedNote) :
    s.prefixesOf (.int owner) test =
      (texts.filter (leadsNote owner lead)).map fun note ↦ noteColumns (storedNote note) :=
  map_filter_leading PrefixRow.note htest htexts

end Store

/-- The test of the statement that serves a filter. -/
def PropertyFilter.test (row : PropertyRow) : PropertyFilter → Bool
  | all => true
  | space text => row.space.equalsText (.text text)
  | key text name => row.space.equalsText (.text text) && row.key.equalsText (.text name)

theorem PropertyFilter.test_eq (row : PropertyRow) (filter : PropertyFilter) :
    filter.test row = (filter.lead.map Value.text).isPrefixOf row.note.2 := by
  cases filter <;>
    simp [test, lead, PropertyRow.note, Store.equalsText_text, List.isPrefixOf_cons_cons]

namespace Request

theorem ensures_list_properties (queries : PropertyQueries) (what : String) (reader : Reader)
    (owner : Nat) (filter : PropertyFilter) :
    Ensures (properties queries what reader owner filter) fun request ↦ request =
      .list (queries.query filter) (.int owner :: filter.lead.map Value.text)
        (propertyRow reader) := by
  refine .bind (Argument.ensures_eq _ _) fun param hparam ↦ ?_
  rw [hparam]
  cases filter with
  | all => exact .pure rfl
  | space text => exact .check fun _ ↦ .pure rfl
  | key text name => exact .check fun _ ↦ .check fun _ ↦ .pure rfl

theorem ensures_list_prefixes (reader : Reader) (bundle : Nat) (space : Option String) :
    Ensures (prefixes reader bundle space) fun request ↦ request =
      .list (if space.isSome then .getPrefixesWithPrefix else .getPrefixes)
        (.int bundle :: space.toList.map Value.text) (prefixRow reader) := by
  refine .bind (Argument.ensures_eq _ _) fun param hparam ↦ ?_
  rw [hparam]
  cases space with
  | none => exact .pure rfl
  | some text => exact .check fun _ ↦ .pure rfl

theorem reads_propertyRow (reader : Reader) (owner : Nat) (space key value : String) :
    (propertyRow reader).Reads [.int owner, .text space, .text key, .text value]
      ⟨owner, Text.truncate reader.limit space, Text.truncate reader.limit key,
        Text.truncate reader.limit value⟩ := by
  refine (Reading.reads_required rfl rfl (Value.toId_int owner)).bind ?_
  refine (Reading.reads_required rfl rfl (Value.toText_text space)).bind ?_
  refine (Reading.reads_required rfl rfl (Value.toText_text key)).bind ?_
  exact (Reading.reads_required rfl rfl (Value.toText_text value)).bind (Reading.reads_pure _ _)

theorem reads_prefixRow (reader : Reader) (bundle : Nat) (space iri : String) :
    (prefixRow reader).Reads [.int bundle, .text space, .text iri]
      ⟨bundle, Text.truncate reader.limit space, Text.truncate reader.limit iri⟩ := by
  refine (Reading.reads_required rfl rfl (Value.toId_int bundle)).bind ?_
  refine (Reading.reads_required rfl rfl (Value.toText_text space)).bind ?_
  exact (Reading.reads_required rfl rfl (Value.toText_text iri)).bind (Reading.reads_pure _ _)

end Request

namespace Operation

open Store (Notes)

/-- The table, the owner and the leading texts of the notes that an operation lists. -/
def sought? : Operation → Option (Notes × Nat × List String)
  | objectProperties id filter => some (.ofObjects, id, filter.lead)
  | relationProperties id filter => some (.ofRelations, id, filter.lead)
  | bundleProperties id filter => some (.ofBundles, id, filter.lead)
  | prefixes bundle space => some (.prefixes, bundle, space.toList)
  | _ => none

end Operation

namespace Store

variable {s : Store} {now : Value} {owner : Nat} {texts : List (Nat × List String)}
  {reader : Reader}

/-- The notes of an owner with leading texts are listed, each with its texts truncated. -/
def YieldsNotes (s : Store) (now : Value) (reader : Reader) (op : Operation)
    (notes : List (Nat × List String)) : Prop :=
  ∃ result, s.Yields now (op.form.request reader) (.ok result) s ∧
    op.form.answer result = .ok (.afterRows notes) ∧
    (op.form.listed result).map Listed.note? =
      notes.map fun note ↦ some (truncatedNote reader.limit note)

variable {α : Type} {op : Operation} {kept : List (Nat × List String)}

theorem isGarbled_of_mem_noteColumns (note : Nat × List String) :
    ∀ value ∈ noteColumns (storedNote note), value.isGarbled = false := by
  simp [noteColumns, storedNote]

/-- An enumeration whose statement selects some notes, each of which can be read, lists them. -/
theorem yieldsNotes_of_listing {made : Reader → Except Error (Request (List α))} {wrap : α → Listed}
    {entry : α → Nat × List String} {query : Query} {params : List Value} {reading : Reading α}
    (hform : op.form = .listing made wrap) (hwrap : ∀ a, (wrap a).note? = some (entry a))
    (hmade : made reader = .ok (.list query params reading))
    (hplain : ∀ value ∈ params, value.IsPlain) (hwrites : query.writes = false)
    (harity : params.length = query.arity)
    (hrows : s.select query (params.getD · .null) =
      kept.map fun note ↦ noteColumns (storedNote note))
    (hreads : ∀ note ∈ kept, ∃ a, reading.Reads (noteColumns (storedNote note)) a ∧
      entry a = truncatedNote reader.limit note) :
    s.YieldsNotes now reader op kept := by
  obtain ⟨entries, hread, hentries⟩ := Request.exists_readOff_list query params hreads
  have hreadable := readable_map fun note (_ : note ∈ kept) ↦ isGarbled_of_mem_noteColumns note
  have hyields : s.Yields now (made reader) (.ok entries) s :=
    yields_of_run (.list query params reading) hmade hplain
      (run_of_readable query params hwrites harity hrows hreadable) hread
  rw [YieldsNotes, hform]
  refine ⟨entries, hyields, ?_, ?_⟩
  · rw [← Answer.afterRows_map (truncatedNote reader.limit), ← hentries, Answer.afterRows_map]
    rfl
  · change (entries.map wrap).map Listed.note? = _
    have hshown := congrArg (List.map some) hentries
    rw [List.map_map, List.map_map] at hshown
    rw [List.map_map]
    exact (List.map_congr_left fun a _ ↦ hwrap a).trans hshown

theorem exists_reads_property (reader : Reader) {note : Nat × List String}
    (h : note.2.length = 3) : ∃ entry, (Request.propertyRow reader).Reads
      (noteColumns (storedNote note)) entry ∧
        (entry.owner, [entry.space, entry.key, entry.value]) =
          truncatedNote reader.limit note := by
  obtain ⟨owner, texts⟩ := note
  obtain ⟨space, key, value, rfl⟩ := List.length_eq_three.mp h
  exact ⟨_, Request.reads_propertyRow reader owner space key value, rfl⟩

theorem exists_reads_prefix (reader : Reader) {note : Nat × List String}
    (h : note.2.length = 2) : ∃ entry, (Request.prefixRow reader).Reads
      (noteColumns (storedNote note)) entry ∧
        (entry.bundle, [entry.space, entry.iri]) = truncatedNote reader.limit note := by
  obtain ⟨owner, texts⟩ := note
  obtain ⟨space, iri, rfl⟩ := List.length_eq_two.mp h
  exact ⟨_, Request.reads_prefixRow reader owner space iri, rfl⟩

theorem isPlain_int_texts (owner : Nat) (lead : List String) :
    ∀ value ∈ Value.int owner :: lead.map Value.text, value.IsPlain := by
  simp

/-- The enumerations of properties select the rows of an owner that pass a filter and list them. -/
theorem yieldsNotes_of_properties {queries : PropertyQueries} {what : String}
    {filter : PropertyFilter} {rows : List PropertyRow} {request : Request (List PropertyEntry)}
    (hform : op.form =
      .listing (fun reader ↦ Request.properties queries what reader owner filter) .property)
    (hrequest : Request.properties queries what reader owner filter = .ok request)
    (hwrites : (queries.query filter).writes = false)
    (harity : filter.lead.length + 1 = (queries.query filter).arity)
    (hrows : s.select (queries.query filter)
        ((Value.int owner :: filter.lead.map Value.text).getD · .null) =
      propertiesOf (.int owner) (fun row ↦ filter.test row) rows)
    (htexts : rows.map (·.note) = texts.map storedNote)
    (hwidth : ∀ note ∈ texts, note.2.length = 3) :
    s.YieldsNotes now reader op (texts.filter (leadsNote owner filter.lead)) := by
  have hlist := Request.ensures_list_properties queries what reader owner filter request hrequest
  rw [propertiesOf_eq (fun row ↦ filter.test_eq row) htexts] at hrows
  refine yieldsNotes_of_listing hform (fun _ ↦ rfl) (hlist ▸ hrequest) (isPlain_int_texts _ _)
    hwrites ?_ hrows fun note hnote ↦ exists_reads_property reader ?_
  · rw [List.length_cons, List.length_map, harity]
  · exact hwidth note (List.mem_filter.mp hnote).1

end Store

namespace Operation

open Store (Notes)

variable {op : Operation} {s : Store} {now : Value} {reader : Reader} {notes : Notes}
  {owner : Nat} {lead : List String} {texts : List (Nat × List String)}

/-- The notes of an owner with leading texts are selected and listed, each with its texts
truncated. -/
theorem yieldsNotes_of_sought {request : Request op.form.Rows}
    (hsought : op.sought? = some (notes, owner, lead))
    (hrequest : op.form.request reader = .ok request)
    (htexts : notes.rows s = texts.map storedNote) (now : Value) :
    s.YieldsNotes now reader op (texts.filter (leadsNote owner lead)) := by
  cases op with
  | objectProperties id filter | relationProperties id filter | bundleProperties id filter =>
    cases hsought
    exact Store.yieldsNotes_of_properties rfl hrequest (by cases filter <;> rfl)
      (by cases filter <;> rfl) (by cases filter <;> rfl) htexts (Notes.length_eq_width htexts)
  | prefixes bundle space =>
    cases hsought
    have hlist := Request.ensures_list_prefixes reader owner space request hrequest
    refine Store.yieldsNotes_of_listing rfl (fun _ ↦ rfl) (hlist ▸ hrequest)
      (Store.isPlain_int_texts _ _) (by cases space <;> rfl) (by cases space <;> rfl) ?_
      fun note hnote ↦ Store.exists_reads_prefix reader ?_
    · cases space with
      | none =>
        rw [Option.toList, ← Store.prefixesOf_eq (fun _ ↦ rfl) htexts]
        rfl
      | some text =>
        have htest : ∀ row : PrefixRow, row.space.equalsText (.text text) =
            ([text].map Value.text).isPrefixOf row.note.2 := by
          simp [PrefixRow.note, Store.equalsText_text, List.isPrefixOf_cons_cons]
        rw [Option.toList, ← Store.prefixesOf_eq htest htexts]
        rfl
    · exact Notes.length_eq_width htexts note (List.mem_filter.mp hnote).1
  | _ => cases hsought

end Operation

end Provenance
