import Mathlib.Data.List.Forall2
import Provenance.Proofs.FreshIds
import Provenance.Proofs.WrittenTimes

/-!
What is read off rows. A reading that only looks at columns makes the same of a row wherever it
stands: it goes on with a result or fails (`Reading.Makes`). So a request for rows has one result
for each of them, unless one cannot be read (`readOff_list_of_makes`). What is told of an object is
`ObjectRow.info`, whatever its columns hold (`makes_objectRow`), and of a bundle `ObjectRow.bundle`
(`readOff_bundleReading`). Off a row whose time is one that a clock shows, with texts and kinds as
they are written, just these are read, the texts cut (`reads_objectRow`, `reads_sessionRow`,
`readOff_bundle`).
-/

set_option autoImplicit false
set_option relaxedAutoImplicit false

namespace Provenance

variable {α β : Type}

/-! ### Values that may be missing -/

namespace Value

/-- The value as it converts; a missing one fails. -/
def given (missing : Error) (convert : Value → Except Error α) (value : Value) : Except Error α :=
  if value.isNull then .error missing else convert value

/-- The value as it converts, if it is not missing. -/
def maybe (convert : Value → Except Error α) (value : Value) : Except Error (Option α) :=
  if value.isNull then .ok none else (convert value).map some

theorem given_of_not_isNull {value : Value} {missing : Error} {convert : Value → Except Error α}
    (h : value.isNull = false) : value.given missing convert = convert value :=
  if_neg (Bool.eq_false_iff.mp h)

theorem maybe_of_not_isNull {value : Value} {convert : Value → Except Error α}
    (h : value.isNull = false) : value.maybe convert = (convert value).map some :=
  if_neg (Bool.eq_false_iff.mp h)

end Value

/-! ### Readings of one row -/

namespace Reading

/-- The reading makes this of the row: it goes on with a result and leaves the cursor where it is,
or fails. -/
structure Makes (reading : Reading α) (row : Row) (result : Except Error α) : Prop where
  outcome_andThen : ∀ {β : Type} (next : α → Reading β) (query : Query) (rest : List Row),
    (reading.andThen next).outcome query (some ⟨some row, rest⟩) =
      match result with
      | .ok a => (next a).outcome query (some ⟨some row, rest⟩)
      | .error err => .error err

/-- The reading makes this of the row and leaves the cursor where it is. -/
structure Reads (reading : Reading α) (row : Row) (a : α) : Prop where
  outcome_andThen : ∀ {β : Type} (next : α → Reading β) (query : Query) (rest : List Row),
    (reading.andThen next).outcome query (some ⟨some row, rest⟩) =
      (next a).outcome query (some ⟨some row, rest⟩)

variable {reading : Reading α} {row : Row} {a : α} {index : Nat} {value : Value}
  {convert : Value → Except Error α} {result : Except Error α}

theorem Makes.reads (h : reading.Makes row (.ok a)) : reading.Reads row a := ⟨h.outcome_andThen⟩

theorem Reads.makes (h : reading.Reads row a) : reading.Makes row (.ok a) := ⟨h.outcome_andThen⟩

theorem makes_stop (result : Except Error α) (row : Row) : (stop result).Makes row result := by
  refine ⟨fun next query rest ↦ ?_⟩
  cases result <;> rfl

theorem reads_pure (a : α) (row : Row) : (pure a : Reading α).Reads row a := ⟨fun _ _ _ ↦ rfl⟩

theorem Reads.bind {next : α → Reading β} {b : β} (h : reading.Reads row a)
    (hnext : (next a).Reads row b) : (reading >>= next).Reads row b := by
  refine ⟨fun last query rest ↦ ?_⟩
  change ((reading.andThen next).andThen last).outcome query _ = _
  rw [andThen_assoc, h.outcome_andThen, hnext.outcome_andThen]

/-- What is read after a value that is there. -/
theorem Reads.bind_makes {next : α → Reading β} {result : Except Error β}
    (h : reading.Reads row a) (hnext : (next a).Makes row result) :
    (reading >>= next).Makes row result := by
  refine ⟨fun last query rest ↦ ?_⟩
  change ((reading.andThen next).andThen last).outcome query _ = _
  rw [andThen_assoc, h.outcome_andThen, hnext.outcome_andThen]

theorem Makes.bind {next : α → Reading β} {f : α → Except Error β} (h : reading.Makes row result)
    (hnext : ∀ a, (next a).Makes row (f a)) : (reading >>= next).Makes row (result >>= f) := by
  refine ⟨fun last query rest ↦ ?_⟩
  change ((reading.andThen next).andThen last).outcome query _ = _
  rw [andThen_assoc, h.outcome_andThen]
  cases result with
  | ok a => exact (hnext a).outcome_andThen last query rest
  | error err => rfl

theorem outcome_column (next : Value → Reading α) (query : Query) (rest : List Row)
    (h : row[index]? = some value) :
    (column index next).outcome query (some ⟨some row, rest⟩) =
      (next value).outcome query (some ⟨some row, rest⟩) := by
  have hvalue : (((some ⟨some row, rest⟩ : Option Relational.Cursor).bind (·.current)).bind
      fun row ↦ row[index]?) = some value := h
  simp only [outcome, hvalue]

/-- What is made of a column is made of its value. -/
theorem makes_column {next : Value → Reading α} (h : row[index]? = some value)
    (hnext : (next value).Makes row result) : (column index next).Makes row result := by
  refine ⟨fun last query rest ↦ ?_⟩
  rw [andThen, outcome_column _ _ _ h, hnext.outcome_andThen]

theorem makes_required (convert : Value → Except Error α) (h : row[index]? = some value) :
    (required index convert).Makes row (value.given .nullValue convert) :=
  makes_column h (makes_stop _ row)

theorem makes_optional (convert : Value → Except Error α) (h : row[index]? = some value) :
    (optional index convert).Makes row (value.maybe convert) :=
  makes_column h (makes_stop _ row)

theorem reads_required (h : row[index]? = some value) (hnull : value.isNull = false)
    (hconvert : convert value = .ok a) : (required index convert).Reads row a := by
  have hmakes := makes_required convert h
  rw [Value.given_of_not_isNull hnull, hconvert] at hmakes
  exact hmakes.reads

theorem reads_optional (h : row[index]? = some value) (hnull : value.isNull = false)
    (hconvert : convert value = .ok a) : (optional index convert).Reads row (some a) := by
  have hmakes := makes_optional convert h
  rw [Value.maybe_of_not_isNull hnull, hconvert] at hmakes
  exact hmakes.reads

/-- A single value of the current row, which is kept. -/
theorem makes_single {options : FetchOptions} (convert : Value → Except Error α)
    (hadvance : options.advance = false) (hkeep : options.closeAfter = false)
    (h : row[index]? = some value) :
    (single index convert options).Makes row
      (if value.isNull then .ok (if options.nullIsDistinct then .null else .notFound)
        else (convert value).map .value) := by
  simp only [single, hadvance, hkeep, Bool.false_eq_true, if_false, closeIf]
  refine makes_column h ?_
  cases value.isNull with
  | true => exact makes_stop _ row
  | false =>
    simp only [Bool.false_eq_true, if_false]
    cases convert value <;> exact makes_stop _ row

theorem reads_single {options : FetchOptions} (hadvance : options.advance = false)
    (hkeep : options.closeAfter = false) (h : row[index]? = some value)
    (hnull : value.isNull = false) (hconvert : convert value = .ok a) :
    (single index convert options).Reads row (.value a) := by
  have hmakes := makes_single convert hadvance hkeep h
  rw [if_neg (Bool.eq_false_iff.mp hnull), hconvert] at hmakes
  exact hmakes.reads

/-- A single value of the current row that may not be missing. -/
theorem outcome_single_value {options : FetchOptions} (convert : Value → Except Error α)
    (hoptions : options = ⟨false, false, false⟩) (h : row[index]? = some value)
    (next : α → Reading β) (query : Query) (rest : List Row) :
    ((single index convert options).andThen fun fetched ↦
        (stop fetched.toExcept).andThen next).outcome query (some ⟨some row, rest⟩) =
      match value.given .notFound convert with
      | .ok a => (next a).outcome query (some ⟨some row, rest⟩)
      | .error err => .error err := by
  subst hoptions
  rw [(makes_single convert rfl rfl h).outcome_andThen, Value.given]
  cases value.isNull with
  | true => rfl
  | false => cases convert value <;> rfl

/-- The results of all rows, or the failure of the first that cannot be read. -/
def allRead : List (Except Error α) → Except Error (List α)
  | [] => .ok []
  | outcome :: rest => do return (← outcome) :: (← allRead rest)

theorem allRead_map_ok (results : List α) : allRead (results.map .ok) = .ok results := by
  induction results with
  | nil => rfl
  | cons a rest ih => rw [List.map_cons, allRead, ih]; rfl

/-- Rows are read in turn until one cannot be read, and then the cursor is closed. -/
theorem outcome_rows_of_makes {rows : List Row} {outcomes : List (Except Error α)}
    (h : List.Forall₂ reading.Makes rows outcomes) (next : List α → Reading β) (query : Query)
    (current : Option Row) :
    ((Reading.rows reading (rows.length + 1)).andThen next).outcome query (some ⟨current, rows⟩) =
      match allRead outcomes with
      | .ok results => (next results).outcome query none
      | .error err => .error err := by
  induction h generalizing next current with
  | nil => rfl
  | @cons row outcome rows outcomes hrow _ ih =>
    change ((reading.andThen fun a ↦ (Reading.rows reading (rows.length + 1)).andThen
      fun rest ↦ stop (.ok (a :: rest))).andThen next).outcome query (some ⟨some row, rows⟩) = _
    rw [andThen_assoc, hrow.outcome_andThen, allRead]
    cases outcome with
    | error err => rfl
    | ok a =>
      dsimp only
      rw [andThen_assoc]
      refine (ih (fun rest ↦ next (a :: rest)) (some row)).trans ?_
      cases allRead outcomes <;> rfl

end Reading

/-! ### Requests -/

namespace Request

variable {reading : Reading α} (query : Query) (params : List Value)

/-- A request for rows has all of their results, or fails as the first row that cannot be read. -/
theorem readOff_list_of_makes {rows : List Row} {outcomes : List (Except Error α)}
    (h : List.Forall₂ reading.Makes rows outcomes) :
    (Request.list query params reading).readOff rows = Reading.allRead outcomes := by
  have hrows := Reading.outcome_rows_of_makes h pure query none
  rw [Reading.andThen_pure] at hrows
  refine hrows.trans ?_
  cases Reading.allRead outcomes <;> rfl

theorem readOff_first_of_makes {rows : List Row} {outcomes : List (Except Error α)}
    (h : List.Forall₂ reading.Makes rows outcomes) :
    (Request.first query params reading).readOff rows =
      match Reading.allRead outcomes with
      | .ok [] => .error .notFound
      | .ok (a :: _) => .ok a
      | .error err => .error err := by
  refine (Reading.outcome_rows_of_makes h _ query none).trans ?_
  rcases Reading.allRead outcomes with err | _ | ⟨a, rest⟩ <;> rfl

theorem makes_of_reads {rows : List Row} {results : List α}
    (h : List.Forall₂ reading.Reads rows results) :
    List.Forall₂ reading.Makes rows (results.map .ok) :=
  List.forall₂_map_right_iff.mpr (h.imp fun _ _ hreads ↦ hreads.makes)

theorem readOff_list {rows : List Row} {results : List α}
    (h : List.Forall₂ reading.Reads rows results) :
    (Request.list query params reading).readOff rows = .ok results :=
  (readOff_list_of_makes query params (makes_of_reads h)).trans (Reading.allRead_map_ok results)

theorem readOff_first {rows : List Row} {results : List α}
    (h : List.Forall₂ reading.Reads rows results) :
    (Request.first query params reading).readOff rows =
      match results with
      | [] => .error .notFound
      | a :: _ => .ok a := by
  rw [readOff_first_of_makes query params (makes_of_reads h), Reading.allRead_map_ok]
  cases results <;> rfl

/-- Rows that can be read one by one give the results that they give. -/
theorem exists_reads {ρ : Type} {rows : List ρ} {columns : ρ → Row} {shown : α → β} {key : ρ → β}
    (h : ∀ row ∈ rows, ∃ a, reading.Reads (columns row) a ∧ shown a = key row) :
    ∃ results, List.Forall₂ reading.Reads (rows.map columns) results ∧
      results.map shown = rows.map key := by
  induction rows with
  | nil => exact ⟨[], .nil, rfl⟩
  | cons row rest ih =>
    obtain ⟨⟨a, hreads, hshown⟩, hrest⟩ := List.forall_mem_cons.mp h
    obtain ⟨results, hresults, hkeys⟩ := ih hrest
    exact ⟨a :: results, .cons hreads hresults, by rw [List.map_cons, hshown, hkeys]; rfl⟩

/-- A request for rows that can be read has one result for each. -/
theorem exists_readOff_list {ρ : Type} {rows : List ρ} {columns : ρ → Row} {shown : α → β}
    {key : ρ → β} (h : ∀ row ∈ rows, ∃ a, reading.Reads (columns row) a ∧ shown a = key row) :
    ∃ results, (Request.list query params reading).readOff (rows.map columns) = .ok results ∧
      results.map shown = rows.map key := by
  obtain ⟨results, hreads, hkeys⟩ := exists_reads h
  exact ⟨results, readOff_list query params hreads, hkeys⟩

end Request

/-! ### Objects and relations -/

theorem Value.toInt_int (i : Int) : Value.toInt (.int i) = .ok i := rfl

theorem Value.maybe_toId_int (id : Nat) : (Value.int id).maybe Value.toId = .ok (some id) := by
  rw [maybe_of_not_isNull rfl, toId_int]
  rfl

theorem Value.toText_text {reader : Reader} (text : String) :
    Value.toText reader (.text text) = .ok (Text.truncate reader.limit text) := rfl

/-- A bundle is deleted if its row is given out. -/
theorem Request.readOff_deleteBundle {id : Nat} {request : Request Unit}
    (h : Request.deleteBundle id = .ok request) (deleted : Nat) :
    request.readOff (Store.returned deleted) = .ok () := by
  rw [Request.deleteBundle] at h
  cases hparam : Argument.id "bundle" id with
  | error err =>
    rw [hparam] at h
    cases h
  | ok param =>
    rw [hparam] at h
    cases h
    simp [Request.readOff, Store.returned, Reading.single, Reading.andThen, Reading.closeIf,
      FetchOptions.standard, Reading.outcome, Value.isNull, Value.toId_int, Fetched.toExcept,
      Except.map]

theorem ObjectKind.ofCode_code (kind : ObjectKind) : ofCode kind.code = .ok kind := by
  cases kind <;> rfl

theorem RelationKind.ofCode_code (kind : RelationKind) : ofCode kind.code = .ok kind := by
  cases kind <;> rfl

/-- The row has a time that a clock has shown, a space and a name that are texts, a kind, and the id
of a session. -/
structure ObjectRow.IsLegible (row : ObjectRow) : Prop where
  created : row.created.IsClock
  space : ∃ text, row.space = .text text
  name : ∃ text, row.name = .text text
  kind : ∃ kind : ObjectKind, row.kind = .int kind.code
  session : ∃ session : Nat, row.session = .int session

/-- All columns of the row can be given out. -/
def ObjectRow.IsReadable (row : ObjectRow) : Prop :=
  ∀ value ∈ Store.objectColumns row, value.isGarbled = false

instance (row : ObjectRow) : Decidable row.IsReadable :=
  inferInstanceAs (Decidable (∀ value ∈ Store.objectColumns row, value.isGarbled = false))

/-- A bundle is given out without its kind. -/
theorem ObjectRow.isReadable_iff_of_isBundle {row : ObjectRow} (h : row.isBundle = true) :
    row.IsReadable ↔ ∀ value ∈ Store.bundleColumns row, value.isGarbled = false := by
  have hkind : row.kind = .int 4 := beq_iff_eq.mp h
  simp [IsReadable, Store.objectColumns, Store.bundleColumns, hkind]

/-- The kind of the row is one that the membership of a relation does not have. -/
def RelationRow.IsLegible (row : RelationRow) : Prop :=
  ∃ kind : RelationKind, kind ≠ .bundleRelation ∧ row.kind = .int kind.code

section Columns

variable {row : ObjectRow} {reader : Reader} {space name : String} {kind : ObjectKind}
  {session : Nat}

theorem ObjectRow.isReadable_of_columns (hcreated : row.created.IsClock)
    (hspace : row.space = .text space) (hname : row.name = .text name)
    (hkind : row.kind = .int kind.code) (hsession : row.session = .int session) :
    row.IsReadable := by
  simp [IsReadable, Store.objectColumns, hcreated.isGarbled, hspace, hname, hkind, hsession]

theorem ObjectRow.IsLegible.isReadable (h : row.IsLegible) : row.IsReadable := by
  obtain ⟨space, hspace⟩ := h.space
  obtain ⟨name, hname⟩ := h.name
  obtain ⟨kind, hkind⟩ := h.kind
  obtain ⟨session, hsession⟩ := h.session
  exact isReadable_of_columns h.created hspace hname hkind hsession

/-- The session in the last column of a row, after which the cursor is closed. One that is missing
reads as 0. -/
theorem outcome_session {cells : Row} {index : Nat} {value : Value} (h : cells[index]? = some value)
    (next : Nat → Reading β) (query : Query) (rest : List Row) :
    ((Reading.single index Value.toId FetchOptions.standard.currentRow).andThen fun fetched ↦
        next (fetched.toOption.getD 0)).outcome query (some ⟨some cells, rest⟩) =
      match value.maybe Value.toId with
      | .ok session => (next (session.getD 0)).outcome query none
      | .error err => .error err := by
  refine (Reading.outcome_column _ query rest h).trans ?_
  dsimp only
  rw [Value.maybe]
  cases value.isNull with
  | true => rfl
  | false => cases value.toId <;> rfl

/-- What is told of an object, column by column. -/
def ObjectRow.info (reader : Reader) (row : ObjectRow) : Except Error ObjectInfo := do
  let created ← row.created.given .nullValue (Value.toEpoch reader)
  let space ← row.space.given .nullValue (Value.toText reader)
  let name ← row.name.maybe (Value.toText reader)
  let kind ← row.kind.given .nullValue Value.toObjectKind
  let session ← row.session.maybe Value.toId
  return ⟨row.id, session.getD 0, created, space, name.getD "", kind⟩

/-- What is told of a bundle. One without a time or a space is not found. -/
def ObjectRow.bundle (reader : Reader) (row : ObjectRow) : Except Error BundleInfo := do
  let created ← row.created.given .notFound (Value.toEpoch reader)
  let space ← row.space.given .notFound (Value.toText reader)
  let name ← row.name.maybe (Value.toText reader)
  let session ← row.session.maybe Value.toId
  return ⟨row.id, session.getD 0, created, space, name.getD ""⟩

theorem makes_objectRow (reader : Reader) (row : ObjectRow) :
    (Request.objectRow reader).Makes (Store.objectColumns row) (row.info reader) := by
  have hcreated := Reading.makes_required (Value.toEpoch reader)
    (rfl : (Store.objectColumns row)[1]? = some row.created)
  have hspace := Reading.makes_required (Value.toText reader)
    (rfl : (Store.objectColumns row)[2]? = some row.space)
  have hname := Reading.makes_optional (Value.toText reader)
    (rfl : (Store.objectColumns row)[3]? = some row.name)
  have hkind := Reading.makes_required Value.toObjectKind
    (rfl : (Store.objectColumns row)[4]? = some row.kind)
  have hsession := Reading.makes_optional Value.toId
    (rfl : (Store.objectColumns row)[5]? = some row.session)
  refine (Reading.reads_required rfl rfl (Value.toId_int row.id)).bind_makes ?_
  refine hcreated.bind fun created ↦ hspace.bind fun space ↦ hname.bind fun name ↦ ?_
  exact hkind.bind fun kind ↦ hsession.bind fun session ↦ (Reading.reads_pure _ _).makes

theorem makes_objectRows (reader : Reader) (rows : List ObjectRow) :
    List.Forall₂ (Request.objectRow reader).Makes (rows.map Store.objectColumns)
      (rows.map (·.info reader)) := by
  rw [List.forall₂_map_left_iff, List.forall₂_map_right_iff, List.forall₂_same]
  exact fun row _ ↦ makes_objectRow reader row

/-- What is read off the row of an object. -/
theorem reads_objectRow {epoch : Int} (hcreated : row.created.IsClock)
    (hepoch : row.created.toEpoch reader = .ok epoch) (hspace : row.space = .text space)
    (hname : row.name = .text name) (hkind : row.kind = .int kind.code)
    (hsession : row.session = .int session) :
    (Request.objectRow reader).Reads (Store.objectColumns row)
      ⟨row.id, session, epoch, Text.truncate reader.limit space,
        Text.truncate reader.limit name, kind⟩ := by
  have hmakes := makes_objectRow reader row
  have hcode : (Value.int kind.code).given .nullValue Value.toObjectKind = .ok kind :=
    ObjectKind.ofCode_code kind
  rw [ObjectRow.info, Value.given_of_not_isNull hcreated.isNull, hepoch, hspace, hname, hkind,
    hcode, hsession, Value.maybe_toId_int] at hmakes
  exact hmakes.reads

theorem ObjectRow.IsLegible.exists_reads (h : row.IsLegible) (reader : Reader) :
    ∃ info, (Request.objectRow reader).Reads (Store.objectColumns row) info ∧
      info.id = row.id := by
  obtain ⟨space, hspace⟩ := h.space
  obtain ⟨name, hname⟩ := h.name
  obtain ⟨kind, hkind⟩ := h.kind
  obtain ⟨session, hsession⟩ := h.session
  obtain ⟨epoch, hepoch⟩ := h.created.exists_epoch reader
  exact ⟨_, reads_objectRow h.created hepoch hspace hname hkind hsession, rfl⟩

/-- What is read off the row of a session. -/
theorem reads_sessionRow {started : Value} {epoch : Int} (hstarted : started.IsClock)
    (hepoch : started.toEpoch reader = .ok epoch) (id : Nat)
    (macAddress user program commandLine : String) (pid : Int) :
    (Request.sessionRow reader id).Reads
      [.text macAddress, .text user, .int pid, .text program, .text commandLine, started]
      ⟨id, Text.truncate reader.limit macAddress, Text.truncate reader.limit user, pid,
        Text.truncate reader.limit program, Text.truncate reader.limit commandLine, epoch⟩ := by
  refine (Reading.reads_optional rfl rfl (Value.toText_text macAddress)).bind ?_
  refine (Reading.reads_optional rfl rfl (Value.toText_text user)).bind ?_
  refine (Reading.reads_optional rfl rfl (Value.toInt_int pid)).bind ?_
  refine (Reading.reads_optional rfl rfl (Value.toText_text program)).bind ?_
  refine (Reading.reads_optional rfl rfl (Value.toText_text commandLine)).bind ?_
  exact (Reading.reads_required rfl hstarted.isNull hepoch).bind (Reading.reads_pure _ _)

/-- What is read off a row with one end of a relation. -/
theorem reads_endRow {kind : RelationKind} (id queried other : Nat) :
    (Request.endRow queried).Reads [.int id, .int other, .int kind.code]
      ⟨id, queried, other, kind⟩ := by
  refine (Reading.reads_required rfl rfl (Value.toId_int id)).bind ?_
  refine (Reading.reads_required rfl rfl (Value.toId_int other)).bind ?_
  refine (Reading.reads_required rfl rfl (RelationKind.ofCode_code kind)).bind ?_
  exact Reading.reads_pure _ _

/-- What is read off a row with both ends of a relation. -/
theorem reads_memberRow {kind : RelationKind} (id source destination : Nat) :
    Request.memberRow.Reads [.int id, .int source, .int destination, .int kind.code]
      ⟨id, source, destination, kind⟩ := by
  refine (Reading.reads_required rfl rfl (Value.toId_int id)).bind ?_
  refine (Reading.reads_required rfl rfl (Value.toId_int source)).bind ?_
  refine (Reading.reads_required rfl rfl (Value.toId_int destination)).bind ?_
  refine (Reading.reads_required rfl rfl (RelationKind.ofCode_code kind)).bind ?_
  exact Reading.reads_pure _ _

/-- What is read off the row of a bundle, whatever its columns hold. -/
theorem readOff_bundleReading (reader : Reader) (row : ObjectRow) (params : List Value)
    (rest : List Row) :
    (⟨.getBundleInfo, params, fun _ ↦ Request.bundleReading reader⟩ :
      Request BundleInfo).readOff (Store.bundleColumns row :: rest) = row.bundle reader := by
  let sameRow := FetchOptions.standard.currentRow.keepCursor
  let cells : Row := Store.bundleColumns row
  have hid : (Reading.single 0 Value.toId sameRow).Reads cells (.value row.id) :=
    Reading.reads_single rfl rfl rfl rfl (Value.toId_int row.id)
  have hname : (Reading.single 3 (Value.toText reader) sameRow.nullDistinct).Makes cells
      (if row.name.isNull then .ok .null else (row.name.toText reader).map .value) :=
    Reading.makes_single (Value.toText reader) rfl rfl rfl
  -- The first column comes with the only fetch, the last one with the only close.
  refine (hid.outcome_andThen _ .getBundleInfo rest).trans ?_
  refine (Reading.outcome_single_value (Value.toEpoch reader) rfl
    (rfl : cells[1]? = some row.created) _ .getBundleInfo rest).trans ?_
  rw [ObjectRow.bundle]
  cases row.created.given .notFound (Value.toEpoch reader) with
  | error err => rfl
  | ok created =>
  refine (Reading.outcome_single_value (Value.toText reader) rfl
    (rfl : cells[2]? = some row.space) _ .getBundleInfo rest).trans ?_
  cases row.space.given .notFound (Value.toText reader) with
  | error err => rfl
  | ok space =>
  refine (hname.outcome_andThen _ .getBundleInfo rest).trans ?_
  have hsession (name : String) := outcome_session (rfl : cells[4]? = some row.session)
    (fun session ↦ (pure ⟨row.id, session, created, space, name⟩ : Reading BundleInfo))
    .getBundleInfo rest
  rw [Value.maybe]
  cases row.name.isNull with
  | true =>
    refine (hsession "").trans ?_
    cases row.session.maybe Value.toId <;> rfl
  | false =>
    cases row.name.toText reader with
    | error err => rfl
    | ok name =>
      refine (hsession name).trans ?_
      cases row.session.maybe Value.toId <;> rfl

/-- What is read off the row of a bundle. -/
theorem readOff_bundle {epoch : Int} (hcreated : row.created.IsClock)
    (hepoch : row.created.toEpoch reader = .ok epoch) (hspace : row.space = .text space)
    (hname : row.name = .text name) (hsession : row.session = .int session) (params : List Value)
    (rest : List Row) :
    (⟨.getBundleInfo, params, fun _ ↦ Request.bundleReading reader⟩ :
      Request BundleInfo).readOff (Store.bundleColumns row :: rest) =
      .ok ⟨row.id, session, epoch, Text.truncate reader.limit space,
        Text.truncate reader.limit name⟩ := by
  rw [readOff_bundleReading, ObjectRow.bundle, Value.given_of_not_isNull hcreated.isNull, hepoch,
    hspace, hname, hsession, Value.maybe_toId_int]
  rfl

end Columns

end Provenance
