import Provenance.Proofs.Consulting
import Provenance.Proofs.RequestYields

/-!
What is told of objects and bundles, whatever the columns of their rows hold. Asking for an object
tells `ObjectRow.info` of its row (`served_objectInfo`), asking for a bundle `ObjectRow.bundle`
(`served_bundleInfo`). Either fails as the first column fails that cannot be read
(`isOfValue_info`, `isOfValue_bundle`). One reads the columns of all rows and keeps the first
result, the other goes along the columns of one row; where a time and a space may not be missing
they tell the same of a bundle (`info_eq_bundle`, `bundle_told_alike`). If the row of a bundle is
not given out, each fails as a statement of its own (`garbled_bundle_told_apart`).
-/

set_option autoImplicit false
set_option relaxedAutoImplicit false

namespace Provenance

open Relational (Config Statement World)

variable {α β : Type}

/-- What the relational driver with planned failures is known by. -/
def Relational.faultyTally (config : Config) : Tally (Relational.faulty config) :=
  Faulty.tally (Relational.tally config)

/-! ### Columns that cannot be read -/

/-- A value was missing, or was not one of those that were asked for. -/
def Error.isOfValue : Error → Bool
  | .nullValue | .invalidType _ | .calendarUnderflow => true
  | _ => false

namespace Value

variable {allowed : Error → Prop} {convert : Value → Except Error α} {value : Value} {err : Error}

/-- All failures of the conversion are among these. -/
def FailsOnly (allowed : Error → Prop) (convert : Value → Except Error α) : Prop :=
  ∀ value err, convert value = .error err → allowed err

section Types

variable (htype : ∀ text, allowed (.invalidType text))

include htype

theorem failsOnly_toInt : FailsOnly allowed toInt := by
  intro value err h
  unfold toInt at h
  split at h <;> cases h
  exact htype _

theorem failsOnly_toId : FailsOnly allowed toId := by
  intro value err h
  unfold toId at h
  repeat' split at h
  all_goals cases h
  all_goals exact htype _

theorem failsOnly_toText (reader : Reader) : FailsOnly allowed (toText reader) := by
  intro value err h
  unfold toText at h
  split at h <;> cases h
  exact htype _

theorem failsOnly_toEpoch (hcalendar : allowed .calendarUnderflow) (reader : Reader) :
    FailsOnly allowed (toEpoch reader) := by
  intro value err h
  unfold toEpoch at h
  repeat' split at h
  all_goals cases h
  · exact hcalendar
  · exact htype _

theorem failsOnly_toObjectKind : FailsOnly allowed toObjectKind := by
  intro value err h
  unfold toObjectKind at h
  split at h
  · unfold ObjectKind.ofCode at h
    split at h <;> cases h
    exact htype _
  · cases h
    exact failsOnly_toInt htype _ _ ‹_›

end Types

theorem allowed_of_given {missing : Error} (hmissing : value.isNull = true → allowed missing)
    (hconvert : ∀ err, convert value = .error err → allowed err)
    (h : value.given missing convert = .error err) : allowed err := by
  unfold given at h
  split at h
  · cases h
    exact hmissing ‹_›
  · exact hconvert err h

theorem allowed_of_maybe (hconvert : FailsOnly allowed convert)
    (h : value.maybe convert = .error err) : allowed err := by
  unfold maybe at h
  split at h
  · cases h
  · cases hresult : convert value with
    | ok a =>
      rw [hresult] at h
      cases h
    | error err' =>
      rw [hresult] at h
      cases h
      exact hconvert _ _ hresult

end Value

theorem Except.bind_eq_error {result : Except Error α} {next : α → Except Error β} {err : Error}
    (h : result >>= next = .error err) :
    result = .error err ∨ ∃ a, result = .ok a ∧ next a = .error err := by
  cases result with
  | error err' =>
    obtain rfl : err' = err := Except.error.inj h
    exact .inl rfl
  | ok a => exact .inr ⟨a, rfl, h⟩

theorem Except.bind_eq_ok {result : Except Error α} {next : α → Except Error β} {b : β}
    (h : result >>= next = .ok b) : ∃ a, result = .ok a ∧ next a = .ok b := by
  cases result with
  | error err => cases h
  | ok a => exact ⟨a, rfl, h⟩

namespace ObjectRow

variable {row : ObjectRow} {reader : Reader} {err : Error}

section Allowed

variable (allowed : Error → Prop) (htype : ∀ text, allowed (.invalidType text))
  (hcreated : ∀ err, row.created.toEpoch reader = .error err → allowed err)

include htype hcreated

/-- An object that cannot be told of has a column that is missing or cannot be read. -/
theorem allowed_of_info (hnull : allowed .nullValue) (h : row.info reader = .error err) :
    allowed err := by
  rcases Except.bind_eq_error h with hepoch | ⟨created, -, h⟩
  · exact Value.allowed_of_given (fun _ ↦ hnull) hcreated hepoch
  rcases Except.bind_eq_error h with hspace | ⟨space, -, h⟩
  · exact Value.allowed_of_given (fun _ ↦ hnull) (Value.failsOnly_toText htype reader _)
      hspace
  rcases Except.bind_eq_error h with hname | ⟨name, -, h⟩
  · exact Value.allowed_of_maybe (Value.failsOnly_toText htype reader) hname
  rcases Except.bind_eq_error h with hkind | ⟨kind, -, h⟩
  · exact Value.allowed_of_given (fun _ ↦ hnull) (Value.failsOnly_toObjectKind htype _) hkind
  rcases Except.bind_eq_error h with hsession | ⟨session, -, h⟩
  · exact Value.allowed_of_maybe (Value.failsOnly_toId htype) hsession
  · cases h

/-- A bundle that cannot be told of has a column that cannot be read, and if it is not found then
a time or a space is missing. -/
theorem allowed_of_bundle
    (hmissing : row.created.isNull = true ∨ row.space.isNull = true → allowed .notFound)
    (h : row.bundle reader = .error err) : allowed err := by
  rcases Except.bind_eq_error h with hepoch | ⟨created, -, h⟩
  · exact Value.allowed_of_given (fun hnull ↦ hmissing (.inl hnull)) hcreated hepoch
  rcases Except.bind_eq_error h with hspace | ⟨space, -, h⟩
  · exact Value.allowed_of_given (fun hnull ↦ hmissing (.inr hnull))
      (Value.failsOnly_toText htype reader _) hspace
  rcases Except.bind_eq_error h with hname | ⟨name, -, h⟩
  · exact Value.allowed_of_maybe (Value.failsOnly_toText htype reader) hname
  rcases Except.bind_eq_error h with hsession | ⟨session, -, h⟩
  · exact Value.allowed_of_maybe (Value.failsOnly_toId htype) hsession
  · cases h

end Allowed

theorem isOfValue_info (h : row.info reader = .error err) : err.isOfValue = true :=
  allowed_of_info (·.isOfValue = true) (fun _ ↦ rfl)
    (Value.failsOnly_toEpoch (fun _ ↦ rfl) (by rfl) reader _) rfl h

theorem isOfValue_bundle (h : row.bundle reader = .error err) :
    err.isOfValue = true ∨
      err = .notFound ∧ (row.created.isNull = true ∨ row.space.isNull = true) :=
  allowed_of_bundle (fun err ↦ err.isOfValue = true ∨
      err = .notFound ∧ (row.created.isNull = true ∨ row.space.isNull = true))
    (fun _ ↦ .inl rfl) (Value.failsOnly_toEpoch (fun _ ↦ .inl rfl) (.inl rfl) reader _)
    (fun hmissing ↦ .inr ⟨rfl, hmissing⟩) h

/-- The time of the row does not run out of the calendar. -/
def InCalendar (reader : Reader) (row : ObjectRow) : Prop :=
  row.created.toEpoch reader ≠ .error .calendarUnderflow

theorem InCalendar.info_ne (h : row.InCalendar reader) :
    row.info reader ≠ .error .calendarUnderflow := fun hinfo ↦
  allowed_of_info (· ≠ .calendarUnderflow) (fun _ ↦ nofun)
    (fun _ herr hsame ↦ h (hsame ▸ herr)) nofun hinfo rfl

theorem InCalendar.bundle_ne (h : row.InCalendar reader) :
    row.bundle reader ≠ .error .calendarUnderflow := fun hbundle ↦
  allowed_of_bundle (· ≠ .calendarUnderflow) (fun _ ↦ nofun)
    (fun _ herr hsame ↦ h (hsame ▸ herr)) (fun _ ↦ nofun) hbundle rfl

end ObjectRow

/-- A bundle as the object that it is. -/
def BundleInfo.asObject (bundle : BundleInfo) : ObjectInfo :=
  ⟨bundle.id, bundle.session, bundle.created, bundle.space, bundle.name, .bundle⟩

/-- As an object and as a bundle the same is told of a bundle that has a time and a space, or the
same cannot be read. -/
theorem ObjectRow.info_eq_bundle {row : ObjectRow} (reader : Reader)
    (hbundle : row.isBundle = true) (hcreated : row.created.isNull = false)
    (hspace : row.space.isNull = false) :
    row.info reader = (row.bundle reader).map BundleInfo.asObject := by
  have hkind : row.kind.given .nullValue Value.toObjectKind = .ok .bundle := by
    rw [beq_iff_eq.mp hbundle]
    rfl
  rw [info, bundle, Value.given_of_not_isNull hcreated, Value.given_of_not_isNull hcreated,
    Value.given_of_not_isNull hspace, Value.given_of_not_isNull hspace, hkind]
  cases row.created.toEpoch reader with
  | error err => rfl
  | ok created =>
    cases row.space.toText reader with
    | error err => rfl
    | ok space =>
      cases row.name.maybe (Value.toText reader) with
      | error err => rfl
      | ok name => cases row.session.maybe Value.toId <;> rfl

/-! ### Asking for one object or bundle -/

namespace Reading

theorem allRead_eq_ok {outcomes : List (Except Error α)} {results : List α}
    (h : allRead outcomes = .ok results) : outcomes = results.map .ok := by
  induction outcomes generalizing results with
  | nil =>
    cases h
    rfl
  | cons outcome rest ih =>
    rw [allRead] at h
    obtain ⟨a, hfirst, h⟩ := Except.bind_eq_ok h
    obtain ⟨others, hrest, h⟩ := Except.bind_eq_ok h
    cases h
    rw [hfirst, ih hrest]
    rfl

theorem mem_of_allRead_eq_error {outcomes : List (Except Error α)} {err : Error}
    (h : allRead outcomes = .error err) : .error err ∈ outcomes := by
  induction outcomes with
  | nil => cases h
  | cons outcome rest ih =>
    rcases Except.bind_eq_error h with rfl | ⟨a, -, h⟩
    · exact List.mem_cons_self
    · rcases Except.bind_eq_error h with hrest | ⟨results, -, h⟩
      · exact List.mem_cons_of_mem _ (ih hrest)
      · cases h

end Reading

namespace Argument

theorem id_eq_ok {what : String} {id : Nat} {param : Value} (h : Argument.id what id = .ok param) :
    param = .int id := by
  unfold Argument.id at h
  repeat' split at h
  all_goals cases h
  rfl

end Argument

namespace Request

variable {reader : Reader} {id : Nat}

theorem eq_of_objectInfo {request : Request ObjectInfo}
    (h : Request.objectInfo reader id = .ok request) :
    request = .first .getObjectInfo [.int id] (objectRow reader) := by
  obtain ⟨param, hparam, h⟩ := Except.bind_eq_ok h
  obtain rfl := Argument.id_eq_ok hparam
  exact (Except.ok.inj h).symm

theorem eq_of_bundleInfo {request : Request BundleInfo}
    (h : Request.bundleInfo reader id = .ok request) :
    request = ⟨.getBundleInfo, [.int id], fun _ ↦ bundleReading reader⟩ := by
  obtain ⟨param, hparam, h⟩ := Except.bind_eq_ok h
  obtain rfl := Argument.id_eq_ok hparam
  exact (Except.ok.inj h).symm

end Request

namespace Store

variable {s : Store} {id : Nat}

/-- A request that only reads is read off its rows, unless one of them cannot be given out. -/
theorem served_of_select {request : Request α} {rows : List Row} (now : Value)
    (hplain : request.IsPlain) (hwrites : request.query.writes = false)
    (harity : request.params.length = request.query.arity)
    (hrows : s.select request.query (request.params.getD · .null) = rows) :
    s.served now request =
      (if Readable rows then request.readOff rows else .error (.statement request.query.name),
        s) := by
  have hrun := run_of_reads hwrites harity now s
  rw [hrows] at hrun
  by_cases hreadable : Readable rows
  · rw [if_pos hreadable]
    refine served_of_ok ?_
    rw [reply, hplain.asParameter, outcome_eq_ok_iff, hrun, giveOut_of_readable hreadable]
  · obtain ⟨column, hrefused⟩ := giveOut_of_not_readable hreadable s
    have hreply : s.reply now request = .error (Violation.garbledText column).toError := by
      rw [reply, hplain.asParameter, outcome, hrun, hrefused]
    rw [if_neg hreadable, served_of_refused hreply]

/-- What a request that only reads is told has been read off its rows. -/
theorem readOff_of_served_ok (request : Request α) {rows : List Row} {now : Value} {a : α}
    (hplain : request.IsPlain) (hwrites : request.query.writes = false)
    (harity : request.params.length = request.query.arity)
    (hrows : s.select request.query (request.params.getD · .null) = rows)
    (h : (s.served now request).1 = .ok a) : request.readOff rows = .ok a := by
  rw [served_of_select now hplain hwrites harity hrows] at h
  dsimp only at h
  split at h
  · exact h
  · cases h

/-- The objects of an id. -/
def objectsOf (s : Store) (id : Nat) : List ObjectRow := s.objects.filter (·.id == id)

/-- The bundles of an id. -/
def bundlesOf (s : Store) (id : Nat) : List ObjectRow :=
  s.objects.filter fun row ↦ row.id == id && row.isBundle

theorem mem_objectsOf {row : ObjectRow} : row ∈ s.objectsOf id ↔ row ∈ s.objects ∧ row.id = id := by
  rw [objectsOf, List.mem_filter, beq_iff_eq]

theorem mem_bundlesOf {row : ObjectRow} :
    row ∈ s.bundlesOf id ↔ row ∈ s.objects ∧ row.id = id ∧ row.isBundle = true := by
  rw [bundlesOf, List.mem_filter, Bool.and_eq_true, beq_iff_eq]

/-- An object is told of by the first of the rows with its id, if all of them can be read. -/
theorem served_objectInfo (s : Store) (now : Value) (reader : Reader) (id : Nat) :
    (s.served now (.first .getObjectInfo [.int id] (Request.objectRow reader))).1 =
      if ∀ row ∈ s.objectsOf id, row.IsReadable then
        match Reading.allRead ((s.objectsOf id).map (·.info reader)) with
        | .ok [] => .error .notFound
        | .ok (told :: _) => .ok told
        | .error err => .error err
      else .error (.statement Query.getObjectInfo.name) := by
  have hrows : s.objectsById (.int id) = (s.objectsOf id).map objectColumns := by
    simp only [objectsById, idEquals_int, objectsOf]
  have hreadable : Readable ((s.objectsOf id).map objectColumns) ↔
      ∀ row ∈ s.objectsOf id, row.IsReadable := List.forall_mem_map
  have hmakes := makes_objectRows reader (s.objectsOf id)
  have hserved := served_of_select now
    (show (Request.first .getObjectInfo [.int id] (Request.objectRow reader)).IsPlain by
      simp [Request.IsPlain, Request.first]) rfl rfl hrows
  rw [hserved]
  refine ite_congr (propext hreadable) (fun _ ↦ ?_) fun _ ↦ rfl
  refine (Request.readOff_first_of_makes _ _ hmakes).trans ?_
  rcases Reading.allRead _ with err | _ | ⟨told, rest⟩ <;> rfl

/-- A bundle is told of by the first of the rows with its id that are bundles. -/
theorem served_bundleInfo (s : Store) (now : Value) (reader : Reader) (id : Nat) :
    (s.served now ⟨.getBundleInfo, [.int id], fun _ ↦ Request.bundleReading reader⟩).1 =
      if ∀ row ∈ s.bundlesOf id, row.IsReadable then
        match s.bundlesOf id with
        | [] => .error .notFound
        | row :: _ => row.bundle reader
      else .error (.statement Query.getBundleInfo.name) := by
  have hrows : s.bundlesById (.int id) = (s.bundlesOf id).map bundleColumns := by
    simp only [bundlesById, idEquals_int, bundlesOf]
  have hreadable : Readable ((s.bundlesOf id).map bundleColumns) ↔
      ∀ row ∈ s.bundlesOf id, row.IsReadable := by
    refine List.forall_mem_map.trans (forall₂_congr fun row hrow ↦ ?_)
    exact (ObjectRow.isReadable_iff_of_isBundle (mem_bundlesOf.mp hrow).2.2).symm
  have hserved := served_of_select now
    (show Request.IsPlain ⟨.getBundleInfo, [.int id], fun _ ↦ Request.bundleReading reader⟩ by
      simp [Request.IsPlain]) rfl rfl hrows
  rw [hserved]
  refine ite_congr (propext hreadable) (fun _ ↦ ?_) fun _ ↦ rfl
  cases s.bundlesOf id with
  | nil => rfl
  | cons row rest => exact readOff_bundleReading reader row _ _

theorem served_objectInfo_of_absent (h : s.hasObject id = false) (now : Value) (reader : Reader) :
    (s.served now (.first .getObjectInfo [.int id] (Request.objectRow reader))).1 =
      .error .notFound := by
  have hnone : s.objectsOf id = [] := List.filter_eq_nil_iff.mpr (List.any_eq_false.mp h)
  rw [served_objectInfo, hnone]
  rfl

theorem served_bundleInfo_of_absent (h : ∀ row ∈ s.objects, row.id = id → row.isBundle = false)
    (now : Value) (reader : Reader) :
    (s.served now ⟨.getBundleInfo, [.int id], fun _ ↦ Request.bundleReading reader⟩).1 =
      .error .notFound := by
  have hnone : s.bundlesOf id = [] := by
    refine List.filter_eq_nil_iff.mpr fun row hrow hboth ↦ ?_
    rw [Bool.and_eq_true, beq_iff_eq] at hboth
    exact Bool.eq_false_iff.mp (h row hrow hboth.1) hboth.2
  rw [served_bundleInfo, hnone]
  rfl

/-- What asking for an object can come to: it is told of, a column cannot be read or given out, or
it is not stored. -/
inductive ToldObject (s : Store) (reader : Reader) (id : Nat) : Except Error ObjectInfo → Prop
  | told (row : ObjectRow) (hrow : row ∈ s.objects) (hid : row.id = id) (info : ObjectInfo)
      (hinfo : row.info reader = .ok info) : ToldObject s reader id (.ok info)
  | unread (err : Error) (hvalue : err.isOfValue = true) : ToldObject s reader id (.error err)
  | garbled : ToldObject s reader id (.error (.statement Query.getObjectInfo.name))
  | absent (habsent : s.hasObject id = false) : ToldObject s reader id (.error .notFound)

theorem told_objectInfo (s : Store) (now : Value) (reader : Reader) (id : Nat) :
    s.ToldObject reader id
      (s.served now (.first .getObjectInfo [.int id] (Request.objectRow reader))).1 := by
  rw [served_objectInfo]
  split
  case isFalse => exact .garbled
  cases hall : Reading.allRead ((s.objectsOf id).map (·.info reader)) with
  | error err =>
    obtain ⟨row, -, hinfo⟩ := List.mem_map.mp (Reading.mem_of_allRead_eq_error hall)
    exact .unread err (ObjectRow.isOfValue_info hinfo)
  | ok results =>
    have hrows := Reading.allRead_eq_ok hall
    cases results with
    | nil =>
      have hnone := List.filter_eq_nil_iff.mp (List.map_eq_nil_iff.mp hrows)
      exact .absent (List.any_eq_false.mpr hnone)
    | cons info rest =>
      obtain ⟨row, hrow, hinfo⟩ : ∃ row ∈ s.objectsOf id, row.info reader = .ok info := by
        rw [← List.mem_map, hrows]
        exact List.mem_cons_self
      obtain ⟨hmem, hid⟩ := mem_objectsOf.mp hrow
      exact .told row hmem hid info hinfo

/-- What asking for a bundle can come to: it is told of, a column cannot be read or given out, it
has no time or no space, or it is not stored. -/
inductive ToldBundle (s : Store) (reader : Reader) (id : Nat) : Except Error BundleInfo → Prop
  | told (row : ObjectRow) (hrow : row ∈ s.objects) (hid : row.id = id)
      (hbundle : row.isBundle = true) (info : BundleInfo) (hinfo : row.bundle reader = .ok info) :
      ToldBundle s reader id (.ok info)
  | unread (err : Error) (hvalue : err.isOfValue = true) : ToldBundle s reader id (.error err)
  | garbled : ToldBundle s reader id (.error (.statement Query.getBundleInfo.name))
  | incomplete (row : ObjectRow) (hrow : row ∈ s.objects) (hid : row.id = id)
      (hmissing : row.created.isNull = true ∨ row.space.isNull = true) :
      ToldBundle s reader id (.error .notFound)
  | absent (habsent : ∀ row ∈ s.objects, row.id = id → row.isBundle = false) :
      ToldBundle s reader id (.error .notFound)

theorem told_bundleInfo (s : Store) (now : Value) (reader : Reader) (id : Nat) :
    s.ToldBundle reader id
      (s.served now ⟨.getBundleInfo, [.int id], fun _ ↦ Request.bundleReading reader⟩).1 := by
  rw [served_bundleInfo]
  split
  case isFalse => exact .garbled
  cases hrows : s.bundlesOf id with
  | nil =>
    refine .absent fun row hrow hid ↦ Bool.eq_false_iff.mpr fun hbundle ↦ ?_
    have hin : row ∈ s.bundlesOf id := mem_bundlesOf.mpr ⟨hrow, hid, hbundle⟩
    rw [hrows] at hin
    exact List.not_mem_nil hin
  | cons row rest =>
    have hin : row ∈ s.bundlesOf id := by
      rw [hrows]
      exact List.mem_cons_self
    obtain ⟨hrow, hid, hbundle⟩ := mem_bundlesOf.mp hin
    dsimp only
    cases hinfo : row.bundle reader with
    | ok info => exact .told row hrow hid hbundle info hinfo
    | error err =>
      rcases ObjectRow.isOfValue_bundle hinfo with hvalue | ⟨rfl, hmissing⟩
      · exact .unread err hvalue
      · exact .incomplete row hrow hid hmissing

/-- The objects have ids of their own, and each has a time and a space. -/
structure ObjectsComplete (s : Store) : Prop where
  ids : (s.objects.map (·.id)).Nodup
  created : ∀ row ∈ s.objects, row.created.isNull = false
  space : ∀ row ∈ s.objects, row.space.isNull = false

section Complete

variable (h : s.ObjectsComplete) {row : ObjectRow} (hrow : row ∈ s.objects) (now : Value)
  (reader : Reader)

include h hrow

theorem ObjectsComplete.objectsOf_id : s.objectsOf row.id = [row] := by
  have hfound := filter_idEquals h.ids hrow
  simpa only [idEquals_int, objectsOf] using hfound

theorem ObjectsComplete.bundlesOf_id :
    s.bundlesOf row.id = if row.isBundle then [row] else [] := by
  have hboth : s.bundlesOf row.id = (s.objectsOf row.id).filter (·.isBundle) := by
    rw [objectsOf, List.filter_filter]
    exact List.filter_congr fun other _ ↦ Bool.and_comm _ _
  rw [hboth, h.objectsOf_id hrow, List.filter_singleton]
  cases row.isBundle <;> rfl

theorem ObjectsComplete.served_objectInfo :
    (s.served now (.first .getObjectInfo [.int row.id] (Request.objectRow reader))).1 =
      if row.IsReadable then row.info reader
      else .error (.statement Query.getObjectInfo.name) := by
  rw [Store.served_objectInfo, h.objectsOf_id hrow]
  refine ite_congr (propext List.forall_mem_singleton) (fun _ ↦ ?_) fun _ ↦ rfl
  rw [List.map_singleton]
  cases row.info reader <;> rfl

theorem ObjectsComplete.served_bundleInfo :
    (s.served now ⟨.getBundleInfo, [.int row.id], fun _ ↦ Request.bundleReading reader⟩).1 =
      if row.isBundle then
        if row.IsReadable then row.bundle reader else .error (.statement Query.getBundleInfo.name)
      else .error .notFound := by
  rw [Store.served_bundleInfo, h.bundlesOf_id hrow]
  cases row.isBundle with
  | false => rfl
  | true =>
    simp only [if_true]
    exact ite_congr (propext List.forall_mem_singleton) (fun _ ↦ rfl) fun _ ↦ rfl

end Complete

section Calendar

variable (h : s.ObjectsComplete) (now : Value) {reader : Reader}

include h

theorem ObjectsComplete.objectInfo_ne
    (hcalendar : ∀ row ∈ s.objects, row.id = id → row.IsReadable → row.InCalendar reader) :
    (s.served now (.first .getObjectInfo [.int id] (Request.objectRow reader))).1 ≠
      .error .calendarUnderflow := by
  cases hthere : s.hasObject id with
  | false =>
    rw [served_objectInfo_of_absent hthere]
    nofun
  | true =>
    obtain ⟨row, hrow, rfl⟩ := hasObject_iff.mp hthere
    rw [h.served_objectInfo hrow]
    split
    · exact (hcalendar row hrow rfl ‹_›).info_ne
    · nofun

theorem ObjectsComplete.bundleInfo_ne
    (hcalendar : ∀ row ∈ s.objects, row.id = id → row.isBundle = true → row.IsReadable →
      row.InCalendar reader) :
    (s.served now ⟨.getBundleInfo, [.int id], fun _ ↦ Request.bundleReading reader⟩).1 ≠
      .error .calendarUnderflow := by
  cases hthere : s.hasObject id with
  | false =>
    rw [served_bundleInfo_of_absent fun row hrow hid ↦
      absurd (hasObject_iff.mpr ⟨row, hrow, hid⟩) (Bool.eq_false_iff.mp hthere)]
    nofun
  | true =>
    obtain ⟨row, hrow, rfl⟩ := hasObject_iff.mp hthere
    rw [h.served_bundleInfo hrow]
    split
    · split
      · exact (hcalendar row hrow rfl ‹_› ‹_›).bundle_ne
      · nofun
    · nofun

end Calendar

end Store

/-! ### Backends that serve a store -/

namespace Backend

variable {config : Config} {s : Store} {backend after : FileBackend} {id : Nat}

/-- The backend is connected to a database that holds this store, has all of its statements, and
nothing is planned to fail. -/
structure Serves (config : Config) (s : Store) (backend : FileBackend) : Prop where
  tallied : backend.Tallied (Relational.faultyTally config)
  connected : backend.connection.isConnected = true
  serves : backend.connection.world.world.Serves s
  queues : ∀ point, backend.connection.world.plan.queues point = []

/-- A call has changed nothing in the database or around it, and no cursor is open after it. -/
structure Untouched (backend after : FileBackend) : Prop where
  world : after.connection.world.world = backend.connection.world.world
  closed : ∀ live, after.connection.live = some live →
    ∀ handle ∈ live.pools.handles, handle.cursor = none

theorem Tallied.closed {t : Tally (Relational.faulty config)} (h : backend.Tallied t)
    {live : Live Statement} (hlive : backend.connection.live = some live) :
    ∀ handle ∈ live.pools.handles, handle.cursor = none := by
  rcases h.connection.state with ⟨live', hholds⟩ | ⟨hnone, -⟩
  · cases hlive.symm.trans hholds.live_eq
    exact fun handle ↦ Watched.cursor_of_isRested hholds.rested
  · cases hlive.symm.trans hnone

/-- A call that only reads answers with what the store makes of its request. -/
theorem Serves.call_eq (h : backend.Serves config s) {made : Reader → Except Error (Request α)}
    {request : Request α} (hmade : made backend.reader = .ok request)
    (hreads : request.query.writes = false) :
    ∃ after, (Backend.call (Relational.faulty config) made).run backend =
        ((s.served backend.connection.world.world.now request).1, after) ∧
      backend.Untouched after := by
  obtain ⟨after, hcall, hworld⟩ :=
    h.tallied.call_of_serves hmade hreads h.connected h.queues h.serves
  have htallied : after.Tallied (Relational.faultyTally config) := by
    have hafter := h.tallied.call made
    rwa [hcall] at hafter
  exact ⟨after, hcall, hworld, fun live hlive ↦ htallied.closed hlive⟩

theorem Serves.objectInfo_eq (h : backend.Serves config s) (hpos : 0 < id) (hle : id ≤ Limit.id) :
    ∃ after, (Backend.objectInfo (Relational.faulty config) id).run backend =
        ((s.served backend.connection.world.world.now
          (.first .getObjectInfo [.int id] (Request.objectRow backend.reader))).1, after) ∧
      backend.Untouched after :=
  h.call_eq (Request.objectInfo_eq backend.reader hpos hle) rfl

theorem Serves.bundleInfo_eq (h : backend.Serves config s) (hpos : 0 < id) (hle : id ≤ Limit.id) :
    ∃ after, (Backend.bundleInfo (Relational.faulty config) id).run backend =
        ((s.served backend.connection.world.world.now
          ⟨.getBundleInfo, [.int id], fun _ ↦ Request.bundleReading backend.reader⟩).1, after) ∧
      backend.Untouched after :=
  h.call_eq (Request.bundleInfo_eq backend.reader hpos hle) rfl

/-- What asking a backend for an object and asking it for a bundle come to, with the backend after
each, for an id of a store. Of a time that runs out of the calendar nothing is said. -/
structure ToldAlike (s : Store) (backend : FileBackend) (id : Nat)
    (asObject : Except Error ObjectInfo × FileBackend)
    (asBundle : Except Error BundleInfo × FileBackend) : Prop where
  /-- The same is told of a bundle, or the same cannot be read of it. -/
  bundle : ∀ row ∈ s.objects, row.id = id → row.isBundle = true → row.IsReadable →
    row.InCalendar backend.reader → asBundle.1 = row.bundle backend.reader ∧
      asObject.1 = asBundle.1.map BundleInfo.asObject ∧
      asBundle.1 ≠ .error .calendarUnderflow
  /-- A bundle that cannot be given out fails each of the two statements. -/
  garbled : ∀ row ∈ s.objects, row.id = id → row.isBundle = true → ¬ row.IsReadable →
    asBundle.1 = .error (.statement Query.getBundleInfo.name) ∧
      asObject.1 = .error (.statement Query.getObjectInfo.name)
  other : ∀ row ∈ s.objects, row.id = id → row.isBundle = false → asBundle.1 = .error .notFound
  absent : s.hasObject id = false → asObject.1 = .error .notFound ∧ asBundle.1 = .error .notFound
  objectUntouched : (∀ row ∈ s.objects, row.id = id → row.IsReadable →
      row.InCalendar backend.reader) →
    asObject.1 ≠ .error .calendarUnderflow ∧ backend.Untouched asObject.2
  bundleUntouched : (∀ row ∈ s.objects, row.id = id → row.isBundle = true → row.IsReadable →
      row.InCalendar backend.reader) →
    asBundle.1 ≠ .error .calendarUnderflow ∧ backend.Untouched asBundle.2

/-- Both ways to ask for a bundle tell the same of it or fail alike, whatever its columns hold, as
long as its row is given out; else each fails as the statement that it is. Of another object only
one of them tells, and neither tells of an id that no object has. Both leave everything as it is. -/
theorem bundle_told_alike (h : backend.Serves config s) (hcomplete : s.ObjectsComplete)
    (hpos : 0 < id) (hle : id ≤ Limit.id) :
    backend.ToldAlike s id ((Backend.objectInfo (Relational.faulty config) id).run backend)
      ((Backend.bundleInfo (Relational.faulty config) id).run backend) := by
  obtain ⟨afterObject, hobject, huntouched⟩ := h.objectInfo_eq hpos hle
  obtain ⟨afterBundle, hbundle, huntouched'⟩ := h.bundleInfo_eq hpos hle
  rw [hobject, hbundle]
  constructor
  case bundle =>
    rintro row hrow rfl hkind hreadable hcalendar
    rw [hcomplete.served_bundleInfo hrow, if_pos hkind, hcomplete.served_objectInfo hrow,
      if_pos hreadable, if_pos hreadable]
    exact ⟨rfl, ObjectRow.info_eq_bundle _ hkind (hcomplete.created row hrow)
      (hcomplete.space row hrow), hcalendar.bundle_ne⟩
  case garbled =>
    rintro row hrow rfl hkind hgarbled
    rw [hcomplete.served_bundleInfo hrow, if_pos hkind, hcomplete.served_objectInfo hrow,
      if_neg hgarbled, if_neg hgarbled]
    exact ⟨rfl, rfl⟩
  case other =>
    rintro row hrow rfl hkind
    rw [hcomplete.served_bundleInfo hrow, if_neg (Bool.eq_false_iff.mp hkind)]
  case absent =>
    intro habsent
    have hnobundle : ∀ row ∈ s.objects, row.id = id → row.isBundle = false := fun row hrow hid ↦
      absurd (Store.hasObject_iff.mpr ⟨row, hrow, hid⟩) (Bool.eq_false_iff.mp habsent)
    exact ⟨Store.served_objectInfo_of_absent habsent _ _,
      Store.served_bundleInfo_of_absent hnobundle _ _⟩
  case objectUntouched => exact fun hcalendar ↦ ⟨hcomplete.objectInfo_ne _ hcalendar, huntouched⟩
  case bundleUntouched => exact fun hcalendar ↦ ⟨hcomplete.bundleInfo_ne _ hcalendar, huntouched'⟩

/-- Bundles in whose rows a name is missing, a name is no text, a session is no id, a name is not
given out, and the time is in the first hour of the calendar. -/
def oddBundles : Store :=
  { Store.empty with
    objects := [⟨1, .text "2026-01-01 00:00:00", .text "", .null, .int 4, .null⟩,
      ⟨2, .text "2026-01-01 00:00:00", .text "", .blob [255], .int 4, .null⟩,
      ⟨3, .text "2026-01-01 00:00:00", .text "", .null, .int 4, .int (-1)⟩,
      ⟨4, .text "2026-01-01 00:00:00", .text "", .garbled ⟨[255], by decide⟩, .int 4, .null⟩,
      ⟨5, .text "-262143-01-01 00:30:00", .text "", .null, .int 4, .null⟩]
    lastObject := 5 }

/-- A file that holds these bundles. -/
def oddBundlesFile : Faulty World :=
  ⟨.empty, { FileSite.untouched.world with
    files := [(FileSite.named.path, .tables oddBundles)] }⟩

/-- A backend on that file, five hours east of Greenwich. -/
def onOddBundles : FileBackend :=
  (Backend.start (Relational.faulty FileSite.named.config) FileSite.named.text { poolSize := 1 }
    ⟨18000, none⟩ oddBundlesFile).2

theorem serves_oddBundles : onOddBundles.Serves FileSite.named.config oddBundles where
  tallied := by
    have hstart : Backend.start (Relational.faulty FileSite.named.config) FileSite.named.text
        { poolSize := 1 } ⟨18000, none⟩ oddBundlesFile = (.ok (), onOddBundles) := Prod.ext rfl rfl
    exact .of_start (w := oddBundlesFile) ⟨rfl, rfl, rfl⟩ hstart
  connected := rfl
  serves := ⟨⟨.file FileSite.named.path, false, true⟩, rfl, rfl, rfl⟩
  queues _ := rfl

theorem objectsComplete_oddBundles : oddBundles.ObjectsComplete :=
  ⟨by decide, by decide, by decide⟩

/-- Both ways to ask for a bundle, to compare what they come to. -/
def askBoth (id : Nat) : Except Error ObjectInfo × Except Error BundleInfo :=
  let driver := Relational.faulty FileSite.named.config
  (((Backend.objectInfo driver id).run onOddBundles).1,
    ((Backend.bundleInfo driver id).run onOddBundles).1)

/-- A bundle without a name and a session is told of both ways, one with bytes for a name or a
negative number for a session neither way. -/
theorem odd_bundles_told_alike :
    let noText : Error := .invalidType "expected text, got Blob([255])"
    let noId : Error := .invalidType "expected non-negative integer, got Int(-1)"
    onOddBundles.Serves FileSite.named.config oddBundles ∧ oddBundles.ObjectsComplete ∧
      askBoth 1 = (.ok ⟨1, 0, 1767207600, "", "", .bundle⟩, .ok ⟨1, 0, 1767207600, "", ""⟩) ∧
      askBoth 2 = (.error noText, .error noText) ∧ askBoth 3 = (.error noId, .error noId) := by
  intro noText noId
  have htold (row : ObjectRow) (hrow : row ∈ oddBundles.objects) (hpos : 0 < row.id)
      (hle : row.id ≤ Limit.id) (hkind : row.isBundle = true) (hreadable : row.IsReadable)
      (hcalendar : row.created.toEpoch onOddBundles.reader ≠ .error .calendarUnderflow) :
      askBoth row.id = ((row.bundle onOddBundles.reader).map BundleInfo.asObject,
        row.bundle onOddBundles.reader) := by
    have halike := bundle_told_alike serves_oddBundles objectsComplete_oddBundles hpos hle
    obtain ⟨hbundle, hobject, -⟩ := halike.bundle row hrow rfl hkind hreadable hcalendar
    rw [hbundle] at hobject
    exact Prod.ext hobject hbundle
  refine ⟨serves_oddBundles, objectsComplete_oddBundles, ?_, ?_, ?_⟩
  · refine (htold _ List.mem_cons_self (by decide) (by decide) rfl (by decide)
      (by decide +kernel)).trans ?_
    decide +kernel
  · refine (htold _ (.tail _ List.mem_cons_self) (by decide) (by decide) rfl (by decide)
      (by decide +kernel)).trans ?_
    decide +kernel
  · refine (htold _ (.tail _ (.tail _ List.mem_cons_self)) (by decide) (by decide) rfl (by decide)
      (by decide +kernel)).trans ?_
    decide +kernel

/-- A bundle whose name is not given out fails each of the two statements, and neither way tells of
one whose time runs out of the calendar. -/
theorem garbled_bundle_told_apart :
    onOddBundles.Serves FileSite.named.config oddBundles ∧ oddBundles.ObjectsComplete ∧
      askBoth 4 = (.error (.statement "GetObjectInfo"), .error (.statement "GetBundleInfo")) ∧
      askBoth 5 = (.error .calendarUnderflow, .error .calendarUnderflow) := by
  have hasked (row : ObjectRow) (hrow : row ∈ oddBundles.objects) (hpos : 0 < row.id)
      (hle : row.id ≤ Limit.id) (hkind : row.isBundle = true) :
      askBoth row.id =
        (if row.IsReadable then row.info onOddBundles.reader
          else .error (.statement "GetObjectInfo"),
        if row.IsReadable then row.bundle onOddBundles.reader
          else .error (.statement "GetBundleInfo")) := by
    obtain ⟨_, hobject, -⟩ := serves_oddBundles.objectInfo_eq hpos hle
    obtain ⟨_, hbundle, -⟩ := serves_oddBundles.bundleInfo_eq hpos hle
    rw [askBoth, hobject, hbundle, objectsComplete_oddBundles.served_objectInfo hrow,
      objectsComplete_oddBundles.served_bundleInfo hrow, if_pos hkind]
    rfl
  refine ⟨serves_oddBundles, objectsComplete_oddBundles, ?_, ?_⟩
  · refine (hasked _ (.tail _ (.tail _ (.tail _ List.mem_cons_self))) (by decide) (by decide)
      rfl).trans ?_
    decide +kernel
  · refine (hasked _ (.tail _ (.tail _ (.tail _ (.tail _ List.mem_cons_self)))) (by decide)
      (by decide) rfl).trans ?_
    decide +kernel

end Backend

end Provenance
