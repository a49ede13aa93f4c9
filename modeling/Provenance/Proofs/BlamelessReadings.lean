import Provenance.Proofs.ToldObjects

/-!
Readings that blame nobody else. Whatever an operation makes of its rows, it may find that there is
none, or that a column does not hold what it should; that the driver has failed is for the driver to
say. So a reading that stops with a failure of the driver has met one
(`Operation.ensures_blameless`).
-/

set_option autoImplicit false
set_option relaxedAutoImplicit false

namespace Provenance

variable {α β : Type}

/-- An outcome that is no failure of the driver. -/
def Blameless (result : Except Error α) : Prop :=
  ∀ err, result = .error err → err.isFromDriver = false

theorem blameless_ok (a : α) : Blameless (.ok a : Except Error α) := nofun

theorem blameless_error {err : Error} (h : err.isFromDriver = false) :
    Blameless (.error err : Except Error α) := by
  intro err' herr
  cases herr
  exact h

theorem Blameless.map {result : Except Error α} (h : Blameless result) (f : α → β) :
    Blameless (result.map f) := by
  cases result with
  | error err => exact blameless_error (h err rfl)
  | ok a => exact blameless_ok (f a)

namespace Value

/-- A conversion that fails only for the sake of its value. -/
def Converts (convert : Value → Except Error α) : Prop := FailsOnly (·.isFromDriver = false) convert

theorem Converts.blameless {convert : Value → Except Error α} (h : Converts convert)
    (value : Value) : Blameless (convert value) := h value

theorem converts_toInt : Converts toInt := failsOnly_toInt fun _ ↦ rfl

theorem converts_toId : Converts toId := failsOnly_toId fun _ ↦ rfl

theorem converts_toText (reader : Reader) : Converts (toText reader) :=
  failsOnly_toText (fun _ ↦ rfl) reader

theorem converts_toEpoch (reader : Reader) : Converts (toEpoch reader) :=
  failsOnly_toEpoch (fun _ ↦ rfl) (by rfl) reader

theorem converts_toObjectKind : Converts toObjectKind := failsOnly_toObjectKind fun _ ↦ rfl

theorem converts_toRelationKind : Converts toRelationKind := by
  intro value err h
  unfold toRelationKind at h
  split at h
  · unfold RelationKind.ofCode at h
    split at h <;> cases h
    rfl
  · cases h
    exact converts_toInt _ _ ‹_›

end Value

theorem Fetched.blameless_toExcept (fetched : Fetched α) : Blameless fetched.toExcept := by
  cases fetched with
  | value a => exact blameless_ok a
  | notFound | null => exact blameless_error rfl

namespace Reading

/-- No outcome that the reading stops with is a failure of the driver. -/
def IsBlameless : Reading α → Prop
  | stop result => Blameless result
  | fetch next => ∀ more, (next more).IsBlameless
  | column _ next => ∀ value, (next value).IsBlameless
  | close next => next.IsBlameless

variable {reading : Reading α} {next : α → Reading β} {convert : Value → Except Error α}

theorem isBlameless_pure (a : α) : (pure a : Reading α).IsBlameless := blameless_ok a

theorem IsBlameless.bind (h : reading.IsBlameless) (hnext : ∀ a, (next a).IsBlameless) :
    (reading >>= next).IsBlameless := by
  induction reading with
  | stop result =>
    cases result with
    | error err => exact blameless_error (h err rfl)
    | ok a => exact hnext a
  | fetch rest ih => exact fun more ↦ ih more (h more)
  | column index rest ih => exact fun value ↦ ih value (h value)
  | close rest ih => exact ih h

theorem isBlameless_required (index : Nat) (hconvert : Value.Converts convert) :
    (required index convert).IsBlameless := by
  intro value
  change Blameless (if value.isNull then .error .nullValue else convert value)
  split
  · exact blameless_error rfl
  · exact hconvert.blameless value

theorem isBlameless_optional (index : Nat) (hconvert : Value.Converts convert) :
    (optional index convert).IsBlameless := by
  intro value
  change Blameless (if value.isNull then .ok none else (convert value).map some)
  split
  · exact blameless_ok none
  · exact (hconvert.blameless value).map some

theorem isBlameless_closeIf (condition : Bool) (h : reading.IsBlameless) :
    (closeIf condition reading).IsBlameless := by
  unfold closeIf
  split <;> exact h

theorem isBlameless_single (index : Nat) (hconvert : Value.Converts convert)
    (options : FetchOptions) :
    (single index convert options).IsBlameless := by
  have hcolumn : IsBlameless (single index convert { options with advance := false }) := by
    intro value
    dsimp only
    split
    · exact isBlameless_closeIf _ (blameless_ok _)
    · split
      · exact isBlameless_closeIf _ (blameless_ok _)
      · exact blameless_error (hconvert value _ ‹_›)
  by_cases hadvance : options.advance = true
  · simp only [single, hadvance, if_true]
    intro more
    cases more with
    | true => exact hcolumn
    | false => exact blameless_ok _
  · simp only [single, hadvance]
    exact hcolumn

theorem isBlameless_rows (h : reading.IsBlameless) (bound : Nat) :
    (rows reading bound).IsBlameless := by
  induction bound with
  | zero => exact blameless_ok []
  | succ bound ih =>
    intro more
    cases more with
    | false => exact blameless_ok []
    | true => exact h.bind fun _ ↦ IsBlameless.bind ih fun _ ↦ blameless_ok _

end Reading

/-! ### Requests -/

namespace Request

open Reading

/-- However many rows there are, they are read without blaming the driver. -/
def IsBlameless (request : Request α) : Prop := ∀ bound, (request.read bound).IsBlameless

theorem isBlameless_command (query : Query) (params : List Value) :
    (command query params).IsBlameless := fun _ ↦ blameless_ok ()

theorem isBlameless_oneId (query : Query) (params : List Value) :
    (oneId query params).IsBlameless := fun _ ↦
  (isBlameless_single 0 Value.converts_toId _).bind fun fetched ↦ fetched.blameless_toExcept

theorem isBlameless_list (query : Query) (params : List Value) {row : Reading α}
    (h : row.IsBlameless) : (list query params row).IsBlameless := isBlameless_rows h

theorem isBlameless_first (query : Query) (params : List Value) {row : Reading α}
    (h : row.IsBlameless) : (first query params row).IsBlameless := by
  refine fun bound ↦ (isBlameless_rows h bound).bind fun rows ↦ ?_
  cases rows with
  | nil => exact blameless_error rfl
  | cons a rest => exact blameless_ok a

variable (reader : Reader)

theorem isBlameless_propertyRow : (propertyRow reader).IsBlameless :=
  (isBlameless_required 0 Value.converts_toId).bind fun _ ↦
    (isBlameless_required 1 (Value.converts_toText reader)).bind fun _ ↦
      (isBlameless_required 2 (Value.converts_toText reader)).bind fun _ ↦
        (isBlameless_required 3 (Value.converts_toText reader)).bind fun _ ↦ isBlameless_pure _

theorem isBlameless_lookupRow : (lookupRow reader).IsBlameless :=
  (isBlameless_required 0 Value.converts_toId).bind fun _ ↦
    (isBlameless_required 1 (Value.converts_toEpoch reader)).bind fun _ ↦ isBlameless_pure _

theorem isBlameless_objectRow : (objectRow reader).IsBlameless :=
  (isBlameless_required 0 Value.converts_toId).bind fun _ ↦
    (isBlameless_required 1 (Value.converts_toEpoch reader)).bind fun _ ↦
      (isBlameless_required 2 (Value.converts_toText reader)).bind fun _ ↦
        (isBlameless_optional 3 (Value.converts_toText reader)).bind fun _ ↦
          (isBlameless_required 4 Value.converts_toObjectKind).bind fun _ ↦
            (isBlameless_optional 5 Value.converts_toId).bind fun _ ↦ isBlameless_pure _

theorem isBlameless_sessionRow (id : Nat) : (sessionRow reader id).IsBlameless :=
  (isBlameless_optional 0 (Value.converts_toText reader)).bind fun _ ↦
    (isBlameless_optional 1 (Value.converts_toText reader)).bind fun _ ↦
      (isBlameless_optional 2 Value.converts_toInt).bind fun _ ↦
        (isBlameless_optional 3 (Value.converts_toText reader)).bind fun _ ↦
          (isBlameless_optional 4 (Value.converts_toText reader)).bind fun _ ↦
            (isBlameless_required 5 (Value.converts_toEpoch reader)).bind fun _ ↦
              isBlameless_pure _

theorem isBlameless_memberRow : memberRow.IsBlameless :=
  (isBlameless_required 0 Value.converts_toId).bind fun _ ↦
    (isBlameless_required 1 Value.converts_toId).bind fun _ ↦
      (isBlameless_required 2 Value.converts_toId).bind fun _ ↦
        (isBlameless_required 3 Value.converts_toRelationKind).bind fun _ ↦ isBlameless_pure _

theorem isBlameless_endRow (queried : Nat) : (endRow queried).IsBlameless :=
  (isBlameless_required 0 Value.converts_toId).bind fun _ ↦
    (isBlameless_required 1 Value.converts_toId).bind fun _ ↦
      (isBlameless_required 2 Value.converts_toRelationKind).bind fun _ ↦ isBlameless_pure _

theorem isBlameless_prefixRow : (prefixRow reader).IsBlameless :=
  (isBlameless_required 0 Value.converts_toId).bind fun _ ↦
    (isBlameless_required 1 (Value.converts_toText reader)).bind fun _ ↦
      (isBlameless_required 2 (Value.converts_toText reader)).bind fun _ ↦ isBlameless_pure _

/-- A value that may not be missing. -/
theorem isBlameless_value (fetched : Fetched α) : (stop fetched.toExcept).IsBlameless :=
  fetched.blameless_toExcept

theorem isBlameless_bundleReading : (bundleReading reader).IsBlameless := by
  refine (isBlameless_single 0 Value.converts_toId _).bind fun id ↦
    (isBlameless_value id).bind fun _ ↦
      (isBlameless_single 1 (Value.converts_toEpoch reader) _).bind fun created ↦
        (isBlameless_value created).bind fun _ ↦
          (isBlameless_single 2 (Value.converts_toText reader) _).bind fun space ↦
            (isBlameless_value space).bind fun _ ↦
              (isBlameless_single 3 (Value.converts_toText reader) _).bind fun name ↦ ?_
  refine IsBlameless.bind ?_ fun _ ↦
    (isBlameless_single 4 Value.converts_toId _).bind fun _ ↦ isBlameless_pure _
  cases name with
  | value name => exact blameless_ok name
  | null => exact blameless_ok ""
  | notFound => exact blameless_error rfl

theorem ensures_blameless_properties (queries : PropertyQueries) (what : String) (owner : Nat)
    (filter : PropertyFilter) :
    Ensures (properties queries what reader owner filter) IsBlameless := by
  have hrow := isBlameless_propertyRow reader
  refine .check fun _ ↦ ?_
  cases filter with
  | all => exact .pure (isBlameless_list _ _ hrow)
  | space space => exact .check fun _ ↦ .pure (isBlameless_list _ _ hrow)
  | key space key => exact .check fun _ ↦ .check fun _ ↦ .pure (isBlameless_list _ _ hrow)

end Request

open Request in
/-- What an operation makes of its rows is never a failure of the driver. -/
theorem Operation.ensures_blameless (op : Operation) (reader : Reader) :
    Ensures (op.form.request reader) Request.IsBlameless := by
  cases op with
  | createSession session =>
    exact .check fun _ ↦ .check fun _ ↦ .check fun _ ↦ .check fun _ ↦ .pure (isBlameless_oneId _ _)
  | sessionInfo id =>
    exact .check fun _ ↦ .pure (isBlameless_first _ _ (isBlameless_sessionRow reader id))
  | createObject | createBundle =>
    exact .check fun _ ↦ .check fun _ ↦ .pure (isBlameless_oneId _ _)
  | lookupObject | lookupBundle | addRelation | lookupRelation =>
    exact .check fun _ ↦ .pure (isBlameless_oneId _ _)
  | lookupObjects | lookupBundles =>
    exact .check fun _ ↦ .pure (isBlameless_list _ _ (isBlameless_lookupRow reader))
  | objectInfo id =>
    exact .check fun _ ↦ .pure (isBlameless_first _ _ (isBlameless_objectRow reader))
  | allObjects space =>
    cases space with
    | none => exact .pure (isBlameless_list _ _ (isBlameless_objectRow reader))
    | some space => exact .check fun _ ↦ .pure (isBlameless_list _ _ (isBlameless_objectRow reader))
  | addObjectProperty | addRelationProperty | addBundleProperty =>
    exact .check fun _ ↦ .check fun _ ↦ .pure (isBlameless_command _ _)
  | objectProperties id filter | relationProperties id filter | bundleProperties id filter =>
    exact ensures_blameless_properties reader _ _ _ _
  | objectsWithProperty | objectsMatching =>
    exact .check fun _ ↦ .pure
      (isBlameless_list _ _ (Reading.isBlameless_required 0 Value.converts_toId))
  | hasImmediateAncestor object ancestor =>
    exact .check fun _ ↦ .check fun _ ↦ .pure fun _ ↦
      (Reading.isBlameless_single 0 Value.converts_toId _).bind fun _ ↦ blameless_ok _
  | objectRelations id direction =>
    cases direction <;>
      exact .check fun _ ↦ .pure (isBlameless_list _ _ (isBlameless_endRow id))
  | deleteBundle id =>
    exact .check fun _ ↦ .pure fun _ ↦
      (Reading.isBlameless_single 0 Value.converts_toId _).bind fun fetched ↦
        fetched.blameless_toExcept.map _
  | bundleInfo id => exact .check fun _ ↦ .pure fun _ ↦ isBlameless_bundleReading reader
  | bundleObjects id =>
    exact .check fun _ ↦ .pure (isBlameless_list _ _ (isBlameless_objectRow reader))
  | bundleRelations id => exact .check fun _ ↦ .pure (isBlameless_list _ _ isBlameless_memberRow)
  | addPrefix bundle space iri =>
    exact .check fun _ ↦ .check fun _ ↦ .check fun _ ↦ .pure (isBlameless_command _ _)
  | prefixes bundle space =>
    cases space with
    | none => exact .check fun _ ↦ .pure (isBlameless_list _ _ (isBlameless_prefixRow reader))
    | some space =>
      exact .check fun _ ↦ .check fun _ ↦ .pure
        (isBlameless_list _ _ (isBlameless_prefixRow reader))

end Provenance
