import Provenance.Proofs.ExactlyOnce

/-!
Arguments are checked before anything else is done, and only their checks refuse them. Every
operation checks its ids and texts in an order of its own (`Operation.operands`). If one of them is
beyond its limits, the operation fails on the first of these and does nothing at all; otherwise its
request is made, and nothing that the driver, the connection or the reading of rows can come to is
a refused argument (`arguments_checked`). It can only be the callback then that refuses one.
-/

set_option autoImplicit false
set_option relaxedAutoImplicit false

namespace Provenance

variable {W H C α β : Type}

instance [DecidableEq α] : DecidableEq (Except Error α)
  | .ok a, .ok b => decidable_of_iff (a = b) ⟨congrArg _, Except.ok.inj⟩
  | .error err, .error other => decidable_of_iff (err = other) ⟨congrArg _, Except.error.inj⟩
  | .ok _, .error _ => .isFalse fun h ↦ nomatch h
  | .error _, .ok _ => .isFalse fun h ↦ nomatch h

/-- The outcome is anything but a refused argument. -/
def Accepting (outcome : Except Error α) : Prop :=
  ∀ text, outcome ≠ .error (.invalidArgument text)

theorem accepting_ok (a : α) : Accepting (.ok a) := fun _ h ↦ nomatch h

/-- It is only the error that counts. -/
theorem Accepting.error {err : Error} (h : Accepting (.error err : Except Error α)) :
    Accepting (.error err : Except Error β) := by
  intro text hsame
  cases hsame
  exact h text rfl

/-! ### Operands -/

/-- An argument that has limits, with the name that it has in messages. -/
inductive Operand where
  | id (what : String) (number : Nat)
  /-- A text of at most so many bytes. -/
  | text (what value : String) (limit : Nat)

namespace Operand

/-- An id is neither zero nor beyond the greatest integer of 64 bits. -/
def Refused : Operand → Prop
  | id _ number => number = 0 ∨ 9223372036854775807 < number
  | text _ value limit => limit < value.utf8ByteSize

instance : DecidablePred Refused
  | id _ number => inferInstanceAs (Decidable (number = 0 ∨ 9223372036854775807 < number))
  | text _ value limit => inferInstanceAs (Decidable (limit < value.utf8ByteSize))

/-- What is said of an argument that is refused. -/
def refusal : Operand → String
  | id what number =>
    if number = 0 then s!"{what} id must not be zero" else s!"{what} id {number} out of range"
  | text what value limit => s!"{what} is {value.utf8ByteSize} bytes, longer than {limit}"

end Operand

/-- The operands are checked one after another, and the first of them that is refused is what the
outcome says. If none is, there is a result that has the property. -/
def Checks (operands : List Operand) (property : α → Prop) (outcome : Except Error α) : Prop :=
  match operands.find? fun operand ↦ operand.Refused with
  | some operand => outcome = .error (.invalidArgument operand.refusal)
  | none => ∃ a, outcome = .ok a ∧ property a

namespace Checks

variable {operands : List Operand} {Property : β → Prop} {next : α → Except Error β}

theorem pure {b : β} (h : Property b) : Checks [] Property (pure b) := ⟨b, rfl, h⟩

/-- The first operand is checked and then the others. -/
theorem cons {operand : Operand} {outcome : Except Error α}
    (hrefused : operand.Refused → outcome = .error (.invalidArgument operand.refusal))
    (hnext : ¬ operand.Refused → ∃ a, outcome = .ok a ∧ Checks operands Property (next a)) :
    Checks (operand :: operands) Property (outcome >>= next) := by
  unfold Checks at hnext ⊢
  by_cases h : operand.Refused
  · rw [List.find?_cons, decide_eq_true h, hrefused h]
    rfl
  · obtain ⟨a, ha, hchecks⟩ := hnext h
    rw [List.find?_cons, decide_eq_false h, ha]
    exact hchecks

theorem id {what : String} {number : Nat} {next : Value → Except Error β}
    (hnext : ∀ value, Checks operands Property (next value)) :
    Checks (.id what number :: operands) Property (Argument.id what number >>= next) := by
  have hlimit : Limit.id = 9223372036854775807 := by decide
  refine cons (fun h ↦ ?_) fun h ↦ ⟨.int number, ?_, hnext _⟩
  · change number = 0 ∨ 9223372036854775807 < number at h
    rw [Argument.id, hlimit, Operand.refusal]
    by_cases hzero : number = 0
    · rw [if_pos hzero, if_pos hzero]
    · rw [if_neg hzero, if_neg hzero, if_pos (h.resolve_left hzero)]
  · change ¬ (number = 0 ∨ 9223372036854775807 < number) at h
    obtain ⟨hzero, hle⟩ := not_or.mp h
    rw [Argument.id, hlimit, if_neg hzero, if_neg hle]

theorem text {what value : String} {limit : Nat} {next : Unit → Except Error β}
    (hnext : Checks operands Property (next ())) :
    Checks (.text what value limit :: operands) Property
      (Argument.checkLength what value limit >>= next) :=
  cons (fun h ↦ if_pos h) fun h ↦ ⟨(), if_neg h, hnext⟩

theorem name {space name : String} {next : Unit → Except Error β}
    (hnext : Checks operands Property (next ())) :
    Checks (.text "prefix" space 255 :: .text "name" name 255 :: operands) Property
      (Argument.checkName space name >>= next) := by
  rw [Argument.checkName, bind_assoc]
  exact text (text hnext)

theorem property {space key value : String} {next : Unit → Except Error β}
    (hnext : Checks operands Property (next ())) :
    Checks (.text "prefix" space 255 :: .text "key" key 255 :: .text "value" value 4095 :: operands)
      Property (Argument.checkProperty space key value >>= next) := by
  rw [Argument.checkProperty]
  simp only [bind_assoc]
  exact text (text (text hnext))

theorem relation {source destination : Nat} {kind : RelationKind}
    {next : List Value → Except Error β}
    (hnext : ∀ params, Checks operands Property (next params)) :
    Checks (.id "source" source :: .id "destination" destination :: operands) Property
      (Request.relationParams source destination kind >>= next) := by
  rw [Request.relationParams]
  simp only [bind_assoc]
  exact id fun _ ↦ id fun _ ↦ hnext _

end Checks

namespace Operation

/-- The properties of an owner are filtered by space, or by space and key. -/
def filterOperands : PropertyFilter → List Operand
  | .all => []
  | .space space => [.text "prefix" space 255]
  | .key space key => [.text "prefix" space 255, .text "key" key 255]

/-- A space to look in, if one is given. -/
def spaceOperands : Option String → List Operand
  | none => []
  | some space => [.text "prefix" space 255]

/-- A name in a space. -/
def nameOperands (space name : String) : List Operand :=
  [.text "prefix" space 255, .text "name" name 255]

/-- A property with its value. -/
def propertyOperands (space key value : String) : List Operand :=
  [.text "prefix" space 255, .text "key" key 255, .text "value" value 4095]

/-- The arguments of an operation that have limits, in the order in which they are checked. -/
def operands : Operation → List Operand
  | createSession session =>
    [.text "MAC address" session.macAddress 18, .text "user" session.user 255,
      .text "program" session.program 4095, .text "command line" session.commandLine 4095]
  | sessionInfo id => [.id "session" id]
  | createObject space name _ session => nameOperands space name ++ [.id "session" session]
  | lookupObject space name _ | lookupObjects space name _ _ => nameOperands space name
  | objectInfo id => [.id "object" id]
  | allObjects space => spaceOperands space
  | addObjectProperty id space key value => propertyOperands space key value ++ [.id "object" id]
  | objectProperties id filter => .id "object" id :: filterOperands filter
  | objectsWithProperty space key value _ => propertyOperands space key value
  | objectsMatching pattern _ => [.text "value pattern" pattern 4095]
  | addRelation source destination _ | lookupRelation source destination _ =>
    [.id "source" source, .id "destination" destination]
  | hasImmediateAncestor object ancestor => [.id "object" object, .id "query object" ancestor]
  | objectRelations id _ => [.id "object" id]
  | addRelationProperty id space key value =>
    propertyOperands space key value ++ [.id "relation" id]
  | relationProperties id filter => .id "relation" id :: filterOperands filter
  | createBundle name space session => nameOperands space name ++ [.id "session" session]
  | lookupBundle name space | lookupBundles name space _ => nameOperands space name
  | deleteBundle id | bundleInfo id | bundleObjects id | bundleRelations id => [.id "bundle" id]
  | addBundleProperty id space key value => propertyOperands space key value ++ [.id "bundle" id]
  | bundleProperties id filter => .id "bundle" id :: filterOperands filter
  | addPrefix bundle space iri =>
    [.text "prefix" space 255, .text "IRI" iri 4095, .id "bundle" bundle]
  | prefixes bundle space => .id "bundle" bundle :: spaceOperands space

end Operation

/-! ### Readings -/

namespace Reading

/-- Whatever is read, no error is a refused argument. -/
def Accepts : Reading α → Prop
  | stop result => Accepting result
  | fetch next => ∀ more, (next more).Accepts
  | column _ next => ∀ value, (next value).Accepts
  | close next => next.Accepts

variable {reading : Reading α} {next : α → Reading β} {convert : Value → Except Error α}
  {index : Nat}

theorem Accepts.pure (a : α) : (Pure.pure a : Reading α).Accepts := accepting_ok a

theorem Accepts.bind (h : reading.Accepts) (hnext : ∀ a, (next a).Accepts) :
    (reading >>= next).Accepts := by
  change (reading.andThen next).Accepts
  induction reading with
  | stop result =>
    cases result with
    | ok a => exact hnext a
    | error err => exact Accepting.error h
  | fetch more ih => exact fun b ↦ ih b (h b)
  | column index more ih => exact fun value ↦ ih value (h value)
  | close more ih => exact ih h

theorem accepts_required (h : ∀ value, Accepting (convert value)) :
    (required index convert).Accepts := by
  intro value
  change Accepting (if value.isNull then _ else _)
  split
  · rintro _ ⟨⟩
  · exact h value

theorem accepts_optional (h : ∀ value, Accepting (convert value)) :
    (optional index convert).Accepts := by
  intro value
  change Accepting (if value.isNull then _ else _)
  split
  · exact accepting_ok _
  · have hvalue := h value
    cases hconvert : convert value with
    | ok a => exact accepting_ok _
    | error err =>
      rw [hconvert] at hvalue
      exact hvalue.error

theorem accepts_stop (a : α) : (stop (.ok a)).Accepts := accepting_ok a

theorem accepts_closeIf {condition : Bool} (h : reading.Accepts) :
    (closeIf condition reading).Accepts := by
  cases condition <;> exact h

theorem accepts_single (options : FetchOptions) (h : ∀ value, Accepting (convert value)) :
    (single index convert options).Accepts := by
  unfold single
  extract_lets read
  have hread : read.Accepts := by
    intro value
    by_cases hnull : value.isNull = true
    · simp only [hnull, if_true]
      exact accepts_closeIf (accepts_stop _)
    · have hvalue := h value
      simp only [hnull]
      cases hconvert : convert value with
      | ok a => exact accepts_closeIf (accepts_stop _)
      | error err =>
        rw [hconvert] at hvalue
        exact hvalue.error
  by_cases hadvance : options.advance = true
  · simp only [hadvance, if_true]
    rintro (_ | _)
    · exact accepts_stop _
    · exact hread
  · simp only [hadvance]
    exact hread

theorem accepts_rows {row : Reading α} (h : row.Accepts) (bound : Nat) :
    (rows row bound).Accepts := by
  induction bound with
  | zero => exact accepting_ok _
  | succ bound ih =>
    rintro (_ | _)
    · exact accepting_ok _
    · exact h.bind fun a ↦ ih.bind fun rest ↦ accepting_ok _

/-- Running a reading fails on a statement or as the reading does. -/
theorem Accepts.run (h : reading.Accepts) (driver : Driver W H) (query : Query)
    (opened : Opened W H) : Accepting (reading.run driver query opened).1 := by
  induction reading generalizing opened with
  | stop result => exact h
  | fetch next ih =>
    rw [Reading.run]
    split
    · exact ih _ (h _) _
    · rintro _ ⟨⟩
  | column index next ih =>
    rw [Reading.run]
    split
    · exact ih _ (h _) _
    · rintro _ ⟨⟩
  | close next ih => exact ih h _

end Reading

/-! ### What requests read -/

namespace Value

theorem accepting_toInt (value : Value) : Accepting value.toInt := by
  rw [toInt]
  split
  · exact accepting_ok _
  · rintro _ ⟨⟩

theorem accepting_toId (value : Value) : Accepting value.toId := by
  rw [toId]
  split
  · split
    · exact accepting_ok _
    · rintro _ ⟨⟩
  · rintro _ ⟨⟩

theorem accepting_toText (reader : Reader) (value : Value) : Accepting (value.toText reader) := by
  rw [toText]
  split
  · exact accepting_ok _
  · rintro _ ⟨⟩

theorem accepting_toEpoch (reader : Reader) (value : Value) :
    Accepting (value.toEpoch reader) := by
  rw [toEpoch]
  split
  · split
    · exact accepting_ok _
    · rintro _ ⟨⟩
  · split
    · exact accepting_ok _
    · rintro _ ⟨⟩

theorem accepting_toObjectKind (value : Value) : Accepting value.toObjectKind := by
  have hint := value.accepting_toInt
  rw [toObjectKind]
  split
  · rw [ObjectKind.ofCode]
    split
    · exact accepting_ok _
    · rintro _ ⟨⟩
  · rename_i err herr
    rw [herr] at hint
    exact hint.error

theorem accepting_toRelationKind (value : Value) : Accepting value.toRelationKind := by
  have hint := value.accepting_toInt
  rw [toRelationKind]
  split
  · rw [RelationKind.ofCode]
    split
    · exact accepting_ok _
    · rintro _ ⟨⟩
  · rename_i err herr
    rw [herr] at hint
    exact hint.error

end Value

namespace Request

open Reading Value

/-- However many rows are expected, no error in reading them is a refused argument. -/
def Accepts (request : Request α) : Prop := ∀ bound, (request.read bound).Accepts

variable {query : Query} {params : List Value} {row : Reading α} {reader : Reader}

theorem accepts_command : (command query params).Accepts := fun _ ↦ accepts_stop _

theorem accepts_fetched {fetched : Fetched α} : (stop fetched.toExcept).Accepts := by
  cases fetched with
  | value a => exact accepts_stop a
  | notFound => rintro _ ⟨⟩
  | null => rintro _ ⟨⟩

theorem accepts_oneId : (oneId query params).Accepts := fun _ ↦
  (accepts_single .standard accepting_toId).bind fun _ ↦ accepts_fetched

theorem accepts_list (h : row.Accepts) : (list query params row).Accepts :=
  fun bound ↦ accepts_rows h bound

theorem accepts_first (h : row.Accepts) : (first query params row).Accepts := by
  intro bound
  refine (accepts_rows h bound).bind fun rows ↦ ?_
  cases rows with
  | nil => rintro _ ⟨⟩
  | cons a rest => exact accepts_stop a

theorem accepts_sessionRow (id : Nat) : (sessionRow reader id).Accepts :=
  (accepts_optional (accepting_toText reader)).bind fun _ ↦
    (accepts_optional (accepting_toText reader)).bind fun _ ↦
      (accepts_optional accepting_toInt).bind fun _ ↦
        (accepts_optional (accepting_toText reader)).bind fun _ ↦
          (accepts_optional (accepting_toText reader)).bind fun _ ↦
            (accepts_required (accepting_toEpoch reader)).bind fun _ ↦ .pure _

theorem accepts_objectRow : (objectRow reader).Accepts :=
  (accepts_required accepting_toId).bind fun _ ↦
    (accepts_required (accepting_toEpoch reader)).bind fun _ ↦
      (accepts_required (accepting_toText reader)).bind fun _ ↦
        (accepts_optional (accepting_toText reader)).bind fun _ ↦
          (accepts_required accepting_toObjectKind).bind fun _ ↦
            (accepts_optional accepting_toId).bind fun _ ↦ .pure _

theorem accepts_lookupRow : (lookupRow reader).Accepts :=
  (accepts_required accepting_toId).bind fun _ ↦
    (accepts_required (accepting_toEpoch reader)).bind fun _ ↦ .pure _

theorem accepts_propertyRow : (propertyRow reader).Accepts :=
  (accepts_required accepting_toId).bind fun _ ↦
    (accepts_required (accepting_toText reader)).bind fun _ ↦
      (accepts_required (accepting_toText reader)).bind fun _ ↦
        (accepts_required (accepting_toText reader)).bind fun _ ↦ .pure _

theorem accepts_prefixRow : (prefixRow reader).Accepts :=
  (accepts_required accepting_toId).bind fun _ ↦
    (accepts_required (accepting_toText reader)).bind fun _ ↦
      (accepts_required (accepting_toText reader)).bind fun _ ↦ .pure _

theorem accepts_endRow (queried : Nat) : (endRow queried).Accepts :=
  (accepts_required accepting_toId).bind fun _ ↦
    (accepts_required accepting_toId).bind fun _ ↦
      (accepts_required accepting_toRelationKind).bind fun _ ↦ .pure _

theorem accepts_memberRow : memberRow.Accepts :=
  (accepts_required accepting_toId).bind fun _ ↦
    (accepts_required accepting_toId).bind fun _ ↦
      (accepts_required accepting_toId).bind fun _ ↦
        (accepts_required accepting_toRelationKind).bind fun _ ↦ .pure _

theorem accepts_bundleReading : (bundleReading reader).Accepts := by
  refine (accepts_single _ accepting_toId).bind fun _ ↦ accepts_fetched.bind fun _ ↦
    (accepts_single _ (accepting_toEpoch reader)).bind fun _ ↦ accepts_fetched.bind fun _ ↦
      (accepts_single _ (accepting_toText reader)).bind fun _ ↦ accepts_fetched.bind fun _ ↦
        (accepts_single _ (accepting_toText reader)).bind fun name ↦ ?_
  refine Accepts.bind ?_ fun _ ↦ (accepts_single _ accepting_toId).bind fun _ ↦ .pure _
  cases name with
  | value name => exact accepts_stop name
  | notFound => rintro _ ⟨⟩
  | null => exact accepts_stop ""

end Request

namespace Operation

theorem checks_properties (queries : PropertyQueries) (what : String) (reader : Reader)
    (owner : Nat) (filter : PropertyFilter) :
    Checks (.id what owner :: filterOperands filter) Request.Accepts
      (Request.properties queries what reader owner filter) := by
  refine .id fun owner ↦ ?_
  cases filter with
  | all => exact .pure (Request.accepts_list Request.accepts_propertyRow)
  | space space => exact .text (.pure (Request.accepts_list Request.accepts_propertyRow))
  | key space key => exact .text (.text (.pure (Request.accepts_list Request.accepts_propertyRow)))

/-- The operands of an operation are checked, and then its request is made. -/
theorem checks_request (op : Operation) (reader : Reader) :
    Checks op.operands Request.Accepts (op.form.request reader) := by
  cases op with
  | createSession session => exact .text (.text (.text (.text (.pure Request.accepts_oneId))))
  | sessionInfo id =>
    exact .id fun _ ↦ .pure (Request.accepts_first (Request.accepts_sessionRow id))
  | createObject space name kind session =>
    exact .name (.id fun _ ↦ .pure Request.accepts_oneId)
  | lookupObject space name kind => exact .name (.pure Request.accepts_oneId)
  | lookupObjects space name kind flags =>
    exact .name (.pure (Request.accepts_list Request.accepts_lookupRow))
  | objectInfo id => exact .id fun _ ↦ .pure (Request.accepts_first Request.accepts_objectRow)
  | allObjects space =>
    cases space with
    | none => exact .pure (Request.accepts_list Request.accepts_objectRow)
    | some space => exact .text (.pure (Request.accepts_list Request.accepts_objectRow))
  | addObjectProperty id space key value =>
    exact .property (.id fun _ ↦ .pure Request.accepts_command)
  | objectProperties id filter => exact checks_properties _ _ _ _ _
  | objectsWithProperty space key value flags =>
    exact .property (.pure (Request.accepts_list
      (Reading.accepts_required Value.accepting_toId)))
  | objectsMatching pattern flags =>
    exact .text (.pure (Request.accepts_list (Reading.accepts_required Value.accepting_toId)))
  | addRelation source destination kind => exact .relation fun _ ↦ .pure Request.accepts_oneId
  | lookupRelation source destination kind => exact .relation fun _ ↦ .pure Request.accepts_oneId
  | hasImmediateAncestor object ancestor =>
    exact .id fun _ ↦ .id fun _ ↦ .pure fun _ ↦
      (Reading.accepts_single .standard Value.accepting_toId).bind fun _ ↦ Reading.accepts_stop _
  | objectRelations id direction =>
    exact .id fun _ ↦ .pure (Request.accepts_list (Request.accepts_endRow id))
  | addRelationProperty id space key value =>
    exact .property (.id fun _ ↦ .pure Request.accepts_command)
  | relationProperties id filter => exact checks_properties _ _ _ _ _
  | createBundle name space session => exact .name (.id fun _ ↦ .pure Request.accepts_oneId)
  | lookupBundle name space => exact .name (.pure Request.accepts_oneId)
  | lookupBundles name space flags =>
    exact .name (.pure (Request.accepts_list Request.accepts_lookupRow))
  | deleteBundle id =>
    refine .id fun _ ↦ .pure fun _ ↦
      (Reading.accepts_single .standard Value.accepting_toId).bind fun fetched ↦ ?_
    cases fetched with
    | value a => exact Reading.accepts_stop ()
    | notFound => rintro _ ⟨⟩
    | null => rintro _ ⟨⟩
  | bundleInfo id => exact .id fun _ ↦ .pure fun _ ↦ Request.accepts_bundleReading
  | bundleObjects id => exact .id fun _ ↦ .pure (Request.accepts_list Request.accepts_objectRow)
  | bundleRelations id => exact .id fun _ ↦ .pure (Request.accepts_list Request.accepts_memberRow)
  | addBundleProperty id space key value =>
    exact .property (.id fun _ ↦ .pure Request.accepts_command)
  | bundleProperties id filter => exact checks_properties _ _ _ _ _
  | addPrefix bundle space iri =>
    exact .text (.text (.id fun _ ↦ .pure Request.accepts_command))
  | prefixes bundle space =>
    refine .id fun bundle ↦ ?_
    cases space with
    | none => exact .pure (Request.accepts_list Request.accepts_prefixRow)
    | some space => exact .text (.pure (Request.accepts_list Request.accepts_prefixRow))

/-- Arguments within their limits make a request. -/
theorem exists_request {op : Operation} (reader : Reader)
    (h : ∀ operand ∈ op.operands, ¬ operand.Refused) :
    ∃ request, op.form.request reader = .ok request := by
  have hchecks := op.checks_request reader
  have hnone : (op.operands.find? fun operand ↦ operand.Refused) = none :=
    List.find?_eq_none.mpr fun operand hoperand ↦ by simpa using h operand hoperand
  rw [Checks, hnone] at hchecks
  obtain ⟨request, hrequest, -⟩ := hchecks
  exact ⟨request, hrequest⟩

/-- An operation that has its rows is not refused for its arguments any more. -/
theorem accepting_answer (op : Operation) (rows : op.form.Rows) :
    Accepting (op.form.answer rows) := by
  have hfinding : ∀ (empty : Bool) (flags : LookupFlags) (answer : Answer),
      Accepting (if empty && !flags.contains ⟨true⟩ then .error .notFound else .ok answer) := by
    intro empty flags answer
    split
    · rintro _ ⟨⟩
    · exact accepting_ok _
  cases op <;> first
    | exact accepting_ok _
    | exact hfinding _ _ _

end Operation

/-! ### What performing a request comes to -/

namespace Connection

theorem accepting_openNext (driver : Driver W H) (c : Connection W H) :
    Accepting (openNext driver c).1 := by
  have hbuild : Accepting
      (Live.build driver c.target c.poolSize (c.lastGeneration + 1) c.world).1 := by
    rw [Live.build]
    split
    · rintro _ ⟨⟩
    · split
      · exact accepting_ok _
      · rintro _ ⟨⟩
  rw [openNext]
  split
  · exact accepting_ok _
  · rename_i hbuilt
    rw [hbuilt] at hbuild
    exact hbuild.error

theorem accepting_reconnectIfCurrent (driver : Driver W H) (generation : Nat)
    (c : Connection W H) : Accepting (reconnectIfCurrent driver generation c).1 := by
  rw [reconnectIfCurrent]
  split
  · split
    · exact accepting_openNext _ _
    · exact accepting_ok _
  · exact accepting_openNext _ _

theorem accepting_reconnectIfDisconnected (driver : Driver W H) (c : Connection W H) :
    Accepting (reconnectIfDisconnected driver c).1 := by
  rw [reconnectIfDisconnected]
  split
  · exact accepting_ok _
  · exact accepting_openNext _ _

variable {request : Request α} {driver : Driver W H} {c c' : Connection W H}

theorem accepting_attempt (h : request.Accepts) {result : Except Error α}
    (hattempt : attempt driver request c = .done result c') : Accepting result := by
  unfold attempt at hattempt
  dsimp only at hattempt
  split at hattempt
  · cases hattempt
  · split at hattempt
    · cases hattempt
      rintro _ ⟨⟩
    · split at hattempt
      · cases hattempt
        rintro _ ⟨⟩
      · cases hattempt
        rintro _ ⟨⟩
      · split at hattempt
        · cases hattempt
        · split at hattempt
          · cases hattempt
          · cases hattempt
            exact (h _).run _ _ _

/-- After a reconnection a request is performed again, or the reconnection has failed. -/
theorem accepting_resume {budget retries : Nat}
    (h : ∀ c, Accepting (perform driver request budget retries c).1)
    {reconnected : Except Error Unit × Connection W H} (hreconnected : Accepting reconnected.1) :
    Accepting (resume driver request budget retries reconnected).1 := by
  rcases reconnected with ⟨err | -, c⟩
  · exact hreconnected.error
  · exact h c

/-- Nothing that a request can come to is a refused argument. -/
theorem accepting_perform (h : request.Accepts) (budget retries : Nat) (c : Connection W H) :
    Accepting (c.perform driver request budget retries).1 := by
  induction budget generalizing retries c with
  | zero =>
    cases hattempt : attempt driver request c with
    | done result c' =>
      rw [perform_of_done hattempt]
      exact accepting_attempt h hattempt
    | failed generation step err c' =>
      rw [perform_of_final hattempt (.inl rfl)]
      rintro _ ⟨⟩
    | unconnected =>
      simp only [perform, hattempt]
      rintro _ ⟨⟩
  | succ budget ih =>
    cases hattempt : attempt driver request c with
    | done result c' =>
      rw [perform_of_done hattempt]
      exact accepting_attempt h hattempt
    | failed generation step err c' =>
      cases hlink : err.isLinkFailure with
      | true =>
        rw [perform_of_linkFailure hattempt hlink]
        exact accepting_resume (ih _) (accepting_reconnectIfCurrent _ _ _)
      | false =>
        rw [perform_of_final hattempt (.inr hlink)]
        rintro _ ⟨⟩
    | unconnected =>
      have hresume : perform driver request (budget + 1) retries c =
          resume driver request budget (retries + 1)
            (reconnectIfDisconnected driver (noteUnconnected request.query retries c)) := by
        simp only [perform, hattempt]
        rfl
      rw [hresume]
      exact accepting_resume (ih _) (accepting_reconnectIfDisconnected _ _)

end Connection

/-! ### Operations -/

/-- The callback fails on one of the rows, when it has got through those before. -/
def FailsOn {σ : Type} (callback : α → Action σ Unit) (rows : List α) (start : σ) (err : Error)
    (after : σ) : Prop :=
  ∃ before row rest reached, rows = before ++ row :: rest ∧
    (deliverRows callback before).run start = (.ok (), reached) ∧
    (callback row).run reached = (.error err, after)

theorem failsOn_of_deliverRows {σ : Type} {callback : α → Action σ Unit} {rows : List α}
    {start after : σ} {err : Error}
    (h : (deliverRows callback rows).run start = (.error err, after)) :
    FailsOn callback rows start err after := by
  induction rows generalizing start with
  | nil => cases h
  | cons row rest ih =>
    change (callback row >>= fun _ ↦ deliverRows callback rest).run start = _ at h
    rw [Action.run_bind] at h
    rcases hrow : (callback row).run start with ⟨failed | done, reached⟩
    · rw [hrow] at h
      cases h
      exact ⟨[], row, rest, start, rfl, rfl, hrow⟩
    · rw [hrow] at h
      obtain ⟨before, row', rest', reached', rfl, hbefore, hrow'⟩ := ih h
      refine ⟨row :: before, row', rest', reached', rfl, ?_, hrow'⟩
      change (callback row >>= fun _ ↦ deliverRows callback before).run start = _
      rw [Action.run_bind, hrow]
      exact hbefore

namespace Operation

/-- The callback of an operation fails on one of the rows that it is handed, once the request of the
operation has been answered. -/
def CallbackFails (op : Operation) (driver : Driver W H)
    (callback : Listed → Action (C × Backend W H) Unit) (c : C) (backend : Backend W H)
    (err : Error) (after : C × Backend W H) : Prop :=
  ∃ rows answered, (Backend.call driver op.form.request).run backend = (.ok rows, answered) ∧
    FailsOn callback (op.form.listed rows) (c, answered) err after

section Runs

variable {op : Operation} {driver : Driver W H} {backend : Backend W H}
  {callback : Listed → Action (C × Backend W H) Unit} {c : C}

/-- Without a request nothing happens. -/
theorem run_of_refused {err : Error} (h : op.form.request backend.reader = .error err) :
    (op.run driver callback).run (c, backend) = (.error err, (c, backend)) := by
  have hcall : (Backend.call driver op.form.request) backend = (.error err, backend) :=
    Backend.run_call_of_error h
  rw [run_eq_form, Form.run, Action.run_bind]
  simp only [Action.run, Action.onSecond, hcall]

theorem calls_of_refused {err : Error} (h : op.form.request backend.reader = .error err) :
    op.calls driver backend = [] := by
  have hrecorded : op.form.request (backend.recorded []).reader = .error err := h
  rw [calls, run_of_refused hrecorded]
  rfl

/-- A run that ends in a refused argument though its own are accepted ends so in the callback. -/
theorem callbackFails_of_run {request : Request op.form.Rows} {text : String}
    {after : C × Backend W H} (hrequest : op.form.request backend.reader = .ok request)
    (haccepts : request.Accepts)
    (h : (op.run driver callback).run (c, backend) = (.error (.invalidArgument text), after)) :
    op.CallbackFails driver callback c backend (.invalidArgument text) after := by
  have haccepting : Accepting ((Backend.call driver op.form.request).run backend).1 := by
    rw [Backend.run_call_of_ok hrequest]
    exact Connection.accepting_perform haccepts _ _ _
  rw [run_eq_form, Form.run, Action.run_bind] at h
  simp only [Action.run, Action.onSecond] at h haccepting
  rcases hcall : (Backend.call driver op.form.request) backend with ⟨err | rows, answered⟩
  · rw [hcall] at h haccepting
    cases h
    exact absurd rfl (haccepting text)
  · rw [hcall] at h
    refine ⟨rows, answered, hcall, failsOn_of_deliverRows ?_⟩
    change (deliverRows callback (op.form.listed rows) >>= fun _ ↦
      Action.ofExcept (op.form.answer rows)).run (c, answered) = _ at h
    rw [Action.run_bind] at h
    rcases hdelivered : (deliverRows callback (op.form.listed rows)).run (c, answered) with
      ⟨err | done, reached⟩
    · rw [hdelivered] at h
      cases h
      rfl
    · rw [hdelivered] at h
      exact absurd (congrArg Prod.fst h) (op.accepting_answer rows text)

end Runs

/-- Whatever the driver, the backend and the callback: if an argument of an operation is beyond its
limits, the operation says so and leaves everything as it is, without a call of the driver.
Otherwise it can only refuse an argument if its callback does. -/
theorem arguments_checked (op : Operation) (driver : Driver W H) (backend : Backend W H)
    (callback : Listed → Action (C × Backend W H) Unit) (c : C) :
    ((∃ operand ∈ op.operands, operand.Refused) →
      (∃ operand ∈ op.operands, operand.Refused ∧
        (op.run driver callback).run (c, backend) =
          (.error (.invalidArgument operand.refusal), (c, backend))) ∧
      op.calls driver backend = []) ∧
    ((∀ operand ∈ op.operands, ¬ operand.Refused) → ∀ text after,
      (op.run driver callback).run (c, backend) = (.error (.invalidArgument text), after) →
        op.CallbackFails driver callback c backend (.invalidArgument text) after) := by
  have hchecks := op.checks_request backend.reader
  unfold Checks at hchecks
  cases hfind : op.operands.find? fun operand ↦ operand.Refused with
  | some operand =>
    rw [hfind] at hchecks
    have hmem := List.mem_of_find?_eq_some hfind
    have hfound := List.find?_some hfind
    have hrefused : operand.Refused := of_decide_eq_true hfound
    exact ⟨fun _ ↦ ⟨⟨operand, hmem, hrefused, run_of_refused hchecks⟩, calls_of_refused hchecks⟩,
      fun hnone ↦ absurd hrefused (hnone operand hmem)⟩
  | none =>
    rw [hfind] at hchecks
    obtain ⟨request, hrequest, haccepts⟩ := hchecks
    refine ⟨fun ⟨operand, hmem, hrefused⟩ ↦ ?_, fun _ text after ↦
      callbackFails_of_run hrequest haccepts⟩
    exact absurd (decide_eq_true hrefused) (List.find?_eq_none.mp hfind operand hmem)

/-- A backend on a file with one relation. -/
def related : FileBackend :=
  FileSite.named.afterAll [createSession ⟨"00:00:00:00:00:00", "user", 1, "program", "program"⟩,
    createObject "" "object" .entity 1, addRelation 1 1 .alternateOf] FileSite.first

/-- A callback that has no use for rows. -/
def refuse (_ : Listed) : Action (Unit × FileBackend) Unit := .fail (.invalidArgument "row")

/-- An object in session zero is refused, and listing the relation fails on a callback that refuses
it. -/
theorem zero_refused_and_row_refused :
    let listed :=
      ((objectRelations 1 .ancestors).run FileSite.named.driver refuse).run ((), related)
    (∃ operand ∈ (createObject "" "other" .entity 0).operands, operand.Refused ∧
      ((createObject "" "other" .entity 0).run FileSite.named.driver refuse).run ((), related) =
        (.error (.invalidArgument operand.refusal), ((), related))) ∧
    (createObject "" "other" .entity 0).calls FileSite.named.driver related = [] ∧
    listed.1 = .error (.invalidArgument "row") ∧
    (objectRelations 1 .ancestors).CallbackFails FileSite.named.driver refuse () related
      (.invalidArgument "row") listed.2 := by
  intro listed
  have hzero := (arguments_checked (createObject "" "other" .entity 0) FileSite.named.driver
    related refuse ()).1 ⟨.id "session" 0, by simp [operands, nameOperands], .inl rfl⟩
  have hone : ∀ operand ∈ (objectRelations 1 .ancestors).operands, ¬ operand.Refused :=
    List.forall_mem_singleton.mpr (by decide)
  have hrow : listed.1 = .error (.invalidArgument "row") := by decide +kernel
  have hlisted : listed = (.error (.invalidArgument "row"), listed.2) := by
    rw [← hrow]
  exact ⟨hzero.1, hzero.2, hrow, (arguments_checked (objectRelations 1 .ancestors)
    FileSite.named.driver related refuse ()).2 hone "row" listed.2 hlisted⟩

end Operation

end Provenance
