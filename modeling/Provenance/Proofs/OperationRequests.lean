import Provenance.Operation
import Provenance.Store.Affinity

/-!
What operations ask of a store. Every operation makes one request of its arguments, runs it, hands
on the rows and answers: `Operation.form` names these parts, and `run_eq_form` says that running an
operation is running its parts. A callback that only acts on the state of the caller leaves the
backend as the request left it (`run_passive`). The parameters of a request that valid arguments
make are integers and texts (`plain_of_request`), which a store takes as they are.
-/

set_option autoImplicit false
set_option relaxedAutoImplicit false

namespace Provenance

variable {W H C α β : Type}

/-! ### Handing on rows -/

theorem deliver_eq (rows : List α) (callback : α → Action C Unit) :
    deliver rows callback = (do
      deliverRows callback rows
      return if rows.isEmpty then Status.noData else .ok) := by
  cases rows with
  | nil => rfl
  | cons row rest => rfl

theorem deliverRows_map (wrap : α → β) (callback : β → Action C Unit) (rows : List α) :
    deliverRows callback (rows.map wrap) = deliverRows (fun row ↦ callback (wrap row)) rows := by
  induction rows with
  | nil => rfl
  | cons row rest ih => simp only [List.map_cons, deliverRows, ih]

theorem deliverLookup_eq (rows : List α) (flags : LookupFlags) (callback : α → Action C Unit) :
    deliverLookup rows flags callback = (do
      deliverRows callback rows
      Action.ofExcept (if rows.isEmpty && !flags.contains ⟨true⟩ then .error .notFound
        else .ok (if rows.isEmpty then .noData else .ok))) := by
  unfold deliverLookup
  cases rows with
  | nil => cases flags.contains ⟨true⟩ <;> rfl
  | cons row rest => rfl

namespace Operation

/-- What an operation asks for and what it makes of the rows: those it hands on, and its answer
once they are handed on. -/
structure Form where
  Rows : Type
  request : Reader → Except Error (Request Rows)
  listed : Rows → List Listed
  answer : Rows → Except Error Answer

namespace Form

/-- Answers with what the request returns. -/
def answering (request : Reader → Except Error (Request α)) (wrap : α → Answer) : Form where
  Rows := α
  request := request
  listed _ := []
  answer a := .ok (wrap a)

/-- Hands on all rows. -/
def listing (request : Reader → Except Error (Request (List α))) (wrap : α → Listed) : Form where
  Rows := List α
  request := request
  listed rows := rows.map wrap
  answer rows := .ok (.listed (if rows.isEmpty then .noData else .ok))

/-- Hands on all rows; none at all are a failure unless the flags allow for that. -/
def finding (request : Reader → Except Error (Request (List α))) (wrap : α → Listed)
    (flags : LookupFlags) : Form where
  Rows := List α
  request := request
  listed rows := rows.map wrap
  answer rows :=
    if rows.isEmpty && !flags.contains ⟨true⟩ then .error .notFound
    else .ok (.listed (if rows.isEmpty then .noData else .ok))

def run (form : Form) (driver : Driver W H) (callback : Listed → Action (C × Backend W H) Unit) :
    Action (C × Backend W H) Answer := do
  let rows ← Action.onSecond (Backend.call driver form.request)
  deliverRows callback (form.listed rows)
  Action.ofExcept (form.answer rows)

end Form

def form : Operation → Form
  | createSession session => .answering (fun _ ↦ Request.createSession session) .id
  | sessionInfo id => .answering (fun reader ↦ Request.sessionInfo reader id) .session
  | createObject space name kind session =>
    .answering (fun _ ↦ Request.createObject space name kind session) .id
  | lookupObject space name kind =>
    .answering (fun _ ↦ Request.lookupObject space name kind) .id
  | lookupObjects space name kind flags =>
    .finding (fun reader ↦ Request.lookupObjects reader space name kind) .lookup flags
  | objectInfo id => .answering (fun reader ↦ Request.objectInfo reader id) .object
  | allObjects space => .listing (fun reader ↦ Request.allObjects reader space) .object
  | addObjectProperty id space key value =>
    .answering (fun _ ↦ Request.addObjectProperty id space key value) fun _ ↦ .done
  | objectProperties id filter =>
    .listing (fun reader ↦ Request.objectProperties reader id filter) .property
  | objectsWithProperty space key value flags =>
    .finding (fun _ ↦ Request.objectsWithProperty space key value) .id flags
  | objectsMatching pattern flags => .finding (fun _ ↦ Request.objectsMatching pattern) .id flags
  | addRelation source destination kind =>
    .answering (fun _ ↦ Request.addRelation source destination kind) .id
  | lookupRelation source destination kind =>
    .answering (fun _ ↦ Request.lookupRelation source destination kind) .id
  | hasImmediateAncestor object ancestor =>
    .answering (fun _ ↦ Request.hasImmediateAncestor object ancestor) .truth
  | objectRelations id direction =>
    .listing (fun _ ↦ Request.objectRelations id direction) .relation
  | addRelationProperty id space key value =>
    .answering (fun _ ↦ Request.addRelationProperty id space key value) fun _ ↦ .done
  | relationProperties id filter =>
    .listing (fun reader ↦ Request.relationProperties reader id filter) .property
  | createBundle name space session =>
    .answering (fun _ ↦ Request.createBundle name space session) .id
  | lookupBundle name space => .answering (fun _ ↦ Request.lookupBundle name space) .id
  | lookupBundles name space flags =>
    .finding (fun reader ↦ Request.lookupBundles reader name space) .lookup flags
  | deleteBundle id => .answering (fun _ ↦ Request.deleteBundle id) fun _ ↦ .done
  | bundleInfo id => .answering (fun reader ↦ Request.bundleInfo reader id) .bundle
  | bundleObjects id => .listing (fun reader ↦ Request.bundleObjects reader id) .object
  | bundleRelations id => .listing (fun _ ↦ Request.bundleRelations id) .relation
  | addBundleProperty id space key value =>
    .answering (fun _ ↦ Request.addBundleProperty id space key value) fun _ ↦ .done
  | bundleProperties id filter =>
    .listing (fun reader ↦ Request.bundleProperties reader id filter) .property
  | addPrefix bundle space iri =>
    .answering (fun _ ↦ Request.addPrefix bundle space iri) fun _ ↦ .done
  | prefixes bundle space =>
    .listing (fun reader ↦ Request.prefixes reader bundle space) .abbreviation

theorem answering_call (driver : Driver W H) (request : Reader → Except Error (Request α))
    (wrap : α → Answer) (callback : Listed → Action (C × Backend W H) Unit) :
    answering wrap (Backend.call driver request) =
      (Form.answering request wrap).run driver callback := rfl

theorem listing_each (driver : Driver W H) (request : Reader → Except Error (Request (List α)))
    (wrap : α → Listed) (callback : Listed → Action (C × Backend W H) Unit) :
    listing wrap callback (Backend.each driver request) =
      (Form.listing request wrap).run driver callback := by
  simp only [listing, Backend.each, Form.run, Form.listing, deliver_eq, deliverRows_map, bind_assoc,
    pure_bind]
  rfl

theorem listing_eachFound (driver : Driver W H)
    (request : Reader → Except Error (Request (List α))) (wrap : α → Listed) (flags : LookupFlags)
    (callback : Listed → Action (C × Backend W H) Unit) :
    listing wrap callback (Backend.eachFound driver request flags) =
      (Form.finding request wrap flags).run driver callback := by
  simp only [listing, Backend.eachFound, Form.run, Form.finding, deliverLookup_eq, deliverRows_map,
    bind_assoc]
  refine bind_congr fun rows ↦ bind_congr fun _ ↦ ?_
  split <;> rfl

/-- Running an operation is running the request that it makes, handing on rows and answering. -/
theorem run_eq_form (driver : Driver W H) (callback : Listed → Action (C × Backend W H) Unit)
    (op : Operation) : op.run driver callback = op.form.run driver callback := by
  cases op
  all_goals first
    | exact answering_call ..
    | exact listing_each ..
    | exact listing_eachFound ..

end Operation

/-! ### A callback that keeps the rows -/

namespace Backend

/-- Keeps a row that is handed out. -/
def keepRow (row : α) : Action (List α × Backend W H) Unit := fun state ↦
  (.ok (), (state.1 ++ [row], state.2))

theorem run_deliverRows_keepRow (rows taken : List α) (backend : Backend W H) :
    (deliverRows keepRow rows).run (taken, backend) = (.ok (), (taken ++ rows, backend)) := by
  induction rows generalizing taken with
  | nil => rw [List.append_nil, deliverRows, Action.run_pure]
  | cons row rest ih =>
    rw [deliverRows, Action.run_bind]
    refine (ih (taken ++ [row])).trans ?_
    rw [List.append_assoc, List.singleton_append]

/-- What is collected are the rows that are kept, unless the enumeration fails. -/
theorem collect_of_run {enumerate : (α → Action (List α × Backend W H) Unit) →
    Action (List α × Backend W H) Status} {backend after : Backend W H}
    {result : Except Error Status} {rows : List α}
    (h : (enumerate keepRow).run ([], backend) = (result, (rows, after))) :
    collect enumerate backend = (result.map fun _ ↦ rows, after) := by
  unfold collect
  split <;> rename_i hrun <;> cases hrun.symm.trans h <;> rfl

/-- Collecting what an enumeration hands out is making its request. -/
theorem collect_each (driver : Driver W H)
    (request : Reader → Except Error (Request (List α))) :
    collect (each driver request) = call driver request := by
  funext backend
  rcases hcall : call driver request backend with ⟨err | rows, after⟩
  · have hrun : (each driver request keepRow).run ([], backend) = (.error err, ([], after)) := by
      rw [each, Action.run_bind]
      simp only [Action.run, Action.onSecond, hcall]
    exact collect_of_run hrun
  · have hrun : (each driver request keepRow).run ([], backend) =
        (.ok (if rows.isEmpty then .noData else .ok), (rows, after)) := by
      rw [each, Action.run_bind]
      simp only [Action.run, Action.onSecond, hcall]
      change (deliver rows keepRow).run ([], after) = _
      rw [deliver_eq, Action.run_bind, run_deliverRows_keepRow]
      rfl
    exact collect_of_run hrun

end Backend

namespace Operation

/-- An operation whose rows are kept comes to its answer and the rows of its request. -/
theorem run_keepRow (op : Operation) (driver : Driver W H) (taken : List Listed)
    (backend : Backend W H) :
    (op.run driver Backend.keepRow).run (taken, backend) =
      match (Backend.call driver op.form.request).run backend with
      | (.ok rows, after) => (op.form.answer rows, (taken ++ op.form.listed rows, after))
      | (.error err, after) => (.error err, (taken, after)) := by
  rw [run_eq_form, Form.run, Action.run_bind]
  simp only [Action.run, Action.onSecond]
  rcases Backend.call driver op.form.request backend with ⟨_ | rows, after⟩
  · rfl
  · change (deliverRows Backend.keepRow (op.form.listed rows) >>= fun _ ↦
      Action.ofExcept (op.form.answer rows)).run (taken, after) = _
    rw [Action.run_bind, Backend.run_deliverRows_keepRow]
    rfl

/-! ### Callbacks that leave the backend alone -/

/-- A callback that acts on the state of the caller only. -/
def passive {σ : Type} (callback : Listed → Action C Unit) : Listed → Action (C × σ) Unit :=
  fun row (c, s) ↦
    let (result, c) := callback row c
    (result, (c, s))

/-- The callback of a caller that does not look at the rows. -/
def ignore (_ : Listed) : Action Unit Unit := pure ()

theorem deliverRows_passive {σ : Type} (callback : Listed → Action C Unit) (rows : List Listed)
    (c : C) (s : σ) :
    deliverRows (passive callback) rows (c, s) =
      ((deliverRows callback rows c).1, ((deliverRows callback rows c).2, s)) := by
  induction rows generalizing c with
  | nil => rfl
  | cons row rest ih =>
    change (passive callback row >>= fun _ ↦ deliverRows (passive callback) rest).run (c, s) = _
    have hcons : deliverRows callback (row :: rest) c =
        (callback row >>= fun _ ↦ deliverRows callback rest).run c := rfl
    rw [hcons, Action.run_bind, Action.run_bind]
    simp only [Action.run, passive]
    rcases callback row c with ⟨_ | _, c'⟩
    · rfl
    · exact ih c'

namespace Form

/-- Hands on the rows of a request and answers. -/
def finish (form : Form) (callback : Listed → Action C Unit) (rows : form.Rows) :
    Action C Answer := do
  deliverRows callback (form.listed rows)
  Action.ofExcept (form.answer rows)

theorem run_finish (form : Form) (callback : Listed → Action C Unit) (rows : form.Rows) (c : C) :
    (form.finish callback rows).run c =
      match (deliverRows callback (form.listed rows)).run c with
      | (.ok _, c) => (form.answer rows, c)
      | (.error err, c) => (.error err, c) := by
  rw [finish, Action.run_bind]
  rcases (deliverRows callback (form.listed rows)).run c with ⟨_ | _, c'⟩ <;> rfl

/-- What a caller gets for the result of a request, and the state that its callback leaves. -/
def conclude (form : Form) (callback : Listed → Action C Unit) (result : Except Error form.Rows)
    (c : C) : Except Error Answer × C :=
  match result with
  | .ok rows => (form.finish callback rows).run c
  | .error err => (.error err, c)

/-- What comes back is what the request leaves and what is made of its result. -/
theorem run_passive (form : Form) (driver : Driver W H) (callback : Listed → Action C Unit) (c : C)
    (backend : Backend W H) :
    (form.run driver (passive callback)).run (c, backend) =
      let (result, backend) := (Backend.call driver form.request).run backend
      ((form.conclude callback result c).1, ((form.conclude callback result c).2, backend)) := by
  change (Action.onSecond (Backend.call driver form.request) >>= fun rows ↦
    deliverRows (passive callback) (form.listed rows) >>= fun _ ↦
      Action.ofExcept (form.answer rows)).run (c, backend) = _
  rw [Action.run_bind]
  simp only [Action.run, Action.onSecond]
  rcases Backend.call driver form.request backend with ⟨_ | rows, after⟩
  · rfl
  · change (deliverRows (passive callback) (form.listed rows) >>= fun _ ↦
      Action.ofExcept (form.answer rows)).run (c, after) = _
    rw [Action.run_bind]
    have hfinish := run_finish form callback rows c
    simp only [Action.run] at hfinish
    simp only [Action.run, deliverRows_passive, conclude, hfinish]
    rcases deliverRows callback (form.listed rows) c with ⟨_ | _, c'⟩ <;> rfl

end Form

/-! ### Parameters -/

end Operation

/-- If an outcome is a result, the result has a property. -/
def Ensures (outcome : Except Error α) (property : α → Prop) : Prop :=
  ∀ a, outcome = .ok a → property a

namespace Ensures

variable {outcome : Except Error α} {next : α → Except Error β} {first : α → Prop}
  {property : β → Prop}

theorem any (outcome : Except Error α) : Ensures outcome fun _ ↦ True := fun _ _ ↦ trivial

theorem pure {b : β} (h : property b) : Ensures (Pure.pure b) property := by
  intro b' hb
  cases hb
  exact h

theorem bind (h : Ensures outcome first) (hnext : ∀ a, first a → Ensures (next a) property) :
    Ensures (outcome >>= next) property := by
  intro b hb
  cases outcome with
  | error err => cases hb
  | ok a => exact hnext a (h a rfl) b hb

/-- A check has no result to speak of. -/
theorem check (hnext : ∀ a, Ensures (next a) property) : Ensures (outcome >>= next) property :=
  bind (any outcome) fun a _ ↦ hnext a

end Ensures

/-- An integer or a text. -/
def Value.IsPlain : Value → Prop
  | .int _ | .text _ => True
  | _ => False

@[simp] theorem Value.isPlain_int (i : Int) : (Value.int i).IsPlain := trivial

@[simp] theorem Value.isPlain_text (s : String) : (Value.text s).IsPlain := trivial

theorem Value.IsPlain.asParameter {value : Value} (h : value.IsPlain) :
    value.asParameter = value := by
  cases value with
  | int _ => rfl
  | text _ => rfl
  | null => cases h
  | real _ => cases h
  | timestamp _ => cases h
  | blob _ => cases h
  | garbled _ => cases h

theorem Value.rowId?_int (id : Nat) : (Value.int id).rowId? = some id := by
  simp [Value.rowId?, Value.inNumericColumn]

theorem Value.toId_int (id : Nat) : Value.toId (.int id) = .ok id := by
  rw [Value.toId, Value.asInt]
  simp

theorem Argument.id_eq {id : Nat} (what : String) (hpos : 0 < id) (hle : id ≤ Limit.id) :
    Argument.id what id = .ok (.int id) := by
  rw [Argument.id, if_neg (by omega), if_neg (by omega)]

theorem Argument.ensures_id (what : String) (id : Nat) :
    Ensures (Argument.id what id) Value.IsPlain := by
  intro value h
  unfold Argument.id at h
  split at h
  · cases h
  · split at h
    · cases h
    · cases h
      exact Value.isPlain_int _

namespace Request

/-- All parameters are integers and texts. -/
def IsPlain (request : Request α) : Prop := ∀ value ∈ request.params, value.IsPlain

theorem IsPlain.asParameter {request : Request α} (h : request.IsPlain) :
    request.params.map Value.asParameter = request.params :=
  List.map_congr_left (fun value hvalue ↦ (h value hvalue).asParameter) |>.trans (List.map_id _)

theorem ensures_addProperty (query : Query) (what : String) (owner : Nat)
    (space key value : String) :
    Ensures (addProperty query what owner space key value) IsPlain := by
  refine .check fun _ ↦ .bind (Argument.ensures_id _ _) fun owner howner ↦ .pure ?_
  simp [IsPlain, command, howner]

theorem ensures_properties (queries : PropertyQueries) (what : String) (reader : Reader)
    (owner : Nat) (filter : PropertyFilter) :
    Ensures (properties queries what reader owner filter) IsPlain := by
  refine .bind (Argument.ensures_id _ _) fun owner howner ↦ ?_
  cases filter with
  | all => exact .pure (by simp [IsPlain, list, howner])
  | space space => exact .check fun _ ↦ .pure (by simp [IsPlain, list, howner])
  | key space key => exact .check fun _ ↦ .check fun _ ↦ .pure (by simp [IsPlain, list, howner])

theorem ensures_relationParams (source destination : Nat) (kind : RelationKind) :
    Ensures (relationParams source destination kind) fun params ↦
      ∀ value ∈ params, value.IsPlain := by
  refine .bind (Argument.ensures_id _ _) fun source hsource ↦
    .bind (Argument.ensures_id _ _) fun destination hdestination ↦ .pure ?_
  simp [hsource, hdestination]

theorem isPlain_nameParams (space name : String) (kind : Option ObjectKind) :
    ∀ value ∈ nameParams space name kind, value.IsPlain := by
  cases kind <;> simp [nameParams]

end Request

/-- The parameters of a request that valid arguments make are integers and texts. -/
theorem Operation.plain_of_request (op : Operation) (reader : Reader) :
    Ensures (op.form.request reader) Request.IsPlain := by
  cases op with
  | createSession session =>
    exact .check fun _ ↦ .check fun _ ↦ .check fun _ ↦ .check fun _ ↦
      .pure (by simp [Request.IsPlain, Request.oneId])
  | sessionInfo id =>
    exact .bind (Argument.ensures_id _ _) fun id hid ↦
      .pure (by simp [Request.IsPlain, Request.first, hid])
  | createObject space name kind session =>
    exact .check fun _ ↦ .bind (Argument.ensures_id _ _) fun session hsession ↦
      .pure (by simp [Request.IsPlain, Request.oneId, hsession])
  | lookupObject space name kind =>
    exact .check fun _ ↦ .pure (Request.isPlain_nameParams space name kind)
  | lookupObjects space name kind flags =>
    exact .check fun _ ↦ .pure (Request.isPlain_nameParams space name kind)
  | objectInfo id =>
    exact .bind (Argument.ensures_id _ _) fun id hid ↦
      .pure (by simp [Request.IsPlain, Request.first, hid])
  | allObjects space =>
    cases space with
    | none => exact .pure (by simp [Request.IsPlain, Request.list])
    | some space => exact .check fun _ ↦ .pure (by simp [Request.IsPlain, Request.list])
  | addObjectProperty id space key value => exact Request.ensures_addProperty _ _ _ _ _ _
  | objectProperties id filter => exact Request.ensures_properties _ _ _ _ _
  | objectsWithProperty space key value flags =>
    exact .check fun _ ↦ .pure (by simp [Request.IsPlain, Request.list])
  | objectsMatching pattern flags =>
    exact .check fun _ ↦ .pure (by simp [Request.IsPlain, Request.list])
  | addRelation source destination kind =>
    exact .bind (Request.ensures_relationParams _ _ _) fun params hparams ↦ .pure hparams
  | lookupRelation source destination kind =>
    exact .bind (Request.ensures_relationParams _ _ _) fun params hparams ↦ .pure hparams
  | hasImmediateAncestor object ancestor =>
    exact .bind (Argument.ensures_id _ _) fun object hobject ↦
      .bind (Argument.ensures_id _ _) fun ancestor hancestor ↦
        .pure (by simp [Request.IsPlain, hobject, hancestor])
  | objectRelations id direction =>
    exact .bind (Argument.ensures_id _ _) fun id hid ↦
      .pure (by simp [Request.IsPlain, Request.list, hid])
  | addRelationProperty id space key value => exact Request.ensures_addProperty _ _ _ _ _ _
  | relationProperties id filter => exact Request.ensures_properties _ _ _ _ _
  | createBundle name space session =>
    exact .check fun _ ↦ .bind (Argument.ensures_id _ _) fun session hsession ↦
      .pure (by simp [Request.IsPlain, Request.oneId, hsession])
  | lookupBundle name space =>
    exact .check fun _ ↦ .pure (by simp [Request.IsPlain, Request.oneId])
  | lookupBundles name space flags =>
    exact .check fun _ ↦ .pure (by simp [Request.IsPlain, Request.list])
  | deleteBundle id =>
    exact .bind (Argument.ensures_id _ _) fun id hid ↦ .pure (by simp [Request.IsPlain, hid])
  | bundleInfo id =>
    exact .bind (Argument.ensures_id _ _) fun id hid ↦ .pure (by simp [Request.IsPlain, hid])
  | bundleObjects id =>
    exact .bind (Argument.ensures_id _ _) fun id hid ↦
      .pure (by simp [Request.IsPlain, Request.list, hid])
  | bundleRelations id =>
    exact .bind (Argument.ensures_id _ _) fun id hid ↦
      .pure (by simp [Request.IsPlain, Request.list, hid])
  | addBundleProperty id space key value => exact Request.ensures_addProperty _ _ _ _ _ _
  | bundleProperties id filter => exact Request.ensures_properties _ _ _ _ _
  | addPrefix bundle space iri =>
    exact .check fun _ ↦ .check fun _ ↦ .bind (Argument.ensures_id _ _) fun bundle hbundle ↦
      .pure (by simp [Request.IsPlain, Request.command, hbundle])
  | prefixes bundle space =>
    refine .bind (Argument.ensures_id _ _) fun bundle hbundle ↦ ?_
    cases space with
    | none => exact .pure (by simp [Request.IsPlain, Request.list, hbundle])
    | some space => exact .check fun _ ↦ .pure (by simp [Request.IsPlain, Request.list, hbundle])

end Provenance
