import Mathlib.Logic.Relation
import Provenance.Proofs.BundleContents
import Provenance.Proofs.CheckPasses
import Provenance.Proofs.ToldObjects

/-!
What a passed check shows. All that a check does to a backend is to ask (`Check.Asking`): calls that
read lead from the backend before it to the one after it, and on the way the backend meets the
stores that the database behind it holds, one after another if files change or a database is lost
with its connection (`Backend.Meets`), and always the same one in a file that nobody else changes
(`Backend.Meets.eq_of_settled`). A check that passes shows a fact of one of them (`Check.Shows`).
Of an object it shows the row, of a bundle the row and its members, and what is deleted it shows to
be gone; but of a relation it shows only that there is one between these ends
(`passed_check_shows`), so the loss of a relation passes if there is another one like it
(`lost_relation_passes`).
-/

set_option autoImplicit false
set_option relaxedAutoImplicit false

namespace Provenance

open Relational (Config Statement World)

variable {α β : Type}

/-! ### Asking -/

namespace Backend

variable {config : Config} {reader : Reader} {backend between after : FileBackend} {s : Store}

/-- One call that only reads, whatever it comes to. -/
def Asks (config : Config) (backend after : FileBackend) : Prop :=
  ∃ (α : Type) (made : Reader → Except Error (Request α)),
    (∀ reader request, made reader = .ok request → request.query.writes = false) ∧
      ((Backend.call (Relational.faulty config) made).run backend).2 = after

/-- Some calls that only read. -/
abbrev AsksOn (config : Config) : FileBackend → FileBackend → Prop :=
  Relation.ReflTransGen (Asks config)

/-- On the way from one backend to the other the database holds this store. -/
def Meets (config : Config) (backend after : FileBackend) (s : Store) : Prop :=
  ∃ moment : FileBackend, AsksOn config backend moment ∧ AsksOn config moment after ∧
    moment.connection.world.world.Serves s

theorem Meets.mono_after (h : Meets config backend between s)
    (hasks : AsksOn config between after) : Meets config backend after s := by
  obtain ⟨moment, hbefore, hafter, hserves⟩ := h
  exact ⟨moment, hbefore, hafter.trans hasks, hserves⟩

theorem Meets.mono_before (hasks : AsksOn config backend between)
    (h : Meets config between after s) : Meets config backend after s := by
  obtain ⟨moment, hbefore, hafter, hserves⟩ := h
  exact ⟨moment, hasks.trans hbefore, hafter, hserves⟩

/-- The backend has all of its statements, and reads in this way. -/
structure Fit (config : Config) (reader : Reader) (backend : FileBackend) : Prop where
  tallied : backend.Tallied (Relational.faultyTally config)
  reader_eq : backend.reader = reader

theorem Fit.call (h : backend.Fit config reader) (made : Reader → Except Error (Request α)) :
    ((Backend.call (Relational.faulty config) made).run backend).2.Fit config reader := by
  refine ⟨h.tallied.call made, ?_⟩
  cases hmade : made backend.reader with
  | error err => rw [run_call_of_error hmade, h.reader_eq]
  | ok request => rw [run_call_of_ok hmade]; exact h.reader_eq

/-- Asking keeps the store of a file. -/
theorem Asks.settled {site : FileSite} (h : Asks site.config backend after)
    (hsettled : backend.connection.Settled site s) : after.connection.Settled site s := by
  obtain ⟨α, made, hreads, rfl⟩ := h
  obtain ⟨s', hsettled', rfl | ⟨valid, now, rows, hmade, hreply⟩⟩ := settled_call made hsettled
  · exact hsettled'
  · obtain rfl := Store.eq_of_run_eq_ok (hreads _ _ hmade) (Store.outcome_eq_ok_iff.mp hreply)
    exact hsettled'

theorem AsksOn.settled {site : FileSite} (h : AsksOn site.config backend after)
    (hsettled : backend.connection.Settled site s) : after.connection.Settled site s := by
  induction h with
  | refl => exact hsettled
  | tail _ hasks ih => exact hasks.settled ih

/-- The only store that is met in a file is the one that it keeps. -/
theorem Meets.eq_of_settled {site : FileSite} {s' : Store} (h : Meets site.config backend after s')
    (hsettled : backend.connection.Settled site s) : s' = s := by
  obtain ⟨moment, hbefore, -, link, hlink, hcontents, -⟩ := h
  rcases AsksOn.settled hbefore hsettled with ⟨live, hopen⟩ | hclosed
  · obtain ⟨layoutRead, hsite⟩ := hopen.linked
    obtain rfl := Option.some.inj (hlink.symm.trans hsite)
    rw [FileSite.contents_of_keeps hopen.keeps] at hcontents
    exact (Relational.Contents.tables.inj hcontents).symm
  · cases hlink.symm.trans hclosed.unlinked

end Backend

/-- A connection to a file has all of its statements. -/
theorem Connection.Settled.tallied {site : FileSite} {s : Store}
    {c : Connection (Faulty World) Statement} (h : c.Settled site s) :
    c.Tallied (Relational.faultyTally site.config) c.poolSize := by
  refine ⟨rfl, ?_⟩
  rcases h with ⟨live, hopen⟩ | hclosed
  · obtain ⟨layoutRead, hlink⟩ := hopen.linked
    exact .inl ⟨live, hopen.live_eq, hopen.rested, Option.isSome_of_eq_some hlink, hopen.opened,
      hopen.handles⟩
  · exact .inr ⟨hclosed.live_eq, hclosed.unlinked, hclosed.opened, hclosed.handles⟩

/-! ### What answers say -/

namespace Value

variable {convert : Value → Except Error α} {value : Value} {a : α}

theorem convert_of_given_eq_ok {missing : Error} (h : value.given missing convert = .ok a) :
    convert value = .ok a := by
  unfold given at h
  split at h
  · cases h
  · exact h

theorem eq_of_toText_eq_ok {reader : Reader} {text : String} (h : value.toText reader = .ok text) :
    ∃ stored, value = .text stored ∧ Text.truncate reader.limit stored = text := by
  unfold toText at h
  split at h
  · rename_i stored hstored
    cases value <;> cases hstored
    exact ⟨stored, rfl, Except.ok.inj h⟩
  · cases h

theorem eq_of_toObjectKind_eq_ok {kind : ObjectKind} (h : value.toObjectKind = .ok kind) :
    value = .int kind.code := by
  unfold toObjectKind toInt at h
  cases value <;> try cases h
  rename_i code
  have hcode : ObjectKind.ofCode code = .ok kind := h
  unfold ObjectKind.ofCode at hcode
  split at hcode
  · rename_i found hfound
    obtain rfl := Except.ok.inj hcode
    have hsame := List.find?_some hfound
    rw [beq_iff_eq.mp hsame]
  · cases hcode

end Value

/-- An id that is no parameter is an argument that is not valid. -/
theorem Argument.id_ne_notFound {what : String} {id : Nat} :
    Argument.id what id ≠ .error .notFound := by
  unfold Argument.id
  repeat' split
  all_goals exact fun h ↦ by cases h

namespace Request

variable {reader : Reader} {id : Nat}

theorem eq_of_lookupRelation {source destination : Nat} {kind : RelationKind}
    {request : Request Nat} (h : Request.lookupRelation source destination kind = .ok request) :
    request = .oneId .lookupRelation [.int source, .int destination, .int kind.code] := by
  obtain ⟨params, hparams, h⟩ := Except.bind_eq_ok h
  obtain ⟨first, hfirst, hparams⟩ := Except.bind_eq_ok hparams
  obtain ⟨second, hsecond, hparams⟩ := Except.bind_eq_ok hparams
  cases hparams
  obtain rfl := Argument.id_eq_ok hfirst
  obtain rfl := Argument.id_eq_ok hsecond
  exact (Except.ok.inj h).symm

theorem eq_of_bundleObjects {request : Request (List ObjectInfo)}
    (h : Request.bundleObjects reader id = .ok request) :
    request = .list .getBundleObjects [.int id] (objectRow reader) := by
  obtain ⟨param, hparam, h⟩ := Except.bind_eq_ok h
  obtain rfl := Argument.id_eq_ok hparam
  exact (Except.ok.inj h).symm

theorem objectInfo_ne_notFound : Request.objectInfo reader id ≠ .error .notFound := by
  intro h
  rcases Except.bind_eq_error h with hparam | ⟨param, -, h⟩
  · exact Argument.id_ne_notFound hparam
  · cases h

theorem bundleInfo_ne_notFound : Request.bundleInfo reader id ≠ .error .notFound := by
  intro h
  rcases Except.bind_eq_error h with hparam | ⟨param, -, h⟩
  · exact Argument.id_ne_notFound hparam
  · cases h

end Request

/-- The row is of this kind, and its space and name read so within a limit. One without a name reads
as one with an empty name. -/
structure ObjectRow.ReadsAs (limit : Nat) (space name : String) (kind : ObjectKind)
    (row : ObjectRow) : Prop where
  space : ∃ stored, row.space = .text stored ∧ Text.truncate limit stored = space
  name : row.name = .null ∧ name = "" ∨
    ∃ stored, row.name = .text stored ∧ Text.truncate limit stored = name
  kind : row.kind = .int kind.code

theorem ObjectRow.readsAs_of_info {row : ObjectRow} {reader : Reader} {info : ObjectInfo}
    (h : row.info reader = .ok info) :
    info.id = row.id ∧ row.ReadsAs reader.limit info.space info.name info.kind := by
  obtain ⟨created, -, h⟩ := Except.bind_eq_ok h
  obtain ⟨space, hspace, h⟩ := Except.bind_eq_ok h
  obtain ⟨name, hname, h⟩ := Except.bind_eq_ok h
  obtain ⟨kind, hkind, h⟩ := Except.bind_eq_ok h
  obtain ⟨session, -, h⟩ := Except.bind_eq_ok h
  cases h
  refine ⟨rfl, Value.eq_of_toText_eq_ok (Value.convert_of_given_eq_ok hspace), ?_,
    Value.eq_of_toObjectKind_eq_ok (Value.convert_of_given_eq_ok hkind)⟩
  unfold Value.maybe at hname
  split at hname
  · rename_i hnull
    cases hname
    refine .inl ⟨?_, rfl⟩
    cases hvalue : row.name <;> rw [hvalue] at hnull <;> first | rfl | cases hnull
  · cases htext : row.name.toText reader with
    | error err =>
      rw [htext] at hname
      cases hname
    | ok text =>
      rw [htext] at hname
      cases hname
      exact .inr (Value.eq_of_toText_eq_ok htext)

namespace Store

variable {s : Store} {now : Value} {reader : Reader} {id : Nat}

/-- A relation that is found leads from one of these objects to the other and is of that kind; which
of them is found it does not say. -/
theorem exists_of_lookupRelation {source destination found : Nat} {kind : RelationKind}
    (h : (s.served now (.oneId .lookupRelation
      [.int source, .int destination, .int kind.code])).1 = .ok found) :
    ∃ r ∈ s.relations, r.source = source ∧ r.destination = destination ∧
      r.kind = .int kind.code := by
  let params : List Value := [.int source, .int destination, .int kind.code]
  have hrows : s.select .lookupRelation (params.getD · .null) =
      s.relationsBetween (.int source) (.int destination) (.int kind.code) := rfl
  have hread := readOff_of_served_ok (.oneId .lookupRelation params)
    (by simp [Request.IsPlain, Request.oneId, params]) rfl rfl hrows h
  have hsome : s.relationsBetween (.int source) (.int destination) (.int kind.code) ≠ [] := by
    intro hnil
    rw [hnil] at hread
    cases hread
  obtain ⟨_, hrow⟩ := List.exists_mem_of_ne_nil _ hsome
  obtain ⟨r, hr, -⟩ := List.mem_map.mp hrow
  obtain ⟨hr, hends⟩ := List.mem_filter.mp (List.mem_of_mem_take hr)
  simp only [idEquals_int, Value.equalsNumber, Bool.and_eq_true, beq_iff_eq] at hends
  exact ⟨r, hr, hends.1.1, hends.1.2, hends.2.2⟩

theorem ids_of_infos {rows : List ObjectRow} {infos : List ObjectInfo}
    (h : rows.map (·.info reader) = infos.map .ok) : infos.map (·.id) = rows.map (·.id) := by
  induction rows generalizing infos with
  | nil => cases infos <;> first | rfl | cases h
  | cons row rest ih =>
    cases infos with
    | nil => cases h
    | cons info infos =>
      obtain ⟨hinfo, hrest⟩ := List.cons.inj h
      rw [List.map_cons, List.map_cons, (ObjectRow.readsAs_of_info hinfo).1, ih hrest]

/-- The ids that are listed for a bundle. -/
theorem ids_of_bundleObjects {infos : List ObjectInfo}
    (h : (s.served now (.list .getBundleObjects [.int id] (Request.objectRow reader))).1 =
      .ok infos) : infos.map (·.id) = (s.listedObjects id).map (·.id) := by
  have hread := readOff_of_served_ok (.list .getBundleObjects [.int id] (Request.objectRow reader))
    (by simp [Request.IsPlain, Request.list]) rfl rfl (s.bundleObjects_eq id) h
  have hmakes := makes_objectRows reader (s.listedObjects id)
  have hall := (Request.readOff_list_of_makes .getBundleObjects [.int id] hmakes).symm.trans hread
  exact ids_of_infos (Reading.allRead_eq_ok hall)

end Store

namespace Simulation

namespace Check

variable {config : Relational.Config} {reader : Reader} {check : Checking FileBackend α}
  {next : α → Checking FileBackend β} {fact : α → Store → Prop} {fact' : β → Store → Prop}

/-- All that the check does to a backend is to ask. -/
def Asking (config : Relational.Config) (check : Checking FileBackend α) : Prop :=
  ∀ reader backend, backend.Fit config reader →
    (check backend).2.Fit config reader ∧ Backend.AsksOn config backend (check backend).2

theorem asking_of_same (h : ∀ backend, (check backend).2 = backend) : Asking config check := by
  intro reader backend hfit
  rw [h backend]
  exact ⟨hfit, .refl⟩

theorem asking_pure (a : α) : Asking config (pure a : Checking FileBackend α) :=
  asking_of_same fun _ ↦ rfl

theorem asking_look (question : FileBackend → Except String α) :
    Asking config (look question) := asking_of_same fun _ ↦ rfl

theorem asking_throw_if (c : Prop) [Decidable c] (reason : String) :
    Asking config (if c then throw reason else pure () : Checking FileBackend Unit) := by
  refine asking_of_same fun backend ↦ ?_
  split <;> rfl

theorem not_of_throw_if {c : Prop} [Decidable c] {reason : String} {backend after : FileBackend}
    {u : Unit} (h : (if c then throw reason else pure () : Checking FileBackend Unit) backend =
      (.ok u, after)) : ¬c := by
  intro hc
  rw [if_pos hc] at h
  cases h

theorem Asking.of_eq {result : Except String α} {backend after : FileBackend}
    (h : Asking config check) (hfit : backend.Fit config reader)
    (hcheck : check backend = (result, after)) :
    after.Fit config reader ∧ Backend.AsksOn config backend after := by
  have hasks := h reader backend hfit
  rwa [hcheck] at hasks

theorem Asking.bind (h : Asking config check) (hnext : ∀ a, Asking config (next a)) :
    Asking config (check >>= next) := by
  intro reader backend hfit
  rw [Checking.bind_eq]
  rcases hcheck : check backend with ⟨reason | a, between⟩
  · exact h.of_eq hfit hcheck
  · obtain ⟨hfit', hasks⟩ := h.of_eq hfit hcheck
    obtain ⟨hfit'', hasks'⟩ := hnext a reader between hfit'
    exact ⟨hfit'', hasks.trans hasks'⟩

theorem asking_forM {items : List β} {check : β → Checking FileBackend Unit}
    (h : ∀ b ∈ items, Asking config (check b)) : Asking config (items.forM check) := by
  induction items with
  | nil => exact asking_pure ()
  | cons b rest ih =>
    exact (h b List.mem_cons_self).bind fun _ ↦ ih fun b hb ↦ h b (List.mem_cons_of_mem _ hb)

/-- All that the check does is to ask, and if it passes then this holds of one of the stores that
it meets. -/
structure Shows (config : Relational.Config) (reader : Reader) (check : Checking FileBackend α)
    (fact : α → Store → Prop) : Prop where
  asking : Asking config check
  shown : ∀ backend a after, backend.Fit config reader → check backend = (.ok a, after) →
    ∃ s, Backend.Meets config backend after s ∧ fact a s

/-- What is shown first is shown, and more of it if the rest does not pass otherwise. -/
theorem Shows.bind (h : Shows config reader check fact) (hnext : ∀ a, Asking config (next a))
    (hpasses : ∀ a b between after, next a between = (.ok b, after) →
      ∀ s, fact a s → fact' b s) : Shows config reader (check >>= next) fact' := by
  refine ⟨h.asking.bind hnext, fun backend b after hfit hboth ↦ ?_⟩
  obtain ⟨a, between, hcheck, hrest⟩ := Checking.exists_of_bind_eq_ok hboth
  obtain ⟨hfit', -⟩ := h.asking.of_eq hfit hcheck
  obtain ⟨-, hasks⟩ := (hnext a).of_eq hfit' hrest
  obtain ⟨s, hmeets, hfact⟩ := h.shown backend a between hfit hcheck
  exact ⟨s, hmeets.mono_after hasks, hpasses a b between after hrest s hfact⟩

/-- What is shown is shown, whatever is asked after it. -/
theorem Shows.followed {fact : Store → Prop} (h : Shows config reader check fun _ ↦ fact)
    (hnext : ∀ a, Asking config (next a)) : Shows config reader (check >>= next) fun _ ↦ fact :=
  h.bind hnext fun _ _ _ _ _ _ hfact ↦ hfact

/-- What is shown after some asking is shown. -/
theorem Asking.bind_shows (h : Asking config check)
    (hnext : ∀ a, Shows config reader (next a) fact') :
    Shows config reader (check >>= next) fact' := by
  refine ⟨h.bind fun a ↦ (hnext a).asking, fun backend b after hfit hboth ↦ ?_⟩
  obtain ⟨a, between, hcheck, hrest⟩ := Checking.exists_of_bind_eq_ok hboth
  obtain ⟨hfit', hasks⟩ := h.of_eq hfit hcheck
  obtain ⟨s, hmeets, hfact⟩ := (hnext a).shown between b after hfit' hrest
  exact ⟨s, hmeets.mono_before hasks, hfact⟩

theorem shows_forM {items : List β} {check : β → Checking FileBackend Unit} {b : β}
    {fact : Store → Prop} (hall : ∀ b ∈ items, Asking config (check b)) (hb : b ∈ items)
    (h : Shows config reader (check b) fun _ ↦ fact) :
    Shows config reader (items.forM check) fun _ ↦ fact := by
  induction items with
  | nil => cases hb
  | cons first rest ih =>
    have hrest : ∀ b ∈ rest, Asking config (check b) := fun b hb ↦
      hall b (List.mem_cons_of_mem _ hb)
    rcases List.mem_cons.mp hb with rfl | hb
    · exact h.followed fun _ ↦ asking_forM hrest
    · exact (hall first List.mem_cons_self).bind_shows fun _ ↦ ih hrest hb

/-! ### One question -/

section Calls

variable {made : Reader → Except Error (Request α)}
  (hreads : ∀ reader request, made reader = .ok request → request.query.writes = false)

include hreads

theorem asks_call (backend : FileBackend) :
    Backend.AsksOn config backend
      ((Backend.call (Relational.faulty config) made).run backend).2 :=
  .single ⟨α, made, hreads, rfl⟩

/-- What a call returns is what one of the stores makes of its request, unless the driver fails. -/
theorem exists_served {backend : FileBackend} {request : Request α} {result : Except Error α}
    (hfit : backend.Fit config reader) (hmade : made reader = .ok request)
    (hcall : ((Backend.call (Relational.faulty config) made).run backend).1 = result)
    (hresult : ∀ err, result = .error err → err.isFromDriver = false) :
    ∃ s now, Backend.Meets config backend
        ((Backend.call (Relational.faulty config) made).run backend).2 s ∧
      (s.served now request).1 = result := by
  have hrequest : made backend.reader = .ok request := by rw [hfit.reader_eq, hmade]
  have hquery := hreads _ _ hmade
  have hconsult := hfit.tallied.consult_of_call hrequest hquery (hcall ▸ hresult)
  rw [hcall] at hconsult
  obtain ⟨s, hserves⟩ := Relational.World.exists_serves (hconsult ▸ hresult)
  rw [hserves.consult_eq hquery] at hconsult
  exact ⟨s, _, ⟨_, asks_call hreads backend, .refl, hserves⟩, hconsult⟩

/-- A check that leaves what a call leaves only asks. -/
theorem asking_of_call {check : Checking FileBackend β}
    (h : ∀ backend, (check backend).2 =
      ((Backend.call (Relational.faulty config) made).run backend).2) : Asking config check := by
  intro reader backend hfit
  rw [h]
  exact ⟨hfit.call made, asks_call hreads backend⟩

/-- A call that succeeds shows what follows from the answer of a store. -/
theorem shows_call (describe : Error → String)
    (h : ∀ s now request a, made reader = .ok request → (s.served now request).1 = .ok a →
      fact a s) :
    Shows config reader
      (Checking.ofAction describe (Backend.call (Relational.faulty config) made)) fact := by
  refine ⟨asking_of_call hreads fun backend ↦ ?_, fun backend a after hfit hcheck ↦ ?_⟩
  · rw [Checking.ofAction_eq]
    split <;> simp only [*]
  · rw [Checking.ofAction_eq] at hcheck
    rcases hcall : (Backend.call (Relational.faulty config) made).run backend with
      ⟨err | a, after⟩
    · rw [hcall] at hcheck
      cases hcheck
    · rw [hcall] at hcheck
      cases hcheck
      cases hmade : made reader with
      | error err =>
        rw [Backend.run_call_of_error (hfit.reader_eq ▸ hmade)] at hcall
        cases hcall
      | ok request =>
        obtain ⟨s, now, hmeets, hserved⟩ :=
          exists_served hreads hfit hmade (congrArg Prod.fst hcall) fun err herr ↦ by cases herr
        rw [hcall] at hmeets
        exact ⟨s, hmeets, h s now request a hmade hserved⟩

/-- Where nothing must be found, that is what a store has answered. -/
theorem shows_gone (what : String) (id : Nat) (debug : α → String) {fact : Store → Prop}
    (hmakes : ∀ reader, made reader ≠ .error .notFound)
    (h : ∀ s now request, made reader = .ok request →
      (s.served now request).1 = .error .notFound → fact s) :
    Shows config reader (gone what id debug (Backend.call (Relational.faulty config) made))
      fun _ ↦ fact := by
  have hsame : ∀ backend, (gone what id debug (Backend.call (Relational.faulty config) made)
      backend).2 = ((Backend.call (Relational.faulty config) made).run backend).2 := by
    intro backend
    unfold gone Action.run
    split <;> simp only [*]
  refine ⟨asking_of_call hreads hsame, fun backend a after hfit hcheck ↦ ?_⟩
  have hafter := hsame backend
  rw [hcheck] at hafter
  have hcall : ((Backend.call (Relational.faulty config) made).run backend).1 =
      .error .notFound := by
    unfold gone at hcheck
    unfold Action.run
    split at hcheck
    · simp only [*]
    · cases hcheck
    · cases hcheck
  cases hmade : made reader with
  | error err =>
    rw [Backend.run_call_of_error (hfit.reader_eq ▸ hmade)] at hcall
    obtain rfl := Except.error.inj hcall
    exact absurd hmade (hmakes reader)
  | ok request =>
    obtain ⟨s, now, hmeets, hserved⟩ := exists_served hreads hfit hmade hcall
      fun err herr ↦ by cases herr; rfl
    rw [← hafter] at hmeets
    exact ⟨s, hmeets, h s now request hmade hserved⟩

end Calls

/-! ### The entries of a ledger -/

theorem shows_object (config : Relational.Config) (reader : Reader) (space : String) (id : Nat)
    (record : ObjectRecord) :
    Shows config reader (object (Relational.faulty config) space id record) fun _ s ↦
      ∃ row ∈ s.objects, row.id = id ∧
        row.ReadsAs reader.limit space record.name record.kind := by
  have htold : Shows config reader
      (Checking.ofAction (fun err ↦ s!"object {id}: {err.message}")
        (Backend.objectInfo (Relational.faulty config) id))
      fun info s ↦ ∃ row ∈ s.objects, row.id = id ∧
        row.ReadsAs reader.limit info.space info.name info.kind := by
    refine shows_call (fun _ _ hmade ↦ Request.eq_of_objectInfo hmade ▸ rfl) _ ?_
    intro s now request info hmade hserved
    obtain rfl := Request.eq_of_objectInfo hmade
    have hcases := s.told_objectInfo now reader id
    rw [hserved] at hcases
    cases hcases with
    | told row hrow hid info hinfo =>
      exact ⟨row, hrow, hid, (ObjectRow.readsAs_of_info hinfo).2⟩
  refine htold.bind (fun info ↦ asking_throw_if _ _) fun info _ _ _ hpassed s hshown ↦ ?_
  have hsame := not_of_throw_if hpassed
  simp only [ne_eq, not_or, not_not] at hsame
  obtain ⟨hname, hkind, hspace⟩ := hsame
  rwa [hname, hkind, hspace] at hshown

theorem shows_relation (config : Relational.Config) (reader : Reader) (id : Nat)
    (record : RelationRecord) :
    Shows config reader (relation (Relational.faulty config) id record) fun _ s ↦
      ∃ r ∈ s.relations, r.source = record.source ∧ r.destination = record.destination ∧
        r.kind = .int record.kind.code := by
  have hfound : Shows config reader
      (Checking.ofAction (fun err ↦ s!"relation {id}: {err.message}")
        (Backend.lookupRelation (Relational.faulty config) record.source record.destination
          record.kind))
      fun _ s ↦ ∃ r ∈ s.relations, r.source = record.source ∧
        r.destination = record.destination ∧ r.kind = .int record.kind.code := by
    refine shows_call (fun _ _ hmade ↦ Request.eq_of_lookupRelation hmade ▸ rfl) _ ?_
    intro s now request found hmade hserved
    obtain rfl := Request.eq_of_lookupRelation hmade
    exact Store.exists_of_lookupRelation hserved
  exact hfound.followed fun _ ↦ asking_pure ()

/-- A bundle is told of. -/
theorem shows_bundleInfo (config : Relational.Config) (reader : Reader) (id : Nat)
    (describe : Error → String) :
    Shows config reader
      (Checking.ofAction describe (Backend.bundleInfo (Relational.faulty config) id))
      fun _ s ↦ ∃ row ∈ s.objects, row.id = id ∧ row.isBundle = true := by
  refine shows_call (fun _ _ hmade ↦ Request.eq_of_bundleInfo hmade ▸ rfl) _ ?_
  intro s now request info hmade hserved
  obtain rfl := Request.eq_of_bundleInfo hmade
  have hcases := s.told_bundleInfo now reader id
  rw [hserved] at hcases
  cases hcases with
  | told row hrow hid hbundle info hinfo => exact ⟨row, hrow, hid, hbundle⟩

/-- The objects of a bundle are listed. -/
theorem shows_bundleObjects (config : Relational.Config) (reader : Reader) (id : Nat)
    (describe : Error → String) :
    Shows config reader
      (Checking.ofAction describe
        (Backend.collect (Backend.bundleObjects (Relational.faulty config) id)))
      fun infos s ↦ infos.map (·.id) = (s.listedObjects id).map (·.id) := by
  rw [Backend.collect_bundleObjects]
  refine shows_call (fun _ _ hmade ↦ Request.eq_of_bundleObjects hmade ▸ rfl) _ ?_
  intro s now request infos hmade hserved
  obtain rfl := Request.eq_of_bundleObjects hmade
  exact Store.ids_of_bundleObjects hserved

theorem shows_bundle (config : Relational.Config) (reader : Reader) (id : Nat)
    (members : List Nat) :
    Shows config reader (bundle (Relational.faulty config) id members)
      fun _ s ↦ ∃ row ∈ s.objects, row.id = id ∧ row.isBundle = true :=
  (shows_bundleInfo config reader id _).followed fun _ ↦
    (shows_bundleObjects config reader id _).asking.bind fun _ ↦ asking_throw_if _ _

/-- A bundle is checked to list all of its members. -/
theorem shows_members (config : Relational.Config) (reader : Reader) (id : Nat)
    (members : List Nat) :
    Shows config reader (bundle (Relational.faulty config) id members)
      fun _ s ↦ ∀ member ∈ members, ∃ row ∈ s.listedObjects id, row.id = member := by
  refine (shows_bundleInfo config reader id _).asking.bind_shows fun _ ↦ ?_
  refine (shows_bundleObjects config reader id _).bind (fun _ ↦ asking_throw_if _ _)
    fun infos _ _ _ hpassed s hids member hmember ↦ ?_
  have hall := not_of_throw_if hpassed
  simp only [Bool.not_eq_true', Bool.not_eq_false] at hall
  have hlisted := List.contains_iff_mem.mp (List.all_eq_true.mp hall member hmember)
  rw [Ascending.mem_ofList, hids] at hlisted
  exact List.mem_map.mp hlisted

theorem shows_deletedObject (config : Relational.Config) (reader : Reader) (id : Nat) :
    Shows config reader
      (gone "deleted object" id ObjectInfo.debug
        (Backend.objectInfo (Relational.faulty config) id))
      fun _ s ↦ s.hasObject id = false := by
  refine shows_gone (fun _ _ hmade ↦ Request.eq_of_objectInfo hmade ▸ rfl) _ _ _
    (fun _ ↦ Request.objectInfo_ne_notFound) ?_
  intro s now request hmade hserved
  obtain rfl := Request.eq_of_objectInfo hmade
  have hcases := s.told_objectInfo now reader id
  rw [hserved] at hcases
  cases hcases with
  | unread err hvalue => cases hvalue
  | absent habsent => exact habsent

theorem shows_deletedBundle (config : Relational.Config) (reader : Reader) (id : Nat) :
    Shows config reader
      (gone "deleted bundle" id BundleInfo.debug
        (Backend.bundleInfo (Relational.faulty config) id))
      fun _ s ↦ s.ObjectsComplete → ∀ row ∈ s.objects, row.id = id → row.isBundle = false := by
  refine shows_gone (fun _ _ hmade ↦ Request.eq_of_bundleInfo hmade ▸ rfl) _ _ _
    (fun _ ↦ Request.bundleInfo_ne_notFound) ?_
  intro s now request hmade hserved hcomplete
  obtain rfl := Request.eq_of_bundleInfo hmade
  have hcases := s.told_bundleInfo now reader id
  rw [hserved] at hcases
  cases hcases with
  | unread err hvalue => cases hvalue
  | incomplete row hrow hid hmissing =>
    rw [hcomplete.created row hrow, hcomplete.space row hrow] at hmissing
    rcases hmissing with hmissing | hmissing <;> cases hmissing
  | absent habsent => exact habsent

/-- What a ledger says of a store that passes a check, texts being read within a limit: of each
entry what the check shows. -/
inductive Finding (limit : Nat) (ledger : Ledger) : (Store → Prop) → Prop
  | object {id : Nat} {record : ObjectRecord} (h : (id, record) ∈ ledger.objects) :
      Finding limit ledger fun s ↦ ∃ row ∈ s.objects, row.id = id ∧
        row.ReadsAs limit ledger.space record.name record.kind
  | deletedObject {id : Nat} (h : id ∈ ledger.deletedObjects) :
      Finding limit ledger fun s ↦ s.hasObject id = false
  /-- The id of the relation is not looked at. -/
  | relation {id : Nat} {record : RelationRecord} (h : (id, record) ∈ ledger.relations) :
      Finding limit ledger fun s ↦ ∃ r ∈ s.relations, r.source = record.source ∧
        r.destination = record.destination ∧ r.kind = .int record.kind.code
  | bundle {id : Nat} {members : List Nat} (h : (id, members) ∈ ledger.bundles) :
      Finding limit ledger fun s ↦ ∃ row ∈ s.objects, row.id = id ∧ row.isBundle = true
  | members {id : Nat} {members : List Nat} (h : (id, members) ∈ ledger.bundles) :
      Finding limit ledger fun s ↦ ∀ member ∈ members, ∃ row ∈ s.listedObjects id, row.id = member
  | deletedBundle {id : Nat} (h : id ∈ ledger.deletedBundles) :
      Finding limit ledger fun s ↦
        s.ObjectsComplete → ∀ row ∈ s.objects, row.id = id → row.isBundle = false

/-- The checks of the entries of a ledger, one after the other. -/
def entries (config : Relational.Config) (ledger : Ledger) : List (Checking FileBackend Unit) :=
  ledger.objects.map (fun entry ↦
      object (Relational.faulty config) ledger.space entry.1 entry.2) ++
    (ledger.deletedObjects.map (fun id ↦
      gone "deleted object" id ObjectInfo.debug
        (Backend.objectInfo (Relational.faulty config) id)) ++
    (ledger.relations.map (fun entry ↦
      relation (Relational.faulty config) entry.1 entry.2) ++
    (ledger.bundles.map (fun entry ↦
      bundle (Relational.faulty config) entry.1 entry.2) ++
    ledger.deletedBundles.map (fun id ↦
      gone "deleted bundle" id BundleInfo.debug
        (Backend.bundleInfo (Relational.faulty config) id)))))

theorem ledger_eq_forM (config : Relational.Config) (ledger : Ledger) :
    Check.ledger (Relational.faulty config) ledger = (entries config ledger).forM id := by
  simp only [entries, List.forM_eq_forM, List.forM_append, List.forM_map]
  rfl

theorem asking_entries (config : Relational.Config) (reader : Reader) (ledger : Ledger) :
    ∀ check ∈ entries config ledger, Asking config check := by
  intro check hcheck
  simp only [entries, List.mem_append, List.mem_map] at hcheck
  rcases hcheck with ⟨entry, -, rfl⟩ | ⟨id, -, rfl⟩ | ⟨entry, -, rfl⟩ | ⟨entry, -, rfl⟩ |
    ⟨id, -, rfl⟩
  · exact (shows_object config reader _ _ _).asking
  · exact (shows_deletedObject config reader _).asking
  · exact (shows_relation config reader _ _).asking
  · exact (shows_bundle config reader _ _).asking
  · exact (shows_deletedBundle config reader _).asking

theorem asking_ledger (config : Relational.Config) (reader : Reader) (ledger : Ledger) :
    Asking config (Check.ledger (Relational.faulty config) ledger) := by
  rw [ledger_eq_forM]
  exact asking_forM (asking_entries config reader ledger)

theorem shows_entry (config : Relational.Config) {ledger : Ledger} {fact : Store → Prop}
    (h : Finding reader.limit ledger fact) :
    ∃ check ∈ entries config ledger, Shows config reader check fun _ ↦ fact := by
  simp only [entries, List.mem_append, List.mem_map]
  cases h with
  | object h => exact ⟨_, .inl ⟨_, h, rfl⟩, shows_object config reader _ _ _⟩
  | deletedObject h => exact ⟨_, .inr (.inl ⟨_, h, rfl⟩), shows_deletedObject config reader _⟩
  | relation h =>
    exact ⟨_, .inr (.inr (.inl ⟨_, h, rfl⟩)), shows_relation config reader _ _⟩
  | bundle h =>
    exact ⟨_, .inr (.inr (.inr (.inl ⟨_, h, rfl⟩))), shows_bundle config reader _ _⟩
  | members h =>
    exact ⟨_, .inr (.inr (.inr (.inl ⟨_, h, rfl⟩))), shows_members config reader _ _⟩
  | deletedBundle h =>
    exact ⟨_, .inr (.inr (.inr (.inr ⟨_, h, rfl⟩))), shows_deletedBundle config reader _⟩

theorem shows_ledger {ledger : Ledger} {fact : Store → Prop}
    (h : Finding reader.limit ledger fact) :
    Shows config reader (Check.ledger (Relational.faulty config) ledger) fun _ ↦ fact := by
  obtain ⟨check, hcheck, hshows⟩ := shows_entry config h
  rw [ledger_eq_forM]
  exact shows_forM (asking_entries config reader ledger) hcheck hshows

theorem shows_run {size : Nat} {reports : List Report} {report : Report} {fact : Store → Prop}
    (hreport : report ∈ reports) (h : Finding reader.limit report.ledger fact) :
    Shows config reader (Check.run (Relational.faulty config) size reports) fun _ ↦ fact := by
  have hledgers : ∀ report ∈ reports,
      Asking config (Check.ledger (Relational.faulty config) report.ledger) := fun report _ ↦
    asking_ledger config reader report.ledger
  have htotals : Asking config
      (do look (pools size); return totals reports : Checking FileBackend Totals) :=
    (asking_look _).bind fun _ ↦ asking_pure _
  exact (asking_look _).bind_shows fun _ ↦ (asking_look _).bind_shows fun _ ↦
    (shows_forM hledgers hreport (shows_ledger h)).followed fun _ ↦ htotals

end Check

/-- If a check passes on a backend that has all of its statements, then what each of its ledgers
says holds of a store that the database held while it was checked, whatever failures were planned
and however often the connection was rebuilt; and in a file of the store that it keeps. -/
theorem passed_check_shows {config : Relational.Config} {backend after : FileBackend} {size : Nat}
    {reports : List Report} {totals : Totals}
    (htallied : backend.Tallied (Relational.faultyTally config))
    (hpassed : Check.run (Relational.faulty config) size reports backend = (.ok totals, after)) :
    ∀ report ∈ reports, ∀ fact, Check.Finding backend.reader.limit report.ledger fact →
      (∃ s, Backend.Meets config backend after s ∧ fact s) ∧
        ∀ (site : FileSite) (s : Store), site.config = config →
          backend.connection.Settled site s → fact s := by
  intro report hreport fact hfact
  obtain ⟨met, hmeets, hshown⟩ :=
    (Check.shows_run hreport hfact).shown backend totals after ⟨htallied, rfl⟩ hpassed
  refine ⟨⟨met, hmeets, hshown⟩, ?_⟩
  rintro site s rfl hsettled
  exact hmeets.eq_of_settled hsettled ▸ hshown

/-- A relation is recorded twice and lost with the bundle that the first of the two is in. -/
def lost : FileBackend :=
  FileSite.named.afterAll [
    .createSession ⟨"00:00:00:00:00:00", "user", 1, "program", "program --flag"⟩,
    .createObject "" "source" .entity 1, .createObject "" "destination" .entity 1,
    .createBundle "bundle" "" 1, .addRelation 1 2 .used, .addRelation 1 2 .used,
    .addRelation 3 1 .bundleRelation, .deleteBundle 3] FileSite.first

/-- What is said of it by whom has recorded the first of the two. -/
def reportOfLost : Report where
  ledger :=
    { space := ""
      objects := [(1, ⟨"source", .entity⟩), (2, ⟨"destination", .entity⟩)]
      relations := [(1, ⟨1, 2, .used⟩)]
      bundles := []
      deletedObjects := []
      deletedBundles := [3] }
  steps := 8
  gaveUp := 0
  reconnects := 0

theorem passes_lost :
    (Check.run FileSite.named.driver 4 [reportOfLost] lost).1 = .ok ⟨2, 1, 0⟩ := by
  decide +kernel

/-- The check passes, though relation 1 is not stored. -/
theorem lost_relation_passes :
    FileSite.named.Reachable (.opened lost) ∧
      (1, ⟨1, 2, .used⟩) ∈ reportOfLost.ledger.relations ∧
      (Check.run FileSite.named.driver 4 [reportOfLost] lost).1 = .ok ⟨2, 1, 0⟩ ∧
      ∃ s, FileSite.named.Keeps lost.connection.world.world s ∧ ∀ r ∈ s.relations, r.id ≠ 1 :=
  ⟨FileSite.reachable_first.afterAll _, List.mem_cons_self, passes_lost,
    _, ⟨⟨rfl, by decide⟩, rfl⟩, by decide +kernel⟩

/-- The check shows that one of the ends is stored, and that there is a relation between them. -/
theorem lost_relation_shown : ∃ s, FileSite.named.Keeps lost.connection.world.world s ∧
    (∃ row ∈ s.objects, row.id = 1 ∧ row.ReadsAs lost.reader.limit "" "source" .entity) ∧
    ∃ r ∈ s.relations, r.source = 1 ∧ r.destination = 2 ∧
      r.kind = .int RelationKind.used.code := by
  obtain ⟨s, -, hsettled⟩ :=
    (FileSite.reachable_first.afterAll _ : FileSite.named.Reachable (.opened lost)).exists_store
  have hsize : lost.connection.poolSize = lost.options.poolSize := by decide +kernel
  have htallied : lost.Tallied (Relational.faultyTally FileSite.named.config) :=
    ⟨by decide +kernel, hsize ▸ hsettled.tallied⟩
  rcases hrun : Check.run FileSite.named.driver 4 [reportOfLost] lost with ⟨result, after⟩
  obtain rfl : result = .ok ⟨2, 1, 0⟩ := (congrArg Prod.fst hrun).symm.trans passes_lost
  have hshown := passed_check_shows htallied hrun reportOfLost List.mem_cons_self
  exact ⟨s, hsettled.keeps,
    (hshown _ (.object List.mem_cons_self)).2 FileSite.named s rfl hsettled,
    (hshown _ (.relation List.mem_cons_self)).2 FileSite.named s rfl hsettled⟩

end Simulation

end Provenance
