import Provenance.Proofs.Consulting
import Provenance.Proofs.KeptRows
import Provenance.Proofs.NestedCalls

/-!
Listings and their callbacks. The rows that a listing hands on are those that its query has when the
call returns, before the first of them is handed on; the callback gets them in order until it fails,
whatever it does to the backend meanwhile (`snapshot_of_listing`). Between two rows nothing but the
callback acts on the backend, and whenever it is handed a row, all statements are in their pools and
a call of its own waits for nobody. A callback may be any program of operations and reconnections
with callbacks of their own (`Program`).
-/

set_option autoImplicit false
set_option relaxedAutoImplicit false

namespace Provenance

open Relational (Config Statement World)

/-! ### How a listing ends -/

namespace Operation

/-- The operation answers that there is no data if it has no row to hand on. -/
def allowsNone : Operation → Bool
  | lookupObjects _ _ _ flags | objectsWithProperty _ _ _ flags | objectsMatching _ flags
  | lookupBundles _ _ flags => flags.noFail
  | _ => true

/-- The answer of a listing that has handed on all of its rows. -/
def ending (op : Operation) (rows : List Listed) : Except Error Answer :=
  if rows.isEmpty then
    if op.allowsNone then .ok (.listed .noData) else .error .notFound
  else .ok (.listed .ok)

theorem answer_listing {α : Type} (request : Reader → Except Error (Request (List α)))
    (wrap : α → Listed) (rows : List α) :
    (Form.listing request wrap).answer rows =
      if ((Form.listing request wrap).listed rows).isEmpty then .ok (.listed .noData)
      else .ok (.listed .ok) := by
  cases rows <;> rfl

theorem answer_finding {α : Type} (request : Reader → Except Error (Request (List α)))
    (wrap : α → Listed) (flags : LookupFlags) (rows : List α) :
    (Form.finding request wrap flags).answer rows =
      if ((Form.finding request wrap flags).listed rows).isEmpty then
        if flags.noFail then .ok (.listed .noData) else .error .notFound
      else .ok (.listed .ok) := by
  obtain ⟨noFail⟩ := flags
  cases rows <;> cases noFail <;> rfl

theorem answer_eq_ending {op : Operation} (h : op.lists = true) (rows : op.form.Rows) :
    op.form.answer rows = op.ending (op.form.listed rows) := by
  cases op
  all_goals first
    | exact answer_listing _ _ rows
    | exact answer_finding _ _ _ rows
    | cases h

theorem writes_of_lists {op : Operation} (h : op.lists = true) : op.query.writes = false := by
  cases op with
  | lookupObjects space name kind flags => cases kind <;> rfl
  | allObjects space | prefixes bundle space => cases space <;> rfl
  | objectProperties id filter | relationProperties id filter | bundleProperties id filter =>
    cases filter <;> rfl
  | objectRelations id direction => cases direction <;> rfl
  | objectsWithProperty | objectsMatching | lookupBundles | bundleObjects | bundleRelations => rfl
  | _ => cases h

theorem reads_of_lists {op : Operation} (h : op.lists = true) {reader : Reader}
    {request : Request op.form.Rows} (hmade : op.form.request reader = .ok request) :
    request.query.writes = false := by
  rw [op.ensures_query reader request hmade]
  exact writes_of_lists h

end Operation

namespace Watched

variable {config : Config} {backend : Watcher} {C : Type}
  {callback : Listed → Action (C × Watcher) Unit}

/-! ### Callbacks that use the backend -/

/-- What a callback does: operations and reconnections, one after another, each depending on the
outcomes of those before; the operations have callbacks of their own. -/
inductive Program (C : Type) where
  | stop (result : Except Error Unit) (c : C)
  | perform (op : Operation) (c : C) (callback : Listed → C → Program C)
      (next : Except Error Answer → C → Program C)
  | reconnect (next : Except Error Unit → Program C)

namespace Program

def run (config : Config) : Program C → Watcher → Except Error Unit × C × Watcher
  | stop result c, backend => (result, c, backend)
  | perform op c callback next, backend =>
    let (answer, (c, backend)) := (op.run (driver config)
      fun row (c, backend) ↦ (callback row c).run config backend).run (c, backend)
    (next answer c).run config backend
  | reconnect next, backend =>
    let (result, backend) := (Backend.reconnect (driver config)).run backend
    (next result).run config backend

/-- The callback that runs a program for every row. -/
def asCallback (config : Config) (program : Listed → C → Program C) :
    Listed → Action (C × Watcher) Unit :=
  fun row (c, backend) ↦ (program row c).run config backend

end Program

theorem Proper.run (h : Proper config callback) (op : Operation) (c : C)
    (hreach : Reachable config (.opened backend)) :
    Reachable config (.opened ((op.run (driver config) callback).run (c, backend)).2.2) := by
  obtain ⟨-, hafter⟩ := h.noted op c hreach
  rwa [(forgets_run callback op c backend).2.2] at hafter

theorem Program.reachable_run (program : Program C) (h : Reachable config (.opened backend)) :
    Reachable config (.opened (program.run config backend).2.2) := by
  induction program generalizing backend with
  | stop result c => exact h
  | perform op c nested next ihnested ihnext =>
    have hproper : Proper config (Program.asCallback config nested) :=
      fun row c _ hbackend ↦ ihnested row c hbackend
    exact ihnext _ _ (hproper.run op c h)
  | reconnect next ih => exact ih _ (h.step (.reconnected backend))

/-- A callback that runs programs does nothing to its backend but what can happen to one. -/
theorem proper_asCallback (program : Listed → C → Program C) :
    Proper config (Program.asCallback config program) :=
  fun row c _ h ↦ (program row c).reachable_run h

/-! ### Deliveries -/

/-- One call of a callback: the row that it is handed and the backend before, its result and the
backend after. -/
structure Delivery where
  row : Listed
  before : Watcher
  result : Except Error Unit
  after : Watcher

/-- The callback, with every call of it noted. -/
def reporting (callback : Listed → Action (C × Watcher) Unit) :
    Listed → Action ((C × List Delivery) × Watcher) Unit := fun row ((c, made), backend) ↦
  let (result, (c, after)) := callback row (c, backend)
  (result, ((c, made ++ [⟨row, backend, result, after⟩]), after))

/-- The calls of a callback by an operation. -/
def deliveries (config : Config) (op : Operation) (callback : Listed → Action (C × Watcher) Unit)
    (c : C) (backend : Watcher) : List Delivery :=
  ((op.run (driver config) (reporting callback)).run ((c, []), backend)).2.1.2

/-- The callback has been handed rows one after another, up to the first one that it failed on. -/
inductive Handed (callback : Listed → Action (C × Watcher) Unit) :
    List Listed → C × Watcher → List Delivery → Except Error Unit → C × Watcher → Prop
  | all (s : C × Watcher) : Handed callback [] s [] (.ok ()) s
  | goesOn {row : Listed} {rest : List Listed} {s s' last : C × Watcher} {made : List Delivery}
      {result : Except Error Unit} (hcall : (callback row).run s = (.ok (), s'))
      (h : Handed callback rest s' made result last) :
      Handed callback (row :: rest) s (⟨row, s.2, .ok (), s'.2⟩ :: made) result last
  | fails {row : Listed} {s s' : C × Watcher} {err : Error} (rest : List Listed)
      (hcall : (callback row).run s = (.error err, s')) :
      Handed callback (row :: rest) s [⟨row, s.2, .error err, s'.2⟩] (.error err) s'

theorem handed_deliverRows (callback : Listed → Action (C × Watcher) Unit) (rows : List Listed)
    (s : C × Watcher) (told : List Delivery) :
    ∃ made result last, Handed callback rows s made result last ∧
      (deliverRows callback rows).run s = (result, last) ∧
      (deliverRows (reporting callback) rows).run ((s.1, told), s.2) =
        (result, ((last.1, told ++ made), last.2)) := by
  induction rows generalizing s told with
  | nil => exact ⟨[], .ok (), s, .all s, rfl, by rw [List.append_nil]; rfl⟩
  | cons row rest ih =>
    rw [deliverRows, deliverRows, Action.run_bind, Action.run_bind]
    rcases hcall : (callback row).run s with ⟨err | _, s'⟩
    · have hreport : (reporting callback row).run ((s.1, told), s.2) =
          (.error err, ((s'.1, told ++ [⟨row, s.2, .error err, s'.2⟩]), s'.2)) := by
        change callback row (s.1, s.2) = _ at hcall
        simp only [Action.run, reporting, hcall]
      rw [hreport]
      exact ⟨_, _, _, .fails rest hcall, rfl, rfl⟩
    · have hreport : (reporting callback row).run ((s.1, told), s.2) =
          (.ok (), ((s'.1, told ++ [⟨row, s.2, .ok (), s'.2⟩]), s'.2)) := by
        change callback row (s.1, s.2) = _ at hcall
        simp only [Action.run, reporting, hcall]
      obtain ⟨made, result, last, hhanded, hplain, hreported⟩ :=
        ih s' (told ++ [⟨row, s.2, .ok (), s'.2⟩])
      rw [List.append_assoc] at hreported
      rw [hreport]
      exact ⟨_, result, last, .goesOn hcall hhanded, hplain, hreported⟩

namespace Handed

variable {rows : List Listed} {s last : C × Watcher} {made : List Delivery}
  {result : Except Error Unit}

/-- Nothing but the callback acts on the backend between two rows. -/
theorem undisturbed (h : Handed callback rows s made result last) :
    made.map (·.before) ++ [last.2] = s.2 :: made.map (·.after) := by
  induction h with
  | all s => rfl
  | goesOn hcall h ih =>
    rw [List.map_cons, List.map_cons, List.cons_append, ih]
  | fails rest hcall => rfl

/-- All rows have been handed on, or those up to the one that the callback failed on. -/
theorem all_or_failed (h : Handed callback rows s made result last) :
    (made.map (·.row) = rows ∧ (∀ call ∈ made, call.result = .ok ()) ∧ result = .ok ()) ∨
      ∃ earlier failed err, made = earlier ++ [failed] ∧ made.map (·.row) <+: rows ∧
        (∀ call ∈ earlier, call.result = .ok ()) ∧ failed.result = .error err ∧
        result = .error err := by
  induction h with
  | all s => exact .inl ⟨rfl, by simp, rfl⟩
  | @goesOn row rest s s' last made result hcall h ih =>
    rcases ih with ⟨hrows, hok, hresult⟩ | ⟨earlier, failed, err, hmade, hrows, hok, herr, hresult⟩
    · exact .inl ⟨congrArg (row :: ·) hrows, List.forall_mem_cons.mpr ⟨rfl, hok⟩, hresult⟩
    · exact .inr ⟨_ :: earlier, failed, err, congrArg (_ :: ·) hmade,
        (List.prefix_cons_inj row).mpr hrows, List.forall_mem_cons.mpr ⟨rfl, hok⟩, herr, hresult⟩
  | @fails row s s' err rest hcall =>
    exact .inr ⟨[], _, err, rfl, ⟨rest, rfl⟩, by simp, rfl, rfl⟩

/-- Every backend that a proper callback is handed can be reached. -/
theorem reachable (h : Handed callback rows s made result last) (hproper : Proper config callback)
    (hreach : Reachable config (.opened s.2)) :
    ∀ call ∈ made, Reachable config (.opened call.before) := by
  induction h with
  | all s => simp
  | @goesOn row rest s s' last made result hcall h ih =>
    have hafter := hproper row s.1 s.2 hreach
    rw [show (callback row).run (s.1, s.2) = _ from hcall] at hafter
    exact List.forall_mem_cons.mpr ⟨hreach, ih hafter⟩
  | fails rest hcall => exact List.forall_mem_singleton.mpr hreach

end Handed

/-! ### Listings -/

/-- An operation hands on its rows once its own call has returned. -/
theorem run_of_call {op : Operation} {D : Type} (callback : Listed → Action (D × Watcher) Unit)
    (d : D) {result : Except Error op.form.Rows} {after : Watcher}
    (hcall : (Backend.call (driver config) op.form.request).run backend = (result, after)) :
    (op.run (driver config) callback).run (d, backend) =
      match result with
      | .error err => (.error err, (d, after))
      | .ok rows => (do
          deliverRows callback (op.form.listed rows)
          Action.ofExcept (op.form.answer rows)).run (d, after) := by
  have hsecond : (Action.onSecond (Backend.call (driver config) op.form.request)).run (d, backend) =
      (result, (d, after)) := by
    change Backend.call (driver config) op.form.request backend = _ at hcall
    simp only [Action.run, Action.onSecond, hcall]
  rw [Operation.run_eq_form, Operation.Form.run, Action.run_bind, hsecond]
  cases result <;> rfl

variable {op : Operation}

theorem listing_of_failed {err : Error} {after : Watcher}
    (hcall : (Backend.call (driver config) op.form.request).run backend = (.error err, after))
    (callback : Listed → Action (C × Watcher) Unit) (c : C) :
    deliveries config op callback c backend = [] ∧
      (op.run (driver config) callback).run (c, backend) = (.error err, (c, after)) := by
  rw [deliveries, run_of_call (reporting callback) (c, []) hcall, run_of_call callback c hcall]
  exact ⟨rfl, rfl⟩

theorem listing_of_called {rows : op.form.Rows} {after : Watcher}
    (hcall : (Backend.call (driver config) op.form.request).run backend = (.ok rows, after))
    (callback : Listed → Action (C × Watcher) Unit) (c : C) :
    ∃ result last, Handed callback (op.form.listed rows) (c, after)
        (deliveries config op callback c backend) result last ∧
      (op.run (driver config) callback).run (c, backend) =
        (result.bind fun _ ↦ op.form.answer rows, last) := by
  obtain ⟨made, result, last, hhanded, hplain, hreported⟩ :=
    handed_deliverRows callback (op.form.listed rows) (c, after) []
  rw [deliveries, run_of_call (reporting callback) (c, []) hcall, run_of_call callback c hcall]
  dsimp only
  rw [Action.run_bind, Action.run_bind, hplain, hreported]
  cases result with
  | error err => exact ⟨_, _, hhanded, rfl⟩
  | ok _ => exact ⟨_, _, hhanded, rfl⟩

/-- What a listing comes to once its own call has returned rows. -/
structure Snapshot (op : Operation) (backend after : Watcher) (rows : op.form.Rows)
    (made : List Delivery) (answered : Except Error Answer × C × Watcher) : Prop where
  /-- The rows are those that the query has when the call returns. -/
  consulted : ∃ request, op.form.request backend.reader = .ok request ∧
    after.connection.world.world.world.consult request = .ok rows
  /-- All rows are handed on in order, or those up to one that the callback fails on: its error is
  the answer. -/
  handed :
    (made.map (·.row) = op.form.listed rows ∧ (∀ call ∈ made, call.result = .ok ()) ∧
        answered.1 = op.ending (op.form.listed rows)) ∨
      ∃ earlier failed err, made = earlier ++ [failed] ∧
        made.map (·.row) <+: op.form.listed rows ∧
        (∀ call ∈ earlier, call.result = .ok ()) ∧ failed.result = .error err ∧
        answered.1 = .error err
  /-- Nothing but the callback acts on the backend after the call. -/
  undisturbed : made.map (·.before) ++ [answered.2.2] = after :: made.map (·.after)

theorem snapshot_of_called (htallied : backend.Tallied (tally config)) (hlists : op.lists = true)
    {rows : op.form.Rows} {after : Watcher}
    (hcall : (Backend.call (driver config) op.form.request).run backend = (.ok rows, after))
    (callback : Listed → Action (C × Watcher) Unit) (c : C) :
    Snapshot op backend after rows (deliveries config op callback c backend)
      ((op.run (driver config) callback).run (c, backend)) := by
  obtain ⟨result, last, hhanded, hrun⟩ := listing_of_called hcall callback c
  rw [hrun]
  refine ⟨?_, ?_, hhanded.undisturbed⟩
  · cases hmade : op.form.request backend.reader with
    | error err => cases hcall.symm.trans (Backend.run_call_of_error hmade)
    | ok request =>
      have hconsult := consult_of_call htallied hmade (Operation.reads_of_lists hlists hmade)
        (congrArg Prod.fst hcall)
      rw [hcall] at hconsult
      exact ⟨request, rfl, hconsult⟩
  · rcases hhanded.all_or_failed with ⟨hrows, hok, rfl⟩ |
      ⟨earlier, failed, err, hmade, hrows, hok, herr, rfl⟩
    · exact .inl ⟨hrows, hok, Operation.answer_eq_ending hlists rows⟩
    · exact .inr ⟨earlier, failed, err, hmade, hrows, hok, herr, rfl⟩

/-- A listing hands on the rows that its query has when its own call returns, whatever the callback
does to the backend. If that call fails, nothing is handed on; it returns the rows if the
connection is open, nothing is planned to fail and the database has them. The call waits for nobody,
and neither does any call that is made while a row is handed on: all statements are in their pools
then, and the callers of the listing and of the calls around it are in no pass. -/
theorem snapshot_of_listing (hreach : Reachable config (.opened backend))
    (hproper : Proper config callback) (hlists : op.lists = true) (c : C) :
    let called := (Backend.call (driver config) op.form.request).run backend
    let made := deliveries config op callback c backend
    let answered := (op.run (driver config) callback).run (c, backend)
    (∀ rows, called.1 = .ok rows → Snapshot op backend called.2 rows made answered) ∧
    (∀ err, called.1 = .error err → made = [] ∧ answered = (.error err, (c, called.2))) ∧
    (backend.connection.isConnected = true →
      (∀ point, backend.connection.world.world.plan.queues point = []) →
      ∀ request rows, op.form.request backend.reader = .ok request →
        backend.connection.world.world.world.consult request = .ok rows →
        called.1 = .ok rows) ∧
    backend.connection.Unhindered (driver config) ∧
    ∀ call ∈ made, (State.opened call.before).Balanced ∧
      call.before.connection.Unhindered (driver config) := by
  intro called made answered
  have htallied : backend.Tallied (tally config) := hreach.tallied
  refine ⟨fun rows hok ↦ ?_, fun err herr ↦ ?_, fun hopen hqueues request rows hmade hconsult ↦ ?_,
    htallied.connection.unhindered htallied.sized, ?_⟩
  · exact snapshot_of_called htallied hlists (Prod.ext hok rfl) callback c
  · exact listing_of_failed (Prod.ext herr rfl) callback c
  · exact call_of_consult htallied hmade (Operation.reads_of_lists hlists hmade) hopen hqueues
      hconsult
  · intro call hcall
    have hseen : Reachable config (.opened call.before) := by
      rcases hresult : called with ⟨err | rows, after⟩
      · have hnone : made = [] := (listing_of_failed hresult callback c).1
        rw [hnone] at hcall
        cases hcall
      · obtain ⟨result, last, hhanded, -⟩ := listing_of_called hresult callback c
        have hafter : Reachable config (.opened called.2) := hreach.step (.called backend op)
        rw [hresult] at hafter
        exact hhanded.reachable hproper hafter call hcall
    have hbefore : call.before.Tallied (tally config) := hseen.tallied
    exact ⟨State.Tallied.balanced hbefore, hbefore.connection.unhindered hbefore.sized⟩

/-- A backend with one statement of every query. -/
def single : Watcher :=
  (Backend.start (driver FileSite.named.config) FileSite.named.text { poolSize := 1 } ⟨0, none⟩
    ⟨FileSite.untouched, []⟩).2

theorem reachable_single : Reachable FileSite.named.config (.opened single) := by
  have hfresh : Reachable FileSite.named.config (.closed ⟨FileSite.untouched, []⟩) :=
    .fresh ⟨rfl, rfl, rfl, rfl⟩
  exact hfresh.step (.started FileSite.named.text { poolSize := 1 } ⟨0, none⟩ (Prod.ext rfl rfl))

/-- A bundle and two objects in it. -/
def someBundle : List Operation :=
  [.createSession ⟨"00:00:00:00:00:00", "user", 1, "program", "program --flag"⟩,
    .createBundle "bundle" "" 1, .createObject "" "first" .entity 1,
    .createObject "" "second" .entity 1, .addRelation 1 2 .inBundle, .addRelation 1 3 .inBundle]

/-- For every row: deletes the bundle, found or not, and reconnects. -/
def deleting (_ : Listed) (c : Unit) : Program Unit :=
  .perform (.deleteBundle 1) c (fun _ c ↦ .stop (.ok ()) c) fun _ c ↦
    .reconnect fun result ↦ .stop result c

/-- The ids of all objects in the file. -/
def storedIds (backend : Watcher) : List Nat :=
  match backend.connection.world.world.world.contentsOf? FileSite.named.path with
  | some (.tables s) => s.objects.map (·.id)
  | _ => []

/-- With one statement of every query, a bundle is listed to a callback that deletes it and
reconnects: both of its objects are handed on, although the second one is gone by then. -/
theorem listed_while_deleted :
    let config := FileSite.named.config
    let backend := afterCalls config someBundle single
    let callback := Program.asCallback config deleting
    let made := deliveries config (.bundleObjects 1) callback () backend
    (∃ after rows, Snapshot (.bundleObjects 1) backend after rows made
      (((Operation.bundleObjects 1).run (driver config) callback).run ((), backend))) ∧
    made.map (·.row) = [.object ⟨2, 1, 1767225600, "", "first", .entity⟩,
      .object ⟨3, 1, 1767225600, "", "second", .entity⟩] ∧
    made.map (fun call ↦ storedIds call.before) = [[1, 2, 3], []] ∧
    ∀ call ∈ made, call.before.connection.Unhindered (driver config) := by
  intro config backend callback made
  have hlists : (Operation.bundleObjects 1).lists = true := rfl
  obtain ⟨hrows, -, -, -, hcalls⟩ := snapshot_of_listing (reachable_single.afterCalls someBundle)
    (proper_asCallback deleting) hlists ()
  exact ⟨⟨_, _, hrows _ (by rfl)⟩, by decide +kernel, by decide +kernel,
    fun call hcall ↦ (hcalls call hcall).2⟩

end Watched

end Provenance
