import Provenance.Proofs.Reachable
import Provenance.Proofs.StoreChanges

/-!
Writing under failures. An operation that writes has happened once or not at all, whatever failures
are planned: its statement is executed with success at most once, after which the driver is only
asked for rows, and the file is then the one that the same operation leaves when nothing fails. The
caller can be left in doubt only by a failed fetch.
-/

set_option autoImplicit false
set_option relaxedAutoImplicit false

namespace Provenance

open Relational (Statement World)

/-! ### What writing returns -/

/-- Nothing that a writing query gives out can be read as a failed statement. -/
structure Request.IsWriting {α : Type} (request : Request α) : Prop where
  writes : request.query.writes = true
  reads_nothing : ∀ name, request.readOff [] ≠ .error (.statement name)
  reads_id : ∀ id name, request.readOff (Store.returned id) ≠ .error (.statement name)

namespace Request

theorem isWriting_command {query : Query} (params : List Value) (h : query.writes = true) :
    (command query params).IsWriting := by
  refine ⟨h, fun name hname ↦ ?_, fun id name hname ↦ ?_⟩
  · cases hname
  · cases hname

theorem isWriting_oneId {query : Query} (params : List Value) (h : query.writes = true) :
    (oneId query params).IsWriting := by
  refine ⟨h, fun name hname ↦ ?_, fun id name hname ↦ ?_⟩
  · cases hname
  · cases hname

theorem ensures_addProperty_isWriting {query : Query} (h : query.writes = true) (what : String)
    (owner : Nat) (space key value : String) :
    Ensures (addProperty query what owner space key value) IsWriting :=
  .check fun _ ↦ .check fun _ ↦ .pure (isWriting_command _ h)

end Request

namespace Connection

variable {α : Type} {site : FileSite} {s s' : Store} {request : Request α}
  {c c' : Connection (Faulty World) Statement}

/-- The connection with no failures planned. -/
def quiet (c : Connection (Faulty World) Statement) : Connection (Faulty World) Statement :=
  { c with world := c.world.replan fun _ ↦ [] }

/-- A request that has been served under failures is served without them. -/
theorem perform_quiet_of_served {budget retries : Nat} {result : Except Error α} {rows : List Row}
    (h : Settled site s c)
    (hperform : perform site.driver request budget retries c = (result, c'))
    (hserved : Served site s request c result c' rows s') :
    ∃ q, perform site.driver request budget retries c.quiet =
        ((s.served c.world.world.now request).1, q) ∧
      ServedQuietly site s request c.quiet q := by
  have hquiet : Settled site s c.quiet := (FileSite.steady_replan fun _ ↦ []).settled h
  have hopens : c.quiet.isConnected = true ∨ budget ≠ 0 := by
    cases hlive : c.live with
    | some live => exact .inl (by simp [isConnected, quiet, hlive])
    | none =>
      refine .inr fun hbudget ↦ ?_
      -- Without a retry the connection cannot have been opened on the way.
      rw [hbudget, perform_zero_of_closed hlive] at hperform
      obtain ⟨-, rfl⟩ := Prod.mk.inj hperform
      obtain ⟨live, hopen⟩ := hserved.isOpen
      cases hopen.live_eq.symm.trans hlive
  exact perform_of_nothing_planned hquiet hopens request retries fun _ ↦ rfl

/-- What writing under failures comes to, next to writing without. -/
structure WritesOnce (site : FileSite) (request : Request α) (budget retries : Nat)
    (c c' : Connection (Faulty World) Statement) (result : Except Error α) : Prop where
  files : c'.world.world.files =
    (perform site.driver request budget retries c.quiet).2.world.world.files
  doubt : (∃ name, result = .error (.statement name)) ↔
    c'.world.plan.pending .fetch < c.world.plan.pending .fetch
  result : c'.world.plan.pending .fetch = c.world.plan.pending .fetch →
    result = (perform site.driver request budget retries c.quiet).1

theorem writesOnce_of_served {budget retries : Nat} {result : Except Error α} {rows : List Row}
    (h : Settled site s c) (hwriting : request.IsWriting)
    (hperform : perform site.driver request budget retries c = (result, c'))
    (hserved : Served site s request c result c' rows s') :
    WritesOnce site request budget retries c c' result := by
  obtain ⟨q, hq, hquietly⟩ := perform_quiet_of_served h hperform hserved
  have hfiles : c'.world.world.files = q.world.world.files := by
    have hled : site.led request s c.world.world = _ := FileSite.led_of_ok hserved.reply
    rw [hserved.agree.files_eq, hquietly.agree.files_eq, ← hled]
    rfl
  have hreadOff : ∀ name, request.readOff rows ≠ .error (.statement name) := by
    have hchange := Store.Change.of_run (Store.outcome_eq_ok_iff.mp hserved.reply)
    rcases hchange.rows_of_writes hwriting.writes with rfl | ⟨id, rfl⟩
    · exact hwriting.reads_nothing
    · exact hwriting.reads_id id
  rw [Store.served_of_ok hserved.reply] at hq
  refine ⟨by rw [hq, hfiles], ?_, fun hpending ↦ ?_⟩
  · rcases hserved.result with ⟨rfl, hfetches⟩ | ⟨hqueue, rfl, hfetches⟩
    · constructor
      · rintro ⟨name, hname⟩
        exact absurd hname (hreadOff name)
      · intro hless
        rw [FaultPlan.pending, hfetches] at hless
        exact absurd hless (Nat.lt_irrefl _)
    · constructor
      · intro _
        rw [FaultPlan.pending, hfetches, List.length_tail]
        exact Nat.sub_lt (List.length_pos_iff.mpr hqueue) Nat.one_pos
      · exact fun _ ↦ ⟨_, rfl⟩
  · rcases hserved.result with ⟨rfl, -⟩ | ⟨hqueue, -, hfetches⟩
    · rw [hq]
    · rw [FaultPlan.pending, hfetches, List.length_tail] at hpending
      have hpos := List.length_pos_iff.mpr hqueue
      change _ = (c.world.plan.queues .fetch).length at hpending
      omega

/-- A request that writes has executed nothing and left the file as it was, or it has been executed
once and has left the file that it leaves without failures. -/
theorem perform_writing {budget retries : Nat} (h : Settled site s c)
    (hwriting : request.IsWriting) :
    ∃ result c' calls, perform site.driver request budget retries c = (result, c') ∧
      perform (Recorded.driver site.driver) request budget retries (c.recorded []) =
        (result, c'.recorded calls) ∧
      (calls.NoneExecuted ∧ c'.world.world.files = c.world.world.files ∨
        calls.ExecutedOnce ∧ WritesOnce site request budget retries c c' result) := by
  obtain ⟨result, c', calls, hperform, hrecorded, hperformed⟩ :=
    perform_recorded request budget retries [] h
  refine ⟨result, c', calls, hperform, hrecorded, ?_⟩
  cases hperformed with
  | spared err c' calls hspared hcalls => exact .inl ⟨hcalls, hspared.agree.files_eq⟩
  | served result c' calls rows s' hserved hcalls =>
    exact .inr ⟨hcalls, writesOnce_of_served h hwriting hperform hserved⟩

end Connection

/-- The backend in a world whose calls are recorded. -/
def Backend.recorded {W H : Type} (calls : CallLog) (backend : Backend W H) :
    Backend (Recorded W) H :=
  ⟨backend.options, backend.zone, backend.connection.recorded calls⟩

namespace Operation

/-- The operation changes the store. -/
def writes : Operation → Bool
  | createSession .. | createObject .. | addObjectProperty .. | addRelation ..
  | addRelationProperty .. | createBundle .. | deleteBundle .. | addBundleProperty ..
  | addPrefix .. => true
  | _ => false

theorem ensures_isWriting {op : Operation} (h : op.writes = true) (reader : Reader) :
    Ensures (op.form.request reader) Request.IsWriting := by
  cases op with
  | createSession session =>
    exact .check fun _ ↦ .check fun _ ↦ .check fun _ ↦ .check fun _ ↦
      .pure (Request.isWriting_oneId _ rfl)
  | createObject space name kind session =>
    exact .check fun _ ↦ .check fun _ ↦ .pure (Request.isWriting_oneId _ rfl)
  | addObjectProperty id space key value =>
    exact Request.ensures_addProperty_isWriting rfl _ _ _ _ _
  | addRelation source destination kind =>
    exact .check fun _ ↦ .pure (Request.isWriting_oneId _ rfl)
  | addRelationProperty id space key value =>
    exact Request.ensures_addProperty_isWriting rfl _ _ _ _ _
  | createBundle name space session =>
    exact .check fun _ ↦ .check fun _ ↦ .pure (Request.isWriting_oneId _ rfl)
  | deleteBundle id =>
    refine .check fun _ ↦ .pure ⟨rfl, fun name hname ↦ ?_, fun id name hname ↦ ?_⟩
    · cases hname
    · cases hname
  | addBundleProperty id space key value =>
    exact Request.ensures_addProperty_isWriting rfl _ _ _ _ _
  | addPrefix bundle space iri =>
    exact .check fun _ ↦ .check fun _ ↦ .check fun _ ↦ .pure (Request.isWriting_command _ rfl)
  | _ => cases h

/-- An operation that writes hands on no rows, and answers whatever its request returns. -/
theorem form_of_writes {op : Operation} (h : op.writes = true) (rows : op.form.Rows) :
    op.form.listed rows = [] ∧ ∃ answer, op.form.answer rows = .ok answer := by
  cases op <;> first
    | exact ⟨rfl, _, rfl⟩
    | cases h

theorem bind_answer_eq_error_iff {op : Operation} (h : op.writes = true) {err : Error}
    {result : Except Error op.form.Rows} :
    result.bind op.form.answer = .error err ↔ result = .error err := by
  cases result with
  | error other => simp [Except.bind]
  | ok rows =>
    obtain ⟨answer, hanswer⟩ := (form_of_writes h rows).2
    simp [Except.bind, hanswer]

/-- An operation that writes runs its request and answers. -/
theorem run_of_writes {W H C : Type} {op : Operation} (h : op.writes = true) (driver : Driver W H)
    (callback : Listed → Action (C × Backend W H) Unit) (c : C) (backend : Backend W H) :
    (op.run driver callback).run (c, backend) =
      (((Backend.call driver op.form.request).run backend).1.bind op.form.answer,
        (c, ((Backend.call driver op.form.request).run backend).2)) := by
  rw [run_eq_form]
  change (Action.onSecond (Backend.call driver op.form.request) >>= fun rows ↦
    deliverRows callback (op.form.listed rows) >>= fun _ ↦
      Action.ofExcept (op.form.answer rows)).run (c, backend) = _
  rw [Action.run_bind]
  simp only [Action.run, Action.onSecond]
  rcases Backend.call driver op.form.request backend with ⟨err | rows, after⟩
  · rfl
  · simp only [(form_of_writes h rows).1]
    rfl

/-! ### Once or not at all -/

/-- The calls that the driver gets for an operation. -/
def calls {W H : Type} (driver : Driver W H) (op : Operation) (backend : Backend W H) : CallLog :=
  ((op.run (Recorded.driver driver) (passive ignore)).run
    ((), backend.recorded [])).2.2.connection.world.calls

variable {site : FileSite} {s : Store} {backend : FileBackend} {op : Operation}

theorem calls_eq : op.calls site.driver backend =
    ((Backend.call (Recorded.driver site.driver) op.form.request).run
      (backend.recorded [])).2.connection.world.calls := by
  rw [calls, run_passive_backend]

theorem calls_of_valid {request : Request op.form.Rows}
    (hrequest : op.form.request backend.reader = .ok request) :
    op.calls site.driver backend =
      ((backend.connection.recorded []).perform (Recorded.driver site.driver) request
        backend.options.maxRetries 0).2.world.calls := by
  have hrecorded : op.form.request (backend.recorded []).reader = .ok request := hrequest
  rw [calls_eq, Backend.run_call_of_ok hrecorded]
  rfl

theorem calls_of_invalid {err : Error} (h : op.form.request backend.reader = .error err) :
    op.calls site.driver backend = [] := by
  have hrecorded : op.form.request (backend.recorded []).reader = .error err := h
  rw [calls_eq, Backend.run_call_of_error hrecorded]
  rfl

/-- Recording the calls of an operation changes nothing else about it. -/
theorem run_recorded {C : Type} (hreach : site.Reachable (.opened backend))
    (callback : Listed → Action C Unit) (c : C) :
    (op.run (Recorded.driver site.driver) (passive callback)).run (c, backend.recorded []) =
      let ran := (op.run site.driver (passive callback)).run (c, backend)
      (ran.1, (ran.2.1, ran.2.2.recorded (op.calls site.driver backend))) := by
  obtain ⟨s, -, hsettled⟩ := hreach.exists_store
  cases hrequest : op.form.request backend.reader with
  | error err =>
    have hrecorded : op.form.request (backend.recorded []).reader = .error err := hrequest
    rw [run_passive, run_passive, calls_of_invalid hrequest, Backend.run_call_of_error hrequest,
      Backend.run_call_of_error hrecorded]
  | ok request =>
    have hrecorded : op.form.request (backend.recorded []).reader = .ok request := hrequest
    obtain ⟨result, c', calls, hperform, hperformed, -⟩ :=
      Connection.perform_recorded request backend.options.maxRetries 0 [] hsettled
    have hperformed' : (backend.recorded []).connection.perform (Recorded.driver site.driver)
        request (backend.recorded []).options.maxRetries 0 = (result, c'.recorded calls) :=
      hperformed
    rw [run_passive_of_perform hrecorded hperformed', run_passive_of_perform hrequest hperform,
      calls_of_valid hrequest, hperformed]
    rfl

/-- Whatever failures are planned, an operation that writes has executed nothing and left the file
as it was, or it has executed its statement once, only read from it afterwards, and left the file
that it leaves when nothing is planned to fail. It then returns what it returns when nothing is
planned to fail, unless it has met a failed fetch: that is when it reports a failed statement. -/
theorem writes_once_or_not_at_all {C : Type} (hreach : site.Reachable (.opened backend))
    (hwrites : op.writes = true) (queues : FaultPoint → List DriverError)
    (callback : Listed → Action (C × FileBackend) Unit) (c : C) :
    let faulty := backend.mapWorld (Faulty.replan queues)
    let quiet := backend.mapWorld (Faulty.replan fun _ ↦ [])
    let ran := (op.run site.driver callback).run (c, faulty)
    let ranQuietly := (op.run site.driver callback).run (c, quiet)
    let before := backend.connection.world.world
    let after := ran.2.2.connection.world
    let calls := op.calls site.driver faulty
    calls.NoneExecuted ∧ after.world.files = before.files ∨
      calls.ExecutedOnce ∧
        after.world.files = ranQuietly.2.2.connection.world.world.files ∧
        ((∃ name, ran.1 = .error (.statement name)) ↔
          after.plan.pending .fetch < (queues .fetch).length) ∧
        (after.plan.pending .fetch = (queues .fetch).length → ran.1 = ranQuietly.1) := by
  intro faulty quiet ran ranQuietly before after calls
  obtain ⟨s, -, hsettled⟩ := hreach.exists_store
  have hfaulty : faulty.connection.Settled site s :=
    (FileSite.steady_replan queues).settled hsettled
  have hran : ran = _ := run_of_writes hwrites site.driver callback c faulty
  have hranQuietly : ranQuietly = _ := run_of_writes hwrites site.driver callback c quiet
  cases hrequest : op.form.request backend.reader with
  | error err =>
    have hinvalid : op.form.request faulty.reader = .error err := hrequest
    rw [Backend.run_call_of_error hinvalid] at hran
    refine .inl ⟨?_, ?_⟩
    · rw [show calls = [] from calls_of_invalid hinvalid]
      exact .nil
    · change ran.2.2.connection.world.world.files = _
      rw [hran]
      rfl
  | ok request =>
    have hvalid : op.form.request faulty.reader = .ok request := hrequest
    have hvalidQuietly : op.form.request quiet.reader = .ok request := hrequest
    rw [Backend.run_call_of_ok hvalid] at hran
    rw [Backend.run_call_of_ok hvalidQuietly] at hranQuietly
    obtain ⟨result, c', made, hperform, hrecorded, houtcome⟩ :=
      Connection.perform_writing hfaulty (ensures_isWriting hwrites _ request hrequest)
    have hcalls : calls = made := by
      rw [show calls = _ from calls_of_valid hvalid, hrecorded]
      rfl
    rw [hperform] at hran
    have hafter : after = c'.world := by
      change ran.2.2.connection.world = _
      rw [hran]
    rw [hcalls, hafter]
    refine houtcome.imp_right fun ⟨hexecuted, honce⟩ ↦ ⟨hexecuted, ?_, ?_, fun hpending ↦ ?_⟩
    · rw [hranQuietly]
      exact honce.files
    · rw [hran]
      simp only [bind_answer_eq_error_iff hwrites]
      exact honce.doubt
    · rw [hran, hranQuietly]
      exact congrArg (·.bind op.form.answer) (honce.result hpending)

/-- A session that is created after a dropped link, and whose id cannot be fetched, has been created
once. -/
theorem session_created_once :
    let op := createSession ⟨"00:00:00:00:00:00", "user", 1, "program", "program --flag"⟩
    let queues : FaultPoint → List DriverError
      | .bind => [⟨[⟨linkFailureState, 0, "link dropped"⟩]⟩]
      | .fetch => [⟨[⟨"HY000", 0, "no row"⟩]⟩]
      | _ => []
    let faulty := FileSite.first.mapWorld (Faulty.replan queues)
    (op.calls FileSite.named.driver faulty).ExecutedOnce ∧
      ∃ name, ((op.run FileSite.named.driver (passive ignore)).run ((), faulty)).1 =
        .error (.statement name) := by
  intro op queues faulty
  have hwrites : op.writes = true := rfl
  rcases writes_once_or_not_at_all FileSite.reachable_first hwrites queues (passive ignore) () with
    ⟨hnone, -⟩ | ⟨honce, -, hdoubt, -⟩
  · exact absurd (by decide +kernel) hnone
  · exact ⟨honce, hdoubt.mpr (by decide)⟩

end Operation

end Provenance
