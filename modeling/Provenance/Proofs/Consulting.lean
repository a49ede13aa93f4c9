import Provenance.Proofs.LastPass
import Provenance.Proofs.Leaks

/-!
The rows of a query that writes nothing. `World.consult` is what such a request comes to on the
database behind the connection when nothing fails. A pass over the request leaves the database as it
is and comes to just that, unless a planned failure is met (`Consulted`). So what a call returns is
what the database comes to when it returns, if it is no failure of the driver
(`Backend.Tallied.consult_of_call`, `Watched.consult_of_call`), and a call on an open connection
returns that when nothing is planned to fail (`Watched.call_of_consult`), also what a store refuses
for good (`Backend.Tallied.call_of_serves`).
-/

set_option autoImplicit false
set_option relaxedAutoImplicit false

namespace Provenance

variable {α : Type}

/-! ### The database behind a connection -/

namespace Relational

/-- What a request comes to on the database behind the connection, if nothing fails. -/
def World.consult (w : World) (request : Request α) : Except Error α :=
  match w.link with
  | none => .error Connection.notConnected
  | some link =>
    match runQuery request.query (request.params.map Value.asParameter) link w with
    | .error _ => .error (.statement request.query.name)
    | .ok (rows, _) => request.readOff rows

/-- A query that writes nothing leaves the world as it is. -/
theorem runQuery_of_reads {query : Query} {params : List Value} {link : Link} {w w' : World}
    {rows : List Row} (hreads : query.writes = false)
    (h : runQuery query params link w = .ok (rows, w')) : w' = w := by
  unfold runQuery at h
  simp only [hreads, Bool.false_and, Bool.false_eq_true, if_false] at h
  repeat' split at h
  all_goals cases h
  rfl

/-- The connection is open to a database that holds this store, and nobody else has it for
themselves. -/
def World.Serves (w : World) (s : Store) : Prop :=
  ∃ link, w.link = some link ∧ w.contents link = .tables s ∧ w.holds link = false

/-- On tables a query that writes nothing comes to what the store makes of it. -/
theorem runQuery_of_tables {w : World} {link : Link} {s : Store} {query : Query}
    (params : List Value) (hcontents : w.contents link = .tables s) (hfree : w.holds link = false)
    (hreads : query.writes = false) :
    runQuery query params link w =
      (s.outcome w.now query params).map fun result ↦ (result.1, w) := by
  by_cases harity : params.length ≠ query.arity
  · rw [Store.outcome_of_length_ne harity, runQuery, if_pos harity]
    rfl
  · simp only [runQuery, if_neg harity, hreads, hfree, hcontents, Bool.false_and,
      Bool.false_eq_true, if_false, Store.outcome]
    cases s.run w.now query params <;> rfl

/-- A request that writes nothing comes to what the store makes of it. -/
theorem World.Serves.consult_eq {w : World} {s : Store} (h : w.Serves s) {request : Request α}
    (hreads : request.query.writes = false) :
    w.consult request = (s.served w.now request).1 := by
  obtain ⟨link, hlink, hcontents, hfree⟩ := h
  simp only [consult, hlink, Store.served, Store.reply]
  rw [runQuery_of_tables _ hcontents hfree hreads]
  cases s.outcome w.now request.query (request.params.map Value.asParameter) <;> rfl

/-- Only a database that holds a store comes to something else than a failure of the driver. -/
theorem World.exists_serves {w : World} {request : Request α}
    (h : ∀ err, w.consult request = .error err → err.isFromDriver = false) :
    ∃ s, w.Serves s := by
  cases hlink : w.link with
  | none =>
    have hnone : w.consult request = .error Connection.notConnected := by
      simp only [consult, hlink]
    cases h _ hnone
  | some link =>
    have hran : ∀ err,
        runQuery request.query (request.params.map Value.asParameter) link w ≠ .error err := by
      intro err hrun
      have hrefused : w.consult request = .error (.statement request.query.name) := by
        simp only [consult, hlink, hrun]
      cases h _ hrefused
    unfold runQuery at hran
    repeat' split at hran
    all_goals first
      | exact absurd rfl (hran _)
      | exact ⟨_, link, hlink, ‹_›, Bool.eq_false_iff.mpr ‹_›⟩

/-- A store refuses a request for good, and nothing is reconnected for its sake. -/
theorem World.Serves.refusal {w : World} {link : Link} {s : Store} {request : Request α}
    {err : DriverError} (h : w.Serves s) (hlink : w.link = some link)
    (hreads : request.query.writes = false)
    (hrun : runQuery request.query (request.params.map Value.asParameter) link w = .error err) :
    err.isLinkFailure = false := by
  obtain ⟨link', hlink', hcontents, hfree⟩ := h
  cases hlink.symm.trans hlink'
  rw [runQuery_of_tables _ hcontents hfree hreads] at hrun
  cases houtcome : s.outcome w.now request.query (request.params.map Value.asParameter) with
  | error err' =>
    rw [houtcome] at hrun
    cases hrun
    exact Store.isLinkFailure_of_outcome houtcome
  | ok result =>
    rw [houtcome] at hrun
    cases hrun

/-- Executing a request that writes nothing gives out the rows that consulting it reads. -/
theorem execute_consults (w : World) {request : Request α}
    (hreads : request.query.writes = false) :
    let bound : Statement :=
      ⟨.query request.query, request.params.map Value.asParameter, none⟩
    (∃ err reason, execute bound w = (.error err, bound, w) ∧
        w.consult request = .error reason ∧ reason.isFromDriver = true ∧
        ∀ s, w.Serves s → err.isLinkFailure = false ∧ reason = .statement request.query.name) ∨
      ∃ rows, execute bound w = (.ok (), { bound with cursor := some ⟨none, rows⟩ }, w) ∧
        w.consult request = request.readOff rows := by
  intro bound
  cases hlink : w.link with
  | none =>
    refine .inl ⟨notOpen, Connection.notConnected, ?_, ?_, rfl, fun s hserves ↦ ?_⟩
    · simp only [execute, bound, hlink]
    · simp only [World.consult, hlink]
    · obtain ⟨link, hopen, -⟩ := hserves
      cases hlink.symm.trans hopen
  | some link =>
    cases hrun : runQuery request.query (request.params.map Value.asParameter) link w with
    | error err =>
      refine .inl ⟨err, .statement request.query.name, ?_, ?_, rfl, fun s hserves ↦
        ⟨hserves.refusal hlink hreads hrun, rfl⟩⟩
      · simp only [execute, bound, hlink, runCommand, hrun]
      · simp only [World.consult, hlink, hrun]
    | ok result =>
      obtain ⟨rows, w'⟩ := result
      obtain rfl := runQuery_of_reads hreads hrun
      refine .inr ⟨rows, ?_, ?_⟩
      · simp only [execute, bound, hlink, runCommand, hrun]
      · simp only [World.consult, hlink, hrun]

end Relational

open Relational (Config Statement World)

/-! ### One pass -/

namespace Connection

/-- What a pass over a request that writes nothing comes to: what the database comes to, or a
failure that was planned, or the refusal of the database. -/
inductive Consulted (request : Request α) (c : Connection (Faulty World) Statement) :
    Attempt (Faulty World) Statement α → Prop
  | read (c' : Connection (Faulty World) Statement)
      (hworld : c'.world.world = c.world.world) :
      Consulted request c (.done (c.world.world.consult request) c')
  | spoilt (c' : Connection (Faulty World) Statement)
      (hqueue : c.world.plan.queues .fetch ≠ []) :
      Consulted request c (.done (.error (.statement request.query.name)) c')
  | planned (generation : Nat) (step : Step) (err : DriverError)
      (c' : Connection (Faulty World) Statement) (point : FaultPoint)
      (hqueue : c.world.plan.queues point ≠ []) :
      Consulted request c (.failed generation step err c')
  | refused (generation : Nat) (step : Step) (err : DriverError)
      (c' : Connection (Faulty World) Statement) (reason : Error)
      (hworld : c'.world.world = c.world.world)
      (hconsult : c.world.world.consult request = .error reason)
      (hdriver : reason.isFromDriver = true)
      (hstore : ∀ s, c.world.world.Serves s →
        err.isLinkFailure = false ∧ reason = .statement request.query.name) :
      Consulted request c (.failed generation step err c')

variable {config : Config} {request : Request α} {c : Connection (Faulty World) Statement}

/-- Reading the rows that have been given out comes to what the database comes to. -/
theorem consulted_read (live : Live Statement) (rest : Pool Statement) {executed : Statement}
    {rows : List Row} (hcursor : executed.cursor = some ⟨none, rows⟩)
    (hconsult : c.world.world.consult request = request.readOff rows) :
    Consulted request c
      (let (result, opened) := (request.read (rows.length + 1)).run (Relational.faulty config)
        request.query ⟨executed, c.world, c.log⟩
      .done result (c.putBack live request.query rest
        (opened.closeQuietly (Relational.faulty config) request.query))) := by
  obtain ⟨left, log', -, hdone | ⟨hqueue, hfailed⟩⟩ := @Reading.run_eq_outcome_or_failed α config
    request.query (request.read (rows.length + 1)) executed c.world c.log
  · have hresult : (request.read (rows.length + 1)).outcome request.query executed.cursor =
        c.world.world.consult request := by
      rw [hcursor, hconsult, Request.readOff]
    rw [hdone, hresult]
    exact .read _ rfl
  · rw [hfailed]
    exact .spoilt _ hqueue

/-- A pass that gets an idle handle consults the database. -/
theorem consulted_attempt {live : Live Statement} {pool rest : Pool Statement} {handle : Statement}
    (hlive : c.live = some live) (hpool : live.pools.get? request.query = some pool)
    (hacquire : pool.acquire = .taken handle rest) (hidle : handle.IsIdle request.query)
    (hreads : request.query.writes = false) :
    Consulted request c (attempt (Relational.faulty config) request c) := by
  obtain ⟨command, old, cursor⟩ := handle
  obtain ⟨rfl, rfl⟩ := hidle
  let bound : Statement := ⟨.query request.query, request.params.map Value.asParameter, none⟩
  simp only [attempt, hlive, hpool, hacquire]
  cases hbinds : c.world.plan.queues .bind with
  | cons err queued =>
    have hbind : (Relational.faulty config).bind request.params
        ⟨.query request.query, old, none⟩ c.world = (.error err, _, _) :=
      Faulty.guardedOn_of_cons _ _ hbinds
    simp only [hbind]
    exact .planned _ _ _ _ .bind (hbinds ▸ List.cons_ne_nil _ _)
  | nil =>
    have hbind : (Relational.faulty config).bind request.params
        ⟨.query request.query, old, none⟩ c.world = (.ok (), bound, c.world) :=
      Faulty.guardedOn_of_nil (Relational.bind request.params) _ hbinds
    simp only [hbind]
    cases hexecutes : c.world.plan.queues .execute with
    | cons err queued =>
      have hexecute : (Relational.faulty config).execute bound c.world = (.error err, _, _) :=
        Faulty.guardedOn_of_cons _ _ hexecutes
      simp only [hexecute]
      exact .planned _ _ _ _ .execute (hexecutes ▸ List.cons_ne_nil _ _)
    | nil =>
      have hguarded := Faulty.guardedOn_of_nil Relational.execute bound hexecutes
      rcases Relational.execute_consults c.world.world hreads with
        ⟨err, reason, hrun, hconsult, hdriver, hstore⟩ | ⟨rows, hrun, hconsult⟩
      · rw [hrun] at hguarded
        have hexecute : (Relational.faulty config).execute bound c.world =
            (.error err, bound, c.world) := hguarded
        simp only [hexecute]
        exact .refused _ _ _ _ reason rfl hconsult hdriver hstore
      · rw [hrun] at hguarded
        have hexecute : (Relational.faulty config).execute bound c.world =
            (.ok (), { bound with cursor := some ⟨none, rows⟩ }, c.world) := hguarded
        simp only [hexecute]
        exact consulted_read live rest rfl hconsult

/-- What outlasts failed passes: the connection has all of its statements, or there is none. -/
theorem outlasts_tallied {W : Type} {driver : Driver W Statement} {t : Tally driver} {size : Nat}
    (hsize : 0 < size) (request : Request α) : Outlasts driver request (Tallied t size) where
  failed := by
    intro c c' generation step err htallied hattempt
    have hafter := htallied.attempt hsize request
    rwa [hattempt] at hafter
  logged log htallied := htallied.withLog log
  reconnected generation htallied := htallied.reconnectIfCurrent generation
  connected htallied := htallied.reconnectIfDisconnected

/-- Only a pass on an open connection is done. -/
theorem isConnected_of_done {W H : Type} {driver : Driver W H} {c c' : Connection W H}
    {result : Except Error α} (h : attempt driver request c = .done result c') :
    c.isConnected = true := by
  cases hlive : c.live with
  | none => cases h.symm.trans (attempt_of_closed hlive)
  | some live => rw [isConnected, hlive]; rfl

section Tallied

variable {t : Tally (Relational.faulty config)} {size : Nat}

/-- A pass on an open connection consults the database. -/
theorem Tallied.consulted (h : c.Tallied t size) (hsize : 0 < size) (hopen : c.isConnected = true)
    (hreads : request.query.writes = false) :
    Consulted request c (c.attempt (Relational.faulty config) request) := by
  rcases h.state with ⟨live, hholds⟩ | ⟨hnone, -⟩
  · obtain ⟨pool, hpool, hfull⟩ := hholds.rested.get? request.query
    obtain ⟨handle, rest, hacquire, hidle, -⟩ := hfull.acquire (h.poolSize_eq ▸ hsize)
    exact consulted_attempt hholds.live_eq hpool hacquire hidle hreads
  · rw [isConnected, hnone] at hopen
    cases hopen

/-- What a pass comes to is what the database comes to, unless the driver fails. -/
theorem Tallied.consult_of_attempt (h : c.Tallied t size) (hsize : 0 < size)
    (hreads : request.query.writes = false) {result : Except Error α}
    {c' : Connection (Faulty World) Statement}
    (hattempt : c.attempt (Relational.faulty config) request = .done result c')
    (hresult : ∀ err, result = .error err → err.isFromDriver = false) :
    c'.world.world.consult request = result := by
  have hconsulted := h.consulted hsize (isConnected_of_done hattempt) hreads
  rw [hattempt] at hconsulted
  cases hconsulted with
  | read c' hworld => exact congrArg (World.consult · request) hworld
  | spoilt c' hqueue => cases hresult _ rfl

end Tallied

end Connection

namespace Backend.Tallied

variable {config : Config} {t : Tally (Relational.faulty config)} {request : Request α}
  {backend : Backend (Faulty World) Statement} {made : Reader → Except Error (Request α)}

/-- What a call returns is what the database comes to when it returns, unless the driver fails. -/
theorem consult_of_call (h : backend.Tallied t) (hmade : made backend.reader = .ok request)
    (hreads : request.query.writes = false)
    (hresult : ∀ err, ((Backend.call (Relational.faulty config) made).run backend).1 = .error err →
      err.isFromDriver = false) :
    (((Backend.call (Relational.faulty config) made).run backend).2.connection.world.world).consult
      request = ((Backend.call (Relational.faulty config) made).run backend).1 := by
  rw [Backend.run_call_of_ok hmade] at hresult ⊢
  rcases Connection.perform_ends (Connection.outlasts_tallied h.sized request)
    backend.options.maxRetries 0 h.connection with ⟨err, herr, -, hdriver⟩ | ⟨last, hlast, hattempt⟩
  · cases hdriver.symm.trans (hresult err herr)
  · exact hlast.consult_of_attempt h.sized hreads hattempt hresult

/-- On an open connection to a store a call returns what the store makes of the request, if nothing
is planned to fail. -/
theorem call_of_serves {s : Store} (h : backend.Tallied t)
    (hmade : made backend.reader = .ok request) (hreads : request.query.writes = false)
    (hopen : backend.connection.isConnected = true)
    (hqueues : ∀ point, backend.connection.world.plan.queues point = [])
    (hserves : backend.connection.world.world.Serves s) :
    ∃ after, (Backend.call (Relational.faulty config) made).run backend =
        ((s.served backend.connection.world.world.now request).1, after) ∧
      after.connection.world.world = backend.connection.world.world := by
  have hconsulted := h.connection.consulted h.sized hopen hreads
  rw [Backend.run_call_of_ok hmade, ← hserves.consult_eq hreads]
  generalize hattempt : Connection.attempt (Relational.faulty config) request backend.connection =
    pass at hconsulted
  cases hconsulted with
  | read c' hworld => exact ⟨_, by rw [Connection.perform_of_done hattempt], hworld⟩
  | spoilt c' hqueue => exact absurd (hqueues .fetch) hqueue
  | planned generation step err c' point hqueue => exact absurd (hqueues point) hqueue
  | refused generation step err c' reason hworld hrefused hdriver hstore =>
    obtain ⟨hfinal, rfl⟩ := hstore s hserves
    exact ⟨_, by rw [Connection.perform_of_final hattempt (.inr hfinal), hrefused], hworld⟩

end Backend.Tallied

/-! ### Backends whose calls are recorded -/

/-- A connection without the record of its calls. -/
def Connection.unrecorded {W H : Type} (c : Connection (Recorded W) H) : Connection W H :=
  ⟨c.target, c.poolSize, c.live, c.lastGeneration, c.reconnects, c.world.world, c.log⟩

namespace Watched

variable {config : Config} {request : Request α} {size : Nat} {c : Connection Watch Statement}

/-- A pass on an open connection consults the database. -/
theorem consulted_of_tallied (h : c.Tallied (tally config) size) (hsize : 0 < size)
    (hopen : c.isConnected = true) (hreads : request.query.writes = false) :
    ∃ plain calls, Connection.Consulted request c.unrecorded plain ∧
      Connection.attempt (driver config) request c = plain.recorded calls := by
  rcases h.state with ⟨live, hholds⟩ | ⟨hnone, -⟩
  · obtain ⟨pool, hpool, hfull⟩ := hholds.rested.get? request.query
    obtain ⟨handle, rest, hacquire, hidle, -⟩ := hfull.acquire (h.poolSize_eq ▸ hsize)
    have hlive : c.unrecorded.live = some live := hholds.live_eq
    obtain ⟨more, -, hrecorded⟩ := Connection.attempt_recorded (Relational.faulty config) request
      c.unrecorded c.world.calls hlive hpool hacquire
    exact ⟨_, _, Connection.consulted_attempt hlive hpool hacquire hidle hreads, hrecorded⟩
  · rw [Connection.isConnected, hnone] at hopen
    cases hopen

/-- The rows that a pass returns are those of the database, which it leaves as it is. -/
theorem consult_of_attempt (h : c.Tallied (tally config) size) (hsize : 0 < size)
    (hreads : request.query.writes = false) {a : α} {c' : Connection Watch Statement}
    (hattempt : Connection.attempt (driver config) request c = .done (.ok a) c') :
    c'.world.world.world.consult request = .ok a := by
  have hopen := Connection.isConnected_of_done hattempt
  obtain ⟨plain, calls, hconsulted, hsame⟩ := consulted_of_tallied h hsize hopen hreads
  rw [hsame] at hattempt
  cases hconsulted with
  | read c' hworld =>
    obtain ⟨hresult, rfl⟩ := Connection.Attempt.done.inj hattempt
    exact (congrArg (World.consult · request) hworld).trans hresult
  | spoilt c' hqueue => cases hattempt
  | planned generation step err c' point hqueue => cases hattempt
  | refused generation step err c' reason hworld hconsult hdriver hstore => cases hattempt

variable {backend : Watcher} {made : Reader → Except Error (Request α)}

/-- The rows that a call returns are those that the database has when it returns. -/
theorem consult_of_call (h : backend.Tallied (tally config))
    (hmade : made backend.reader = .ok request) (hreads : request.query.writes = false) {a : α}
    (hcall : ((Backend.call (driver config) made).run backend).1 = .ok a) :
    (((Backend.call (driver config) made).run backend).2.connection.world.world.world).consult
      request = .ok a := by
  rw [Backend.run_call_of_ok hmade] at hcall ⊢
  rcases Connection.perform_ends (Connection.outlasts_tallied h.sized request)
    backend.options.maxRetries 0 h.connection with ⟨err, herr, -⟩ | ⟨last, hlast, hattempt⟩
  · cases hcall.symm.trans herr
  · have hdone := hattempt.trans (congrArg (Connection.Attempt.done · _) hcall)
    exact consult_of_attempt hlast h.sized hreads hdone

/-- On an open connection a call returns the rows that the database has, if nothing is planned to
fail. -/
theorem call_of_consult (h : backend.Tallied (tally config))
    (hmade : made backend.reader = .ok request) (hreads : request.query.writes = false)
    (hopen : backend.connection.isConnected = true)
    (hqueues : ∀ point, backend.connection.world.world.plan.queues point = []) {a : α}
    (hconsult : (backend.connection.world.world.world).consult request = .ok a) :
    ((Backend.call (driver config) made).run backend).1 = .ok a := by
  rw [Backend.run_call_of_ok hmade]
  obtain ⟨plain, calls, hconsulted, hsame⟩ :=
    consulted_of_tallied h.connection h.sized hopen hreads
  cases hconsulted with
  | read c' hworld =>
    rw [Connection.perform_of_done hsame]
    exact hconsult
  | spoilt c' hqueue => exact absurd (hqueues .fetch) hqueue
  | planned generation step err c' point hqueue => exact absurd (hqueues point) hqueue
  | refused generation step err c' reason hworld hrefused hdriver hstore =>
    cases hrefused.symm.trans hconsult

end Watched

end Provenance
