import Provenance.Proofs.CallFrames
import Provenance.Proofs.Consulting

/-!
Requests that a database serves. `World.serve` is what executing a request comes to on the database
behind the connection: its rows and the world after it. A pass over the request comes to that and
reads the rows, or does nothing to the database, if a failure that was planned is met or the
database refuses (`Executed`). So whatever holds across reconnections and across serving the request
holds across a call, which answers with what it reads off rows that have been served
(`Watched.related_call`); and on an open connection a request that the database serves is answered
when nothing is planned to fail (`Watched.call_of_serve`).
-/

set_option autoImplicit false
set_option relaxedAutoImplicit false

namespace Provenance

variable {α : Type}

/-! ### The database behind a connection -/

namespace Relational

/-- The rows of a request and the world after it, on the database behind the connection. -/
def World.serve (w : World) (request : Request α) : Except DriverError (List Row × World) :=
  match w.link with
  | none => .error notOpen
  | some link => runQuery request.query (request.params.map Value.asParameter) link w

/-- The world after a query that has changed the tables of a connection, or only read them. -/
def World.afterQuery (w : World) (query : Query) (link : Link) (s : Store) : World :=
  if query.writes then w.write link (.tables s) else w

/-- A query is served by tables that nobody else holds, and that may be changed if it writes. -/
theorem runQuery_eq_ok_iff {query : Query} {params : List Value} {link : Link} {w w' : World}
    {rows : List Row} :
    runQuery query params link w = .ok (rows, w') ↔
      (query.writes = true → link.readOnly = false) ∧ w.holds link = false ∧
        ∃ s s', w.contents link = .tables s ∧ s.run w.now query params = .ok (rows, s') ∧
          w' = w.afterQuery query link s' := by
  constructor
  · intro h
    unfold runQuery at h
    split at h
    · cases h
    split at h
    · cases h
    rename_i hwritable
    split at h
    · cases h
    rename_i hfree
    split at h
    · cases h
    · cases h
    rename_i s hcontents
    split at h
    · cases h
    rename_i rows' s' hrun
    obtain ⟨rfl, rfl⟩ := Prod.mk.inj (Except.ok.inj h)
    refine ⟨fun hwrites ↦ ?_, by simpa using hfree, s, s', hcontents, hrun, rfl⟩
    rw [hwrites] at hwritable
    simpa using hwritable
  · rintro ⟨hwritable, hfree, s, s', hcontents, hrun, rfl⟩
    have harity : ¬ params.length ≠ query.arity := by
      intro harity
      rw [Store.run, if_pos harity] at hrun
      cases hrun
    have hallowed : (query.writes && link.readOnly) = false := by
      cases hwrites : query.writes with
      | false => rfl
      | true => exact hwritable hwrites
    simp only [runQuery, if_neg harity, hallowed, hfree, hcontents, hrun, Bool.false_eq_true,
      if_false, World.afterQuery]

/-- Executing a bound request comes to serving it. -/
theorem execute_bound (w : World) (request : Request α) :
    let bound : Statement := ⟨.query request.query, request.params.map Value.asParameter, none⟩
    execute bound w =
      match w.serve request with
      | .error err => (.error err, bound, w)
      | .ok (rows, w') => (.ok (), { bound with cursor := some ⟨none, rows⟩ }, w') := by
  cases hlink : w.link with
  | none => simp only [execute, World.serve, hlink]
  | some link =>
    rcases hrun : runQuery request.query (request.params.map Value.asParameter) link w with
      err | ⟨rows, w'⟩ <;> simp only [execute, World.serve, hlink, runCommand, hrun]

end Relational

open Relational (Config Statement World)

/-! ### One pass -/

namespace Connection

/-- What a pass over a request comes to. The database has served it, and the rows are read unless a
fetch was planned to fail; or nothing has happened to the database, since a failure was planned or
it refuses. -/
inductive Executed (request : Request α) (c : Connection (Faulty World) Statement) :
    Attempt (Faulty World) Statement α → Prop
  | served (rows : List Row) (result : Except Error α) (c' : Connection (Faulty World) Statement)
      (hserve : c.world.world.serve request = .ok (rows, c'.world.world))
      (hresult : result = request.readOff rows ∨
        result = .error (.statement request.query.name) ∧ c.world.plan.queues .fetch ≠ []) :
      Executed request c (.done result c')
  | failed (generation : Nat) (step : Step) (err : DriverError)
      (c' : Connection (Faulty World) Statement) (hworld : c'.world.world = c.world.world)
      (hcause : (∃ point, c.world.plan.queues point ≠ []) ∨
        ∃ reason, c.world.world.serve request = .error reason) :
      Executed request c (.failed generation step err c')

variable {config : Config} {request : Request α} {c : Connection (Faulty World) Statement}

/-- Reading the rows that have been given out leaves the database as it is. -/
theorem executed_read (live : Live Statement) (rest : Pool Statement) {executed : Statement}
    {rows : List Row} {w : World} (hcursor : executed.cursor = some ⟨none, rows⟩)
    (hserve : c.world.world.serve request = .ok (rows, w)) :
    Executed request c
      (let (result, opened) := (request.read (rows.length + 1)).run (Relational.faulty config)
        request.query ⟨executed, ⟨c.world.plan, w⟩, c.log⟩
      .done result (c.putBack live request.query rest
        (opened.closeQuietly (Relational.faulty config) request.query))) := by
  obtain ⟨left, log', -, hdone | ⟨hqueue, hfailed⟩⟩ := @Reading.run_eq_outcome_or_failed α config
    request.query (request.read (rows.length + 1)) executed ⟨c.world.plan, w⟩ c.log
  · rw [hdone, hcursor]
    exact .served rows _ _ hserve (.inl rfl)
  · rw [hfailed]
    exact .served rows _ _ hserve (.inr ⟨rfl, hqueue⟩)

/-- A pass that gets an idle handle has its request served or does nothing to the database. -/
theorem executed_attempt {live : Live Statement} {pool rest : Pool Statement} {handle : Statement}
    (hlive : c.live = some live) (hpool : live.pools.get? request.query = some pool)
    (hacquire : pool.acquire = .taken handle rest) (hidle : handle.IsIdle request.query) :
    Executed request c (attempt (Relational.faulty config) request c) := by
  obtain ⟨command, old, cursor⟩ := handle
  obtain ⟨rfl, rfl⟩ := hidle
  let bound : Statement := ⟨.query request.query, request.params.map Value.asParameter, none⟩
  simp only [attempt, hlive, hpool, hacquire]
  cases hbinds : c.world.plan.queues .bind with
  | cons err queued =>
    have hbind : (Relational.faulty config).bind request.params
        ⟨.query request.query, old, none⟩ c.world = (.error err, _, _) :=
      Faulty.guardedOn_of_cons _ _ hbinds
    simp only [hbind]
    exact .failed _ _ _ _ rfl (.inl ⟨.bind, hbinds ▸ List.cons_ne_nil _ _⟩)
  | nil =>
    have hbind : (Relational.faulty config).bind request.params
        ⟨.query request.query, old, none⟩ c.world = (.ok (), bound, c.world) :=
      Faulty.guardedOn_of_nil (Relational.bind request.params) _ hbinds
    simp only [hbind]
    cases hexecutes : c.world.plan.queues .execute with
    | cons err queued =>
      have hexecute : (Relational.faulty config).execute bound c.world = (.error err, _, _) :=
        Faulty.guardedOn_of_cons _ _ hexecutes
      simp only [hexecute]
      exact .failed _ _ _ _ rfl (.inl ⟨.execute, hexecutes ▸ List.cons_ne_nil _ _⟩)
    | nil =>
      have hguarded : (Relational.faulty config).execute bound c.world = _ :=
        Faulty.guardedOn_of_nil Relational.execute bound hexecutes
      rw [Relational.execute_bound] at hguarded
      cases hserve : c.world.world.serve request with
      | error reason =>
        rw [hserve] at hguarded
        simp only [hguarded]
        exact .failed _ _ _ _ rfl (.inr ⟨reason, hserve⟩)
      | ok served =>
        rw [hserve] at hguarded
        simp only [hguarded]
        exact executed_read live rest rfl hserve

end Connection

/-! ### Backends whose calls are recorded -/

namespace Watched

/-- The files and the connection behind a backend. -/
abbrev stored (backend : Watcher) : World := backend.connection.world.world.world

variable {config : Config} {request : Request α} {size : Nat} {c c' : Connection Watch Statement}

/-- A pass on an open connection has its request served or does nothing to the database. -/
theorem executed_of_tallied (h : c.Tallied (tally config) size) (hsize : 0 < size)
    (hopen : c.isConnected = true) :
    ∃ plain calls, Connection.Executed request c.unrecorded plain ∧
      Connection.attempt (driver config) request c = plain.recorded calls := by
  rcases h.state with ⟨live, hholds⟩ | ⟨hnone, -⟩
  · obtain ⟨pool, hpool, hfull⟩ := hholds.rested.get? request.query
    obtain ⟨handle, rest, hacquire, hidle, -⟩ := hfull.acquire (h.poolSize_eq ▸ hsize)
    have hlive : c.unrecorded.live = some live := hholds.live_eq
    obtain ⟨more, -, hrecorded⟩ := Connection.attempt_recorded (Relational.faulty config) request
      c.unrecorded c.world.calls hlive hpool hacquire
    exact ⟨_, _, Connection.executed_attempt hlive hpool hacquire hidle, hrecorded⟩
  · rw [Connection.isConnected, hnone] at hopen
    cases hopen

/-- A pass that is done has had its request served. -/
theorem serve_of_attempt (h : c.Tallied (tally config) size) (hsize : 0 < size)
    {result : Except Error α}
    (hattempt : Connection.attempt (driver config) request c = .done result c') :
    ∃ rows, c.world.world.world.serve request = .ok (rows, c'.world.world.world) ∧
      ∀ a, result = .ok a → request.readOff rows = .ok a := by
  obtain ⟨plain, calls, hexecuted, hsame⟩ :=
    executed_of_tallied h hsize (Connection.isConnected_of_done hattempt)
  rw [hsame] at hattempt
  cases hexecuted with
  | served rows result' last hserve hresult =>
    obtain ⟨rfl, rfl⟩ := Connection.Attempt.done.inj hattempt
    refine ⟨rows, hserve, fun a ha ↦ ?_⟩
    rcases hresult with hread | ⟨hfailed, -⟩
    · exact hread.symm.trans ha
    · cases hfailed.symm.trans ha
  | failed generation step err last hworld hcause => cases hattempt

/-- A pass that fails does nothing to the database. -/
theorem world_of_failed (h : c.Tallied (tally config) size) (hsize : 0 < size) {generation : Nat}
    {step : Provenance.Step} {err : DriverError}
    (hattempt : Connection.attempt (driver config) request c = .failed generation step err c') :
    c'.world.world.world = c.world.world.world := by
  have hopen : c.isConnected = true := by
    cases hlive : c.live with
    | none => cases hattempt.symm.trans (Connection.attempt_of_closed hlive)
    | some live => rw [Connection.isConnected, hlive]; rfl
  obtain ⟨plain, calls, hexecuted, hsame⟩ := executed_of_tallied h hsize hopen
  rw [hsame] at hattempt
  cases hexecuted with
  | served rows result last hserve hresult => cases hattempt
  | failed generation' step' err' last hworld hcause =>
    obtain ⟨-, -, -, rfl⟩ := Connection.Attempt.failed.inj hattempt
    exact hworld

variable {backend : Watcher} {made : Reader → Except Error (Request α)}

/-- What reconnecting keeps between worlds, and a database that serves the request, holds across a
call; and what a call answers has been read off rows that the database gave to leave it so. -/
theorem related_call {related : World → World → Prop}
    (hupkeep : UpkeepFrame (driver config) fun w w' ↦ related w.world.world w'.world.world)
    (hserves : ∀ {w w' : World} {rows : List Row}, w.serve request = .ok (rows, w') → related w w')
    (h : backend.Tallied (tally config)) (hmade : made backend.reader = .ok request) :
    let ran := (Backend.call (driver config) made).run backend
    related (stored backend) (stored ran.2) ∧
      ∀ a, ran.1 = .ok a → ∃ (w : World) (rows : List Row),
        w.serve request = .ok (rows, stored ran.2) ∧ request.readOff rows = .ok a := by
  rw [Backend.run_call_of_ok hmade]
  intro ran
  let start := backend.connection.world
  have houtlasts : Connection.Outlasts (driver config) request fun c ↦
      c.Tallied (tally config) backend.options.poolSize ∧
        related start.world.world c.world.world.world := by
    have htallied := Connection.outlasts_tallied (t := tally config) h.sized request
    refine ⟨fun hc hattempt ↦ ⟨htallied.failed hc.1 hattempt, ?_⟩,
      fun log hc ↦ ⟨htallied.logged log hc.1, hc.2⟩,
      fun generation hc ↦ ⟨htallied.reconnected generation hc.1,
        hupkeep.trans hc.2 (hupkeep.reconnectIfCurrent _ generation)⟩,
      fun hc ↦ ⟨htallied.connected hc.1, hupkeep.trans hc.2 (hupkeep.reconnectIfDisconnected _)⟩⟩
    rw [world_of_failed hc.1 h.sized hattempt]
    exact hc.2
  rcases Connection.perform_ends houtlasts backend.options.maxRetries 0
    ⟨h.connection, hupkeep.refl start⟩ with
    ⟨err, herr, ⟨-, hends⟩, -⟩ | ⟨last, ⟨hlast, hleads⟩, hattempt⟩
  · refine ⟨hends, fun a ha ↦ ?_⟩
    cases herr.symm.trans ha
  · obtain ⟨rows, hserve, hread⟩ := serve_of_attempt hlast h.sized hattempt
    have hserved := hserves hserve
    exact ⟨hupkeep.trans hleads hserved, fun a ha ↦ ⟨_, rows, hserve, hread a ha⟩⟩

/-- On an open connection a call answers with the rows of a request that the database serves, if
nothing is planned to fail. -/
theorem call_of_serve (h : backend.Tallied (tally config))
    (hmade : made backend.reader = .ok request) (hopen : backend.connection.isConnected = true)
    (hqueues : ∀ point, backend.connection.world.world.plan.queues point = [])
    {rows : List Row} {w : World}
    (hserve : (stored backend).serve request = .ok (rows, w)) :
    ((Backend.call (driver config) made).run backend).1 = request.readOff rows := by
  rw [Backend.run_call_of_ok hmade]
  obtain ⟨plain, calls, hexecuted, hsame⟩ :=
    executed_of_tallied h.connection h.sized hopen
  cases hexecuted with
  | served rows' result c' hserve' hresult =>
    rw [Connection.perform_of_done hsame]
    obtain ⟨rfl, -⟩ := Prod.mk.inj (Except.ok.inj (hserve'.symm.trans hserve))
    rcases hresult with hread | ⟨-, hqueue⟩
    · exact hread
    · exact absurd (hqueues .fetch) hqueue
  | failed generation step err c' hworld hcause =>
    rcases hcause with ⟨point, hqueue⟩ | ⟨reason, hrefused⟩
    · exact absurd (hqueues point) hqueue
    · cases hrefused.symm.trans hserve

end Watched

end Provenance
