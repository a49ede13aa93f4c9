import Provenance.Proofs.Connecting
import Provenance.Request

/-!
What a request comes to. `Store.served` is the result of a request on a store, and the store
after it, when nothing fails. A pass over a request on an open connection runs into the failure that
is due (`attempt_of_due`), into a refusal of the store (`attempt_of_refused`), or serves the request
(`attempt_of_served`); only then can the store be another one, and only a failed fetch can then
spoil the result. The connection is open and at rest after every pass.
-/

set_option autoImplicit false
set_option relaxedAutoImplicit false

namespace Provenance

open Relational (Statement World)

variable {α : Type}

/-- The result that is read off the rows of a request. -/
def Request.readOff (request : Request α) (rows : List Row) : Except Error α :=
  (request.read (rows.length + 1)).outcome request.query (some ⟨none, rows⟩)

namespace Store

/-- What a store makes of a request, with the parameters as a store takes them. -/
def reply (now : Value) (request : Request α) (s : Store) :
    Except DriverError (List Row × Store) :=
  s.outcome now request.query (request.params.map Value.asParameter)

/-- The result of a request on a store and the store after it, if nothing fails. -/
def served (now : Value) (request : Request α) (s : Store) : Except Error α × Store :=
  match s.reply now request with
  | .error _ => (.error (.statement request.query.name), s)
  | .ok (rows, s') => (request.readOff rows, s')

variable {s s' : Store} {now : Value} {request : Request α} {rows : List Row}

theorem served_of_refused {err : DriverError} (h : s.reply now request = .error err) :
    s.served now request = (.error (.statement request.query.name), s) := by
  simp only [served, h]

theorem served_of_ok (h : s.reply now request = .ok (rows, s')) :
    s.served now request = (request.readOff rows, s') := by
  simp only [served, h]

end Store

namespace FileSite

/-- The world after a query has led to a store. -/
def written (site : FileSite) (query : Query) (s : Store) (w : World) : World :=
  if query.writes then w.putFile site.path (.tables s) else w

/-- The world after a request on the store that it keeps, if nothing fails. -/
def led (site : FileSite) (request : Request α) (s : Store) (w : World) : World :=
  match s.reply w.now request with
  | .error _ => w
  | .ok (_, s') => site.written request.query s' w

variable {site : FileSite} {s s' : Store} {now : Value} {request : Request α} {rows : List Row}
  {w w' : World}

theorem led_of_refused {err : DriverError} (h : s.reply w.now request = .error err) :
    site.led request s w = w := by
  simp only [led, h]

theorem led_of_ok (h : s.reply w.now request = .ok (rows, s')) :
    site.led request s w = site.written request.query s' w := by
  simp only [led, h]

theorem agree_written (query : Query) (s : Store) (h : World.Agree w w') :
    World.Agree (site.written query s w) (site.written query s w') := by
  unfold written
  split
  · exact h.putFile _ _
  · exact h

theorem agree_led (request : Request α) (s : Store) (h : World.Agree w w') :
    World.Agree (site.led request s w) (site.led request s w') := by
  unfold led
  rw [h.now_eq]
  split
  · exact h
  · exact agree_written _ _ h

theorem link_written (query : Query) (s : Store) : (site.written query s w).link = w.link := by
  unfold written
  split
  · exact World.link_putFile _ _ _
  · rfl

theorem now_written (query : Query) (s : Store) : (site.written query s w).now = w.now := by
  unfold written
  split
  · exact World.now_putFile _ _ _
  · rfl

theorem now_led (request : Request α) (s : Store) (w : World) :
    (site.led request s w).now = w.now := by
  unfold led
  split
  · rfl
  · exact now_written _ _

/-- A world keeps the store that a request has led to. -/
theorem keeps_written (h : site.Keeps w s) (hreply : s.reply now request = .ok (rows, s')) :
    site.Keeps (site.written request.query s' w) s' := by
  unfold written
  split
  · exact h.free.keeps_putFile s'
  · rename_i hreads
    rwa [Store.eq_of_run_eq_ok (by simpa using hreads) (Store.outcome_eq_ok_iff.mp hreply)]

end FileSite

/-! ### One pass -/

namespace Connection

variable {site : FileSite} {s s' : Store} {c c' : Connection (Faulty World) Statement}
  {live : Live Statement} {request : Request α} {rows : List Row}

/-- After a pass the connection is the one of before, open on a store and at rest. -/
structure Passed (site : FileSite) (s : Store) (live : Live Statement)
    (c c' : Connection (Faulty World) Statement) : Prop where
  isOpen : ∃ live', IsOpen site s c' live' ∧ live'.generation = live.generation
  poolSize_eq : c'.poolSize = c.poolSize
  reconnects_eq : c'.reconnects = c.reconnects

/-- A handle that is put back idle leaves the connection at rest. -/
theorem passed_putBack (h : IsOpen site s c live) {pool : Pool Statement}
    {opened : Opened (Faulty World) Statement}
    (hpool : (pool.release opened.handle).IsFull request.query c.poolSize)
    (hkeeps : site.Keeps opened.world.world s')
    (hlink : opened.world.world.link = c.world.world.link)
    (hopened : opened.world.plan.opened = c.world.plan.opened)
    (hlive : opened.world.plan.live = c.world.plan.live) :
    Passed site s' live c (c.putBack live request.query pool opened) := by
  have hlinked : site.Linked opened.world.world := by
    obtain ⟨layoutRead, hold⟩ := h.linked
    exact ⟨layoutRead, hlink.trans hold⟩
  exact ⟨⟨_, ⟨rfl, h.target_eq, h.sized, hkeeps, hlinked, h.rested.insert hpool,
    hopened.trans h.opened, hlive.trans h.handles⟩, rfl⟩, rfl, rfl⟩

/-- Binding, unless it was planned to fail, gives an idle handle its parameters. -/
theorem bind_faulty_of_nil {handle : Statement} (hidle : handle.IsIdle request.query)
    (hqueue : c.world.plan.queues .bind = []) :
    site.driver.bind request.params handle c.world =
      (.ok (), ⟨.query request.query, request.params.map Value.asParameter, none⟩, c.world) := by
  obtain ⟨command, params, cursor⟩ := handle
  obtain ⟨rfl, rfl⟩ := hidle
  exact Faulty.guardedOn_of_nil (Relational.bind request.params) _ hqueue

/-- Executing, unless it was planned to fail, comes to what the store makes of the request. -/
theorem execute_faulty_of_nil (h : IsOpen site s c live)
    (hqueue : c.world.plan.queues .execute = []) :
    site.driver.execute ⟨.query request.query, request.params.map Value.asParameter, none⟩
        c.world =
      match s.reply c.world.world.now request with
      | .error err =>
        (.error err, ⟨.query request.query, request.params.map Value.asParameter, none⟩, c.world)
      | .ok (rows, s') =>
        (.ok (), ⟨.query request.query, request.params.map Value.asParameter, some ⟨none, rows⟩⟩,
          ⟨c.world.plan, site.written request.query s' c.world.world⟩) := by
  refine (Faulty.guardedOn_of_nil Relational.execute _ hqueue).trans ?_
  rw [FileSite.execute_of_keeps h.linked h.keeps, Store.reply]
  cases s.outcome c.world.world.now request.query (request.params.map Value.asParameter) with
  | error err => rfl
  | ok result => rfl

/-- A pass runs into the failure that is due, and nothing else has happened. -/
theorem attempt_of_due (h : IsOpen site s c live) (request : Request α) {step : Step}
    {err : DriverError} (hdue : c.world.plan.due = some (step, err)) :
    ∃ c', attempt site.driver request c = .failed live.generation step err c' ∧
      Passed site s live c c' ∧
      c'.world = ⟨c.world.plan.after (FaultPlan.pointOf step), c.world.world⟩ := by
  obtain ⟨pool, hpool, hfull⟩ := h.rested.get? request.query
  obtain ⟨handle, rest, hacquire, hidle, hrelease⟩ := hfull.acquire h.sized
  cases step with
  | bind =>
    obtain ⟨queued, hqueue⟩ := FaultPlan.due_eq_bind_iff.mp hdue
    have hbind : site.driver.bind request.params handle c.world =
        (.error err, handle, ⟨c.world.plan.after .bind, c.world.world⟩) :=
      Faulty.guardedOn_of_cons _ _ hqueue
    refine ⟨c.putBack live request.query rest
      ⟨{ handle with cursor := none }, ⟨c.world.plan.after .bind, c.world.world⟩, c.log⟩, ?_,
      passed_putBack h (hrelease _ ⟨hidle.command, rfl⟩) h.keeps rfl
        (FaultPlan.opened_after _ _) (FaultPlan.live_after _ _), rfl⟩
    simp only [attempt, h.live_eq, hpool, hacquire, hbind, closeQuietly_faulty]
  | execute =>
    obtain ⟨hnil, queued, hqueue⟩ := FaultPlan.due_eq_execute_iff.mp hdue
    let bound : Statement := ⟨.query request.query, request.params.map Value.asParameter, none⟩
    have hexecute : site.driver.execute bound c.world =
        (.error err, bound, ⟨c.world.plan.after .execute, c.world.world⟩) :=
      Faulty.guardedOn_of_cons _ _ hqueue
    refine ⟨c.putBack live request.query rest
      ⟨bound, ⟨c.world.plan.after .execute, c.world.world⟩, c.log⟩, ?_,
      passed_putBack h (hrelease _ ⟨rfl, rfl⟩) h.keeps rfl
        (FaultPlan.opened_after _ _) (FaultPlan.live_after _ _), rfl⟩
    simp only [attempt, h.live_eq, hpool, hacquire, bind_faulty_of_nil hidle hnil]
    simp only [bound] at hexecute
    rw [hexecute]
    rfl

/-- A request that the store refuses fails, and nothing has happened. -/
theorem attempt_of_refused (h : IsOpen site s c live) (hdue : c.world.plan.due = none)
    {err : DriverError} (hreply : s.reply c.world.world.now request = .error err) :
    ∃ c', attempt site.driver request c = .failed live.generation .execute err c' ∧
      Passed site s live c c' ∧ c'.world = c.world := by
  obtain ⟨pool, hpool, hfull⟩ := h.rested.get? request.query
  obtain ⟨handle, rest, hacquire, hidle, hrelease⟩ := hfull.acquire h.sized
  obtain ⟨hbind, hexecute⟩ := FaultPlan.due_eq_none_iff.mp hdue
  refine ⟨c.putBack live request.query rest
    ⟨⟨.query request.query, request.params.map Value.asParameter, none⟩, c.world, c.log⟩, ?_,
    passed_putBack h (hrelease _ ⟨rfl, rfl⟩) h.keeps rfl rfl rfl, rfl⟩
  simp only [attempt, h.live_eq, hpool, hacquire, bind_faulty_of_nil hidle hbind,
    execute_faulty_of_nil h hexecute, hreply]
  rfl

/-- A request that the store does not refuse is served. A failure of a fetch, if one is planned and
met, only spoils the result. -/
theorem attempt_of_served (h : IsOpen site s c live) (hdue : c.world.plan.due = none)
    (hreply : s.reply c.world.world.now request = .ok (rows, s')) :
    ∃ result c', attempt site.driver request c = .done result c' ∧ Passed site s' live c c' ∧
      c'.world.world = site.written request.query s' c.world.world ∧
      (result = request.readOff rows ∧ c'.world.plan = c.world.plan ∨
        c.world.plan.queues .fetch ≠ [] ∧ result = .error (.statement request.query.name) ∧
          c'.world.plan = c.world.plan.after .fetch) := by
  obtain ⟨pool, hpool, hfull⟩ := h.rested.get? request.query
  obtain ⟨handle, rest, hacquire, hidle, hrelease⟩ := hfull.acquire h.sized
  obtain ⟨hbind, hexecute⟩ := FaultPlan.due_eq_none_iff.mp hdue
  let executed : Statement :=
    ⟨.query request.query, request.params.map Value.asParameter, some ⟨none, rows⟩⟩
  let w : Faulty World := ⟨c.world.plan, site.written request.query s' c.world.world⟩
  have hattempt : attempt site.driver request c =
      let (result, opened) := (request.read (rows.length + 1)).run site.driver request.query
        ⟨executed, w, c.log⟩
      .done result (c.putBack live request.query rest
        (opened.closeQuietly site.driver request.query)) := by
    simp only [attempt, h.live_eq, hpool, hacquire, bind_faulty_of_nil hidle hbind,
      execute_faulty_of_nil h hexecute, hreply]
    rfl
  obtain ⟨left, log, hcommand, hread⟩ :=
    (request.read (rows.length + 1)).run_eq_outcome_or_failed executed w c.log
  have hpassed : ∀ plan : FaultPlan, plan.opened = c.world.plan.opened →
      plan.live = c.world.plan.live →
      Passed site s' live c (c.putBack live request.query rest
        ⟨{ left with cursor := none }, ⟨plan, w.world⟩, log⟩) := fun plan hopened hlive ↦
    passed_putBack h (hrelease _ ⟨hcommand, rfl⟩) (FileSite.keeps_written h.keeps hreply)
      (FileSite.link_written _ _) hopened hlive
  rcases hread with hdone | ⟨hqueue, hfailed⟩
  · rw [hattempt, hdone]
    exact ⟨_, _, rfl, hpassed c.world.plan rfl rfl, rfl, .inl ⟨rfl, rfl⟩⟩
  · rw [hattempt, hfailed]
    exact ⟨_, _, rfl, hpassed _ (FaultPlan.opened_after _ _) (FaultPlan.live_after _ _), rfl,
      .inr ⟨hqueue, rfl, rfl⟩⟩

end Connection

end Provenance
