import Provenance.Proofs.Reachable
import Provenance.Proofs.Tally

/-!
No statement, cursor or connection is left behind. `Watched.Step` is all that can happen to backends
that are made one after another on any connection string, any options and whatever becomes of the
files, with any failures planned at any time in between. Between two steps, and whenever a row is
handed to a callback, a backend has all of its statements or nothing is open (`State.Balanced`), and
no connection has been closed that still had one (`CallLog.PartsBare`).
-/

set_option autoImplicit false
set_option relaxedAutoImplicit false

namespace Provenance

open Relational (Config Contents Statement World)
open FileSite (handleCount)

/-! ### Making a backend -/

section Starting

variable {W : Type} {driver : Driver W Statement} (t : Tally driver) {w : W}

/-- A first connection has all of its statements, or nothing is left open. -/
theorem Tally.start_cases (target : String) (size : Nat) (h : t.shut w) :
    (∃ c, Connection.start driver target size w = (.ok (), c) ∧ 0 < size ∧ c.Tallied t size) ∨
      ∃ err c, Connection.start driver target size w = (.error err, c) ∧ t.shut c.world := by
  by_cases hsize : size = 0
  · refine .inr ⟨.invalidArgument "pool size must be at least 1", .unopened target size w, ?_, h⟩
    simp only [Connection.start, if_pos hsize]
  · rcases t.build_cases target size 1 h with
      ⟨live, w', events, hbuild, hrested, halive⟩ | ⟨err, w', events, hbuild, hshut⟩
    · refine .inl ⟨⟨target, size, some live, 1, 0, w', events⟩, ?_, Nat.pos_of_ne_zero hsize, rfl,
        .inl ⟨live, rfl, hrested, halive⟩⟩
      simp only [Connection.start, if_neg hsize, hbuild]
    · refine .inr ⟨err, ⟨target, size, none, 1, 0, w', events⟩, ?_, hshut⟩
      simp only [Connection.start, if_neg hsize, hbuild]

/-- A backend has all of its statements, in pools of the size that its options ask for. -/
structure Backend.Tallied (t : Tally driver) (backend : Backend W Statement) : Prop where
  sized : 0 < backend.options.poolSize
  connection : backend.connection.Tallied t backend.options.poolSize

variable {t} {backend : Backend W Statement}

/-- A backend that has been made where nothing was open has all of its statements. -/
theorem Backend.Tallied.of_start {text : String} {options : Options} {zone : Zone}
    (hshut : t.shut w)
    (hstart : Backend.start driver text options zone w = (.ok (), backend)) :
    backend.Tallied t := by
  rcases t.start_cases text options.poolSize hshut with
    ⟨c, hmade, hsize, hc⟩ | ⟨err, c, hmade, -⟩
  · rw [Backend.start, hmade] at hstart
    cases hstart
    exact ⟨hsize, hc⟩
  · rw [Backend.start, hmade] at hstart
    cases hstart

theorem Backend.Tallied.call {α : Type} (h : backend.Tallied t)
    (request : Reader → Except Error (Request α)) :
    ((Backend.call driver request).run backend).2.Tallied t := by
  cases hrequest : request backend.reader with
  | error err =>
    rw [Backend.run_call_of_error hrequest]
    exact h
  | ok valid =>
    rw [Backend.run_call_of_ok hrequest]
    exact ⟨h.sized, h.connection.perform h.sized valid _ _⟩

theorem Backend.Tallied.reconnect (h : backend.Tallied t) :
    ((Backend.reconnect driver).run backend).2.Tallied t :=
  ⟨h.sized, h.connection.reconnect⟩

theorem Backend.Tallied.close (h : backend.Tallied t) :
    (backend.close driver).Tallied t ∧ t.shut (backend.close driver).connection.world := by
  obtain ⟨hsize, hnone, hshut⟩ := h.connection.disconnect
  exact ⟨⟨h.sized, hsize, .inr ⟨hnone, hshut⟩⟩, hshut⟩

end Starting

/-! ### What can happen -/

namespace Watched

/-- A relational world with planned failures, and the calls on it. -/
abbrev Watch := Recorded (Faulty World)

/-- A backend whose calls are recorded. -/
abbrev Watcher := Backend Watch Statement

/-- The relational driver with planned failures, and with its calls recorded. -/
def driver (config : Config) : Driver Watch Statement :=
  Recorded.driver (Faulty.driver (Relational.driver config))

/-- No backend has been made, or one has. -/
inductive State where
  | closed (w : Watch)
  | opened (backend : Watcher)

def State.world : State → Watch
  | closed w => w
  | opened backend => backend.connection.world

/-- Changes the world of a state. -/
def State.mapWorld (change : Watch → Watch) : State → State
  | closed w => closed (change w)
  | opened backend =>
    opened { backend with
      connection := { backend.connection with world := change backend.connection.world } }

/-- Plans failures in place of those planned so far. -/
def replan (queues : FaultPoint → List DriverError) (w : Watch) : Watch :=
  { w with world := w.world.replan queues }

/-- Files come and go, are locked and released, and time passes. The connection stays. -/
def alter (outside : World) (w : Watch) : Watch :=
  { w with world := { w.world with world := { outside with link := w.world.world.link } } }

/-- What can happen: a backend is made, or cannot be; it is dropped, or only disconnected; it calls
its driver for an operation or reconnects; failures are planned; the files change. -/
inductive Step (config : Config) : State → State → Prop
  | started {w : Watch} {backend : Watcher} (text : String) (options : Options) (zone : Zone)
      (hstart : Backend.start (driver config) text options zone w = (.ok (), backend)) :
      Step config (.closed w) (.opened backend)
  | refused {w : Watch} {backend : Watcher} {err : Error} (text : String) (options : Options)
      (zone : Zone)
      (hstart : Backend.start (driver config) text options zone w = (.error err, backend)) :
      Step config (.closed w) (.closed backend.connection.world)
  | dropped (backend : Watcher) :
      Step config (.opened backend) (.closed (backend.close (driver config)).connection.world)
  | disconnected (backend : Watcher) :
      Step config (.opened backend) (.opened (backend.close (driver config)))
  | called (backend : Watcher) (op : Operation) :
      Step config (.opened backend)
        (.opened ((Backend.call (driver config) op.form.request).run backend).2)
  | reconnected (backend : Watcher) :
      Step config (.opened backend)
        (.opened ((Backend.reconnect (driver config)).run backend).2)
  | planned (state : State) (queues : FaultPoint → List DriverError) :
      Step config state (state.mapWorld (replan queues))
  | altered (state : State) (outside : World) : Step config state (state.mapWorld (alter outside))

/-- Nothing is open in the world, and nothing has been. -/
structure Fresh (w : Watch) : Prop where
  unlinked : w.world.world.link = none
  opened : w.world.plan.opened = 0
  live : w.world.plan.live = 0
  calls : w.calls = []

/-- What steps lead to where nothing has been open. -/
inductive Reachable (config : Config) : State → Prop
  | fresh {w : Watch} (h : Fresh w) : Reachable config (.closed w)
  | step {state state' : State} (h : Reachable config state) (hstep : Step config state state') :
      Reachable config state'

variable {config : Config} {state state' : State} {backend : Watcher}

/-! ### The tally of a state -/

/-- What the driver is known by. -/
def tally (config : Config) : Tally (driver config) :=
  Recorded.tally (Faulty.tally (Relational.tally config))

/-- The backend has all of its statements, or nothing is open. -/
def State.Tallied (config : Config) : State → Prop
  | closed w => (tally config).shut w
  | opened backend => backend.Tallied (tally config)

theorem Fresh.shut {w : Watch} (h : Fresh w) : (tally config).shut w := by
  refine ⟨⟨h.unlinked, h.opened, h.live⟩, ?_, ?_⟩
  · rw [h.calls]
    exact .nil
  · rw [h.calls]
    rfl

/-- A change of a world that the tally does not look at. -/
structure Unseen (config : Config) (change : Watch → Watch) : Prop where
  shut : ∀ {w}, (tally config).shut w → (tally config).shut (change w)
  alive : ∀ {count w}, (tally config).alive count w → (tally config).alive count (change w)

theorem unseen_replan (queues : FaultPoint → List DriverError) : Unseen config (replan queues) where
  shut h := ⟨⟨h.world.world, h.world.opened, h.world.live⟩, h.bare, h.even⟩
  alive h := ⟨⟨h.world.world, h.world.opened, h.world.live⟩, h.bare, h.even⟩

theorem unseen_alter (outside : World) : Unseen config (alter outside) where
  shut h := ⟨⟨h.world.world, h.world.opened, h.world.live⟩, h.bare, h.even⟩
  alive h := ⟨⟨h.world.world, h.world.opened, h.world.live⟩, h.bare, h.even⟩

theorem State.Tallied.mapWorld {change : Watch → Watch} (hchange : Unseen config change)
    (h : state.Tallied config) : (state.mapWorld change).Tallied config := by
  cases state with
  | closed w => exact hchange.shut h
  | opened backend =>
    refine ⟨h.sized, h.connection.poolSize_eq, ?_⟩
    rcases h.connection.state with ⟨live, hholds⟩ | ⟨hnone, hshut⟩
    · exact .inl ⟨live, hholds.live_eq, hholds.rested, hchange.alive hholds.alive⟩
    · exact .inr ⟨hnone, hchange.shut hshut⟩

theorem start_cases (text : String) (options : Options) (zone : Zone) {w : Watch}
    (h : (tally config).shut w) :
    (∃ backend, Backend.start (driver config) text options zone w = (.ok (), backend) ∧
        backend.Tallied (tally config)) ∨
      ∃ err backend, Backend.start (driver config) text options zone w = (.error err, backend) ∧
        (tally config).shut backend.connection.world := by
  rcases (tally config).start_cases text options.poolSize h with
    ⟨c, hstart, hsize, hc⟩ | ⟨err, c, hstart, hshut⟩
  · exact .inl ⟨⟨options, zone, c⟩, by rw [Backend.start, hstart], hsize, hc⟩
  · exact .inr ⟨err, ⟨options, zone, c⟩, by rw [Backend.start, hstart], hshut⟩

theorem Step.tallied (hstep : Step config state state') (h : state.Tallied config) :
    state'.Tallied config := by
  cases hstep with
  | started text options zone hstart =>
    rcases start_cases text options zone h with ⟨_, hstart', hbackend⟩ | ⟨_, _, hstart', -⟩
    · cases hstart.symm.trans hstart'
      exact hbackend
    · cases hstart.symm.trans hstart'
  | refused text options zone hstart =>
    rcases start_cases text options zone h with ⟨_, hstart', -⟩ | ⟨_, _, hstart', hshut⟩
    · cases hstart.symm.trans hstart'
    · cases hstart.symm.trans hstart'
      exact hshut
  | dropped backend => exact (Backend.Tallied.close h).2
  | disconnected backend => exact (Backend.Tallied.close h).1
  | called backend op => exact Backend.Tallied.call h op.form.request
  | reconnected backend => exact Backend.Tallied.reconnect h
  | planned state queues => exact h.mapWorld (unseen_replan queues)
  | altered state outside => exact h.mapWorld (unseen_alter outside)

theorem Reachable.tallied (h : Reachable config state) : state.Tallied config := by
  induction h with
  | fresh h => exact h.shut
  | step _ hstep ih => exact hstep.tallied ih

/-! ### What a caller sees -/

/-- No connection is open, and both counters say so. -/
structure Bare (w : Watch) : Prop where
  unlinked : w.world.world.link = none
  opened : w.world.plan.opened = 0
  live : w.world.plan.live = 0

/-- One connection is open, with a pool of full size for every query; nobody holds a statement or
reads from one, and the counters say so. -/
structure Full (backend : Watcher) (live : Live Statement) : Prop where
  live_eq : backend.connection.live = some live
  available : ∀ query, backend.connection.available query = .ok backend.options.poolSize
  idle : ∀ handle ∈ live.pools.handles, handle.cursor = none
  linked : backend.connection.world.world.world.link.isSome = true
  opened : backend.connection.world.world.plan.opened = 1
  live_count : backend.connection.world.world.plan.live =
    Query.all.length * backend.options.poolSize

/-- What a state is between calls. -/
def State.Balanced : State → Prop
  | closed w => Bare w
  | opened backend =>
    (∃ live, Full backend live) ∨
      backend.connection.isConnected = false ∧ Bare backend.connection.world

theorem bare_of_shut {w : Watch} (h : (tally config).shut w) : Bare w :=
  ⟨h.world.world, h.world.opened, h.world.live⟩

theorem cursor_of_isRested {size : Nat} {live : Live Statement} (h : live.IsRested size)
    {handle : Statement} (hhandle : handle ∈ live.pools.handles) : handle.cursor = none := by
  obtain ⟨entry, hentry, hin⟩ := List.mem_flatMap.mp hhandle
  obtain ⟨handles, hpool, -, hidle⟩ := h.full entry hentry
  rw [hpool, Pool.handles_ofHandles] at hin
  exact (hidle handle hin).cursor

theorem available_of_holds {c : Connection Watch Statement} {live : Live Statement}
    (h : c.Holds (tally config) live) (query : Query) : c.available query = .ok c.poolSize := by
  obtain ⟨pool, hpool, handles, rfl, hlength, -⟩ := h.rested.get? query
  simp only [Connection.available, h.live_eq, hpool, Pool.available, Pool.handles_ofHandles,
    hlength]

theorem State.Tallied.balanced (h : state.Tallied config) : state.Balanced := by
  cases state with
  | closed w => exact bare_of_shut h
  | opened backend =>
    have hsize := h.connection.poolSize_eq
    rcases h.connection.state with ⟨live, hholds⟩ | ⟨hnone, hshut⟩
    · refine .inl ⟨live, hholds.live_eq, fun query ↦ ?_,
        fun handle ↦ cursor_of_isRested hholds.rested, hholds.alive.world.world,
        hholds.alive.world.opened, ?_⟩
      · rw [available_of_holds hholds, hsize]
      · exact hholds.alive.world.live.trans (congrArg (Query.all.length * ·) hsize)
    · refine .inr ⟨?_, bare_of_shut hshut⟩
      rw [Connection.isConnected, hnone]
      rfl

theorem State.Tallied.partsBare (h : state.Tallied config) : state.world.calls.PartsBare := by
  cases state with
  | closed w => exact h.bare
  | opened backend =>
    rcases h.connection.state with ⟨live, hholds⟩ | ⟨-, hshut⟩
    · exact hholds.alive.bare
    · exact hshut.bare

/-! ### Callbacks -/

section Callbacks

variable {C : Type} {callback : Listed → Action (C × Watcher) Unit}

/-- The callback, with every backend noted that it is handed. -/
def noting (callback : Listed → Action (C × Watcher) Unit) :
    Listed → Action ((C × List Watcher) × Watcher) Unit := fun row ((c, seen), backend) ↦
  let (result, (c, after)) := callback row (c, backend)
  (result, ((c, seen ++ [backend]), after))

/-- The backends that a callback is handed by an operation. -/
def handed (config : Config) (op : Operation) (callback : Listed → Action (C × Watcher) Unit)
    (c : C) (backend : Watcher) : List Watcher :=
  ((op.run (driver config) (noting callback)).run ((c, []), backend)).2.1.2

/-- A callback that does nothing to its backend but what can happen to one. -/
def Proper (config : Config) (callback : Listed → Action (C × Watcher) Unit) : Prop :=
  ∀ row c backend, Reachable config (.opened backend) →
    Reachable config (.opened ((callback row).run (c, backend)).2.2)

/-- All backends that have been noted can be reached, and so can the present one. -/
def Noted (config : Config) (s : (C × List Watcher) × Watcher) : Prop :=
  (∀ seen ∈ s.1.2, Reachable config (.opened seen)) ∧ Reachable config (.opened s.2)

theorem Proper.noting (h : Proper config callback) (row : Listed)
    {s : (C × List Watcher) × Watcher} (hs : Noted config s) :
    Noted config ((noting callback row).run s).2 := by
  obtain ⟨⟨c, seen⟩, backend⟩ := s
  refine ⟨fun other hother ↦ ?_, h row c backend hs.2⟩
  rcases List.mem_append.mp hother with hbefore | hlast
  · exact hs.1 other hbefore
  · rw [List.mem_singleton.mp hlast]
    exact hs.2

theorem Proper.deliverRows (h : Proper config callback) (rows : List Listed)
    {s : (C × List Watcher) × Watcher} (hs : Noted config s) :
    Noted config ((deliverRows (Watched.noting callback) rows).run s).2 := by
  induction rows generalizing s with
  | nil => exact hs
  | cons row rest ih =>
    change Noted config ((Watched.noting callback row >>= fun _ ↦
      Provenance.deliverRows (Watched.noting callback) rest).run s).2
    exact Action.of_bind (Noted config) (h.noting row hs) fun _ _ hafter ↦ ih hafter

/-- An operation calls its driver before the first row is handed to the callback. -/
theorem Proper.noted (h : Proper config callback) (op : Operation) (c : C)
    (hreach : Reachable config (.opened backend)) :
    Noted config ((op.run (driver config) (Watched.noting callback)).run ((c, []), backend)).2 := by
  have hcall : Noted config ((Action.onSecond (Backend.call (driver config) op.form.request)).run
      (((c, []), backend) : (C × List Watcher) × Watcher)).2 :=
    ⟨fun _ hseen ↦ absurd hseen List.not_mem_nil, hreach.step (.called backend op)⟩
  rw [Operation.run_eq_form]
  refine Action.of_bind (Noted config) hcall fun rows after hafter ↦ ?_
  exact Action.of_bind (Noted config) (h.deliverRows (op.form.listed rows) hafter)
    fun _ _ hrows ↦ hrows

/-- An outcome is another one but for the backends that have been noted. -/
def Forgets {α : Type} (plain : Except Error α × C × Watcher)
    (noted : Except Error α × (C × List Watcher) × Watcher) : Prop :=
  noted.1 = plain.1 ∧ noted.2.1.1 = plain.2.1 ∧ noted.2.2 = plain.2.2

theorem forgets_bind {α β : Type} {action : Action (C × Watcher) α}
    {action' : Action ((C × List Watcher) × Watcher) α} {next : α → Action (C × Watcher) β}
    {next' : α → Action ((C × List Watcher) × Watcher) β} {s : C × Watcher}
    {s' : (C × List Watcher) × Watcher} (h : Forgets (action.run s) (action'.run s'))
    (hnext : ∀ a c seen backend,
      Forgets ((next a).run (c, backend)) ((next' a).run ((c, seen), backend))) :
    Forgets ((action >>= next).run s) ((action' >>= next').run s') := by
  rw [Action.run_bind, Action.run_bind]
  generalize action.run s = plain at h ⊢
  generalize action'.run s' = noted at h ⊢
  obtain ⟨result, c, backend⟩ := plain
  obtain ⟨result', ⟨c', seen⟩, backend'⟩ := noted
  obtain ⟨rfl, rfl, rfl⟩ := h
  cases result' with
  | error err => exact ⟨rfl, rfl, rfl⟩
  | ok a => exact hnext a c' seen backend'

theorem forgets_deliverRows (callback : Listed → Action (C × Watcher) Unit) (rows : List Listed)
    (c : C) (seen : List Watcher) (backend : Watcher) :
    Forgets ((deliverRows callback rows).run (c, backend))
      ((deliverRows (noting callback) rows).run ((c, seen), backend)) := by
  induction rows generalizing c seen backend with
  | nil => exact ⟨rfl, rfl, rfl⟩
  | cons row rest ih =>
    have hrow : Forgets ((callback row).run (c, backend))
        ((noting callback row).run ((c, seen), backend)) := ⟨rfl, rfl, rfl⟩
    exact forgets_bind hrow fun _ c seen backend ↦ ih c seen backend

/-- Noting the backends changes nothing else. -/
theorem forgets_run (callback : Listed → Action (C × Watcher) Unit) (op : Operation) (c : C)
    (backend : Watcher) :
    Forgets ((op.run (driver config) callback).run (c, backend))
      ((op.run (driver config) (noting callback)).run ((c, []), backend)) := by
  rw [Operation.run_eq_form, Operation.run_eq_form]
  refine forgets_bind ⟨rfl, rfl, rfl⟩ fun rows c seen backend ↦ ?_
  refine forgets_bind (forgets_deliverRows callback (op.form.listed rows) c seen backend) ?_
  exact fun _ _ _ _ ↦ ⟨rfl, rfl, rfl⟩

end Callbacks

/-- Whatever has happened: a backend has every statement of every pool at rest and one connection
open, or nothing is open, and the counters of the plan say so; that is also so whenever a row is
handed to a callback, which may use the backend in turn; and every connection was closed when all
of its statements had been given up. -/
theorem nothing_left_behind (h : Reachable config state) :
    state.Balanced ∧ state.world.calls.PartsBare ∧
      ∀ backend, state = .opened backend → ∀ (op : Operation) (C : Type)
        (callback : Listed → Action (C × Watcher) Unit) (c : C), Proper config callback →
        (∀ seen ∈ handed config op callback c backend,
          (State.opened seen).Balanced ∧ seen.connection.world.calls.PartsBare) ∧
        Reachable config
          (.opened ((op.run (driver config) callback).run (c, backend)).2.2) := by
  refine ⟨h.tallied.balanced, h.tallied.partsBare, ?_⟩
  rintro backend rfl op C callback c hproper
  obtain ⟨hseen, hafter⟩ := hproper.noted op c h
  refine ⟨fun seen hin ↦ ?_, ?_⟩
  · have htallied := (hseen seen hin).tallied
    exact ⟨htallied.balanced, htallied.partsBare⟩
  · rw [(forgets_run callback op c backend).2.2] at hafter
    exact hafter

/-- The first statement to be prepared is planned to fail. -/
def failing : Watch :=
  ⟨FileSite.untouched.replan fun point ↦
    if point = .prepare then [FaultPlan.linkFailure] else [], []⟩

/-- Makes a backend on a file. -/
def make : Watch → Except Error Unit × Watcher :=
  Backend.start (driver FileSite.named.config) FileSite.named.text {} ⟨0, none⟩

theorem Reachable.make {w : Watch} (h : Reachable FileSite.named.config (.closed w)) :
    (∀ err, (make w).1 = .error err →
      Reachable FileSite.named.config (.closed (make w).2.connection.world)) ∧
      ((make w).1 = .ok () → Reachable FileSite.named.config (.opened (make w).2)) :=
  ⟨fun _ hmake ↦ h.step (.refused FileSite.named.text {} ⟨0, none⟩ (Prod.ext hmake rfl)),
    fun hmake ↦ h.step (.started FileSite.named.text {} ⟨0, none⟩ (Prod.ext hmake rfl))⟩

/-- The first backend cannot be made on that world, but the next one can. -/
def remade : Watcher := (make (make failing).2.connection.world).2

theorem reachable_remade : Reachable FileSite.named.config (.opened remade) := by
  have hfresh : Reachable FileSite.named.config (.closed failing) := .fresh ⟨rfl, rfl, rfl, rfl⟩
  have hfirst : (make failing).1 = .error (.prepare Query.createSession.name) := rfl
  have hsecond : (make (make failing).2.connection.world).1 = .ok () := rfl
  exact (hfresh.make.1 _ hfirst).make.2 hsecond

/-- The backend after some operations have called the driver. -/
def afterCalls (config : Config) : List Operation → Watcher → Watcher
  | [], backend => backend
  | op :: rest, backend =>
    afterCalls config rest ((Backend.call (driver config) op.form.request).run backend).2

theorem Reachable.afterCalls (h : Reachable config (.opened backend)) (ops : List Operation) :
    Reachable config (.opened (afterCalls config ops backend)) := by
  induction ops generalizing backend with
  | nil => exact h
  | cons op rest ih => exact ih (h.step (.called backend op))

/-- A session and an object that it has created. -/
def someObject : List Operation :=
  [.createSession ⟨"00:00:00:00:00:00", "user", 1, "program", "program --flag"⟩,
    .createObject "" "object" .entity 1]

/-- A callback that reconnects whenever it is handed a row. -/
def reconnecting (config : Config) (_ : Listed) : Action (Unit × Watcher) Unit :=
  Action.onSecond (Backend.reconnect (driver config))

theorem proper_reconnecting : Proper config (reconnecting config) :=
  fun _ _ backend h ↦ h.step (.reconnected backend)

/-- Where the first backend could not be made, the second one lists an object to a callback that
reconnects, and is in balance when it does. -/
theorem nothing_left_while_listing :
    let config := FileSite.named.config
    let backend := afterCalls config someObject remade
    let seen := handed config (.allObjects none) (reconnecting config) () backend
    seen.length = 1 ∧ (State.opened backend).Balanced ∧
      ∀ other ∈ seen, (State.opened other).Balanced ∧
        other.connection.world.calls.PartsBare := by
  intro config backend seen
  obtain ⟨hbalanced, -, hcallbacks⟩ := nothing_left_behind (reachable_remade.afterCalls someObject)
  have hlisting := hcallbacks backend rfl (.allObjects none) Unit (reconnecting config) ()
    proper_reconnecting
  exact ⟨by decide +kernel, hbalanced, hlisting.1⟩

end Watched

end Provenance
