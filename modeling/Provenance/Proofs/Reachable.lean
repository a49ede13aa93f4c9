import Provenance.Proofs.OperationRequests
import Provenance.Proofs.Performing

/-!
Histories of a file store. `FileSite.Step` is all that can happen to a file and to the backends that
are opened on it one after another: operations, reconnections and closing, with any failures planned
at any time in between. A step leaves the store in the file as it was or is one request to it
(`Step.keeps`). So in every state that steps lead to from a fresh file the file keeps a store, no
connection is half open, and requests alone lead to the store from the empty one
(`Reachable.exists_store`).
-/

set_option autoImplicit false
set_option relaxedAutoImplicit false

namespace Provenance

open Relational (Statement World)

/-- A backend of a relational store with planned failures. -/
abbrev FileBackend := Backend (Faulty World) Statement

namespace Backend

/-- A backend in whose world something has changed. -/
def mapWorld (change : Faulty World → Faulty World) (backend : FileBackend) : FileBackend :=
  { backend with
    connection := { backend.connection with world := change backend.connection.world } }

end Backend

namespace Faulty

/-- Plans failures in place of those planned so far. -/
def replan (queues : FaultPoint → List DriverError) (w : Faulty World) : Faulty World :=
  { w with plan := { w.plan with queues } }

/-- The time that new rows get from now on. -/
def retime (now : DateTime) (w : Faulty World) : Faulty World :=
  { w with world := { w.world with now := .text now.boundText } }

end Faulty

/-- What holds after an action, and after what comes next if it held before, holds after both. -/
theorem Action.of_bind {σ α β : Type} (property : σ → Prop) {action : Action σ α}
    {next : α → Action σ β} {s : σ} (haction : property (action.run s).2)
    (hnext : ∀ a s, property s → property ((next a).run s).2) :
    property ((action >>= next).run s).2 := by
  rw [run_bind]
  generalize action.run s = outcome at haction ⊢
  rcases outcome with ⟨_ | a, after⟩
  · exact haction
  · exact hnext a after haction

/-- What callbacks keep holds when rows have been delivered to them. -/
theorem keeps_deliverRows {σ α : Type} {property : σ → Prop} {callback : α → Action σ Unit}
    (hcallback : ∀ row s, property s → property ((callback row).run s).2) (rows : List α) {s : σ}
    (h : property s) : property ((deliverRows callback rows).run s).2 := by
  induction rows generalizing s with
  | nil => exact h
  | cons row rest ih =>
    change property ((callback row >>= fun _ ↦ deliverRows callback rest).run s).2
    exact Action.of_bind property (hcallback row s h) fun _ _ hafter ↦ ih hafter

/-- What an operation's own call and its callbacks keep holds when the operation is over. -/
theorem Operation.keeps_run {W H C : Type} {driver : Driver W H}
    {property : C × Backend W H → Prop} {callback : Listed → Action (C × Backend W H) Unit}
    (op : Operation)
    (hcall : ∀ c backend, property (c, backend) →
      property (c, ((Backend.call driver op.form.request).run backend).2))
    (hcallback : ∀ row s, property s → property ((callback row).run s).2)
    {s : C × Backend W H} (h : property s) : property ((op.run driver callback).run s).2 := by
  rw [run_eq_form]
  refine Action.of_bind property (hcall s.1 s.2 h) fun rows after hafter ↦ ?_
  exact Action.of_bind property (keeps_deliverRows hcallback (op.form.listed rows) hafter)
    fun _ _ hrows ↦ hrows

/-! ### Requests on a store -/

/-- A request of valid arguments leads from one store to another. -/
inductive Store.Step (s : Store) : Store → Prop
  | request {s' : Store} {rows : List Row} (now : Value) (op : Operation) (reader : Reader)
      (request : Request op.form.Rows) (hrequest : op.form.request reader = .ok request)
      (hrun : s.run now request.query request.params = .ok (rows, s')) : Step s s'

/-- The stores that requests lead to from the empty one. -/
inductive Store.Reachable : Store → Prop
  | empty : Store.Reachable .empty
  | step {s s' : Store} (h : Store.Reachable s) (hstep : s.Step s') : Store.Reachable s'

/-! ### Backends on a file -/

namespace FileSite

/-- No backend is open on the file, or one is. -/
inductive State where
  | closed (w : Faulty World)
  | opened (backend : FileBackend)

/-- Changes the world of a state. -/
def State.mapWorld (change : Faulty World → Faulty World) : State → State
  | closed w => closed (change w)
  | opened backend => opened (backend.mapWorld change)

/-- Nothing has been done at the site yet. -/
structure Fresh (site : FileSite) (w : Faulty World) : Prop where
  offers : site.Offers w.world .empty
  unlinked : w.world.link = none
  opened : w.plan.opened = 0
  handles : w.plan.live = 0

/-- What can happen at a site: a backend is made, or cannot be; it is closed; failures are planned;
time passes; an operation is performed; or the backend reconnects. -/
inductive Step (site : FileSite) : State → State → Prop
  | started {w : Faulty World} {backend : FileBackend} (options : Options) (zone : Zone)
      (hstart : Backend.start site.driver site.text options zone w = (.ok (), backend)) :
      Step site (.closed w) (.opened backend)
  | refused {w : Faulty World} {backend : FileBackend} {err : Error} (options : Options)
      (zone : Zone)
      (hstart : Backend.start site.driver site.text options zone w = (.error err, backend)) :
      Step site (.closed w) (.closed backend.connection.world)
  | closed (backend : FileBackend) :
      Step site (.opened backend) (.closed (backend.close site.driver).connection.world)
  | planned (state : State) (queues : FaultPoint → List DriverError) :
      Step site state (state.mapWorld (Faulty.replan queues))
  | timed (state : State) (now : DateTime) :
      Step site state (state.mapWorld (Faulty.retime now))
  | performed (backend : FileBackend) (op : Operation) {C : Type}
      (callback : Listed → Action C Unit) (c : C) :
      Step site (.opened backend)
        (.opened ((op.run site.driver (Operation.passive callback)).run (c, backend)).2.2)
  | reconnected (backend : FileBackend) :
      Step site (.opened backend) (.opened ((Backend.reconnect site.driver).run backend).2)

/-- What can happen at a site besides the operations. -/
inductive Idles (site : FileSite) : State → State → Prop
  | started {w : Faulty World} {backend : FileBackend} (options : Options) (zone : Zone)
      (hstart : Backend.start site.driver site.text options zone w = (.ok (), backend)) :
      Idles site (.closed w) (.opened backend)
  | refused {w : Faulty World} {backend : FileBackend} {err : Error} (options : Options)
      (zone : Zone)
      (hstart : Backend.start site.driver site.text options zone w = (.error err, backend)) :
      Idles site (.closed w) (.closed backend.connection.world)
  | closed (backend : FileBackend) :
      Idles site (.opened backend) (.closed (backend.close site.driver).connection.world)
  | planned (state : State) (queues : FaultPoint → List DriverError) :
      Idles site state (state.mapWorld (Faulty.replan queues))
  | timed (state : State) (now : DateTime) :
      Idles site state (state.mapWorld (Faulty.retime now))
  | reconnected (backend : FileBackend) :
      Idles site (.opened backend) (.opened ((Backend.reconnect site.driver).run backend).2)

theorem Idles.step {site : FileSite} {state state' : State} (h : site.Idles state state') :
    site.Step state state' := by
  cases h with
  | started options zone hstart => exact .started options zone hstart
  | refused options zone hstart => exact .refused options zone hstart
  | closed backend => exact .closed backend
  | planned _ queues => exact .planned _ queues
  | timed _ now => exact .timed _ now
  | reconnected backend => exact .reconnected backend

/-- Steps lead from one state to another. -/
inductive Leads (site : FileSite) (start : State) : State → Prop
  | refl : Leads site start start
  | step {state state' : State} (h : Leads site start state) (hstep : site.Step state state') :
      Leads site start state'

/-- The states that a fresh file can be brought to. -/
def Reachable (site : FileSite) (state : State) : Prop :=
  ∃ w, site.Fresh w ∧ site.Leads (.closed w) state

theorem Reachable.step {site : FileSite} {state state' : State} (h : site.Reachable state)
    (hstep : site.Step state state') : site.Reachable state' := by
  obtain ⟨w, hfresh, hleads⟩ := h
  exact ⟨w, hfresh, hleads.step hstep⟩

/-- What a state says of the store at the site. -/
def State.Keeps (site : FileSite) (s : Store) : State → Prop
  | closed w => site.Offers w.world s ∧ w.world.link = none ∧ w.plan.opened = 0 ∧ w.plan.live = 0
  | opened backend => backend.connection.Settled site s

variable {site : FileSite} {s s' : Store} {w : Faulty World} {backend : FileBackend}

/-- A change of a world that leaves alone the files, the connection and the counters. -/
structure Steady (change : Faulty World → Faulty World) : Prop where
  files : ∀ w, (change w).world.files = w.world.files
  missing : ∀ w, (change w).world.missing = w.world.missing
  locked : ∀ w, (change w).world.locked = w.world.locked
  link : ∀ w, (change w).world.link = w.world.link
  opened : ∀ w, (change w).plan.opened = w.plan.opened
  handles : ∀ w, (change w).plan.live = w.plan.live

theorem steady_replan (queues : FaultPoint → List DriverError) : Steady (Faulty.replan queues) :=
  ⟨fun _ ↦ rfl, fun _ ↦ rfl, fun _ ↦ rfl, fun _ ↦ rfl, fun _ ↦ rfl, fun _ ↦ rfl⟩

theorem steady_retime (now : DateTime) : Steady (Faulty.retime now) :=
  ⟨fun _ ↦ rfl, fun _ ↦ rfl, fun _ ↦ rfl, fun _ ↦ rfl, fun _ ↦ rfl, fun _ ↦ rfl⟩

namespace Steady

variable {change : Faulty World → Faulty World} (h : Steady change)

include h

theorem free (hfree : site.Free w.world) : site.Free (change w).world :=
  ⟨(h.locked w).trans hfree.unlocked, by rw [h.missing w]; exact hfree.present⟩

theorem contentsOf?_eq (path : String) :
    (change w).world.contentsOf? path = w.world.contentsOf? path := by
  rw [World.contentsOf?, World.contentsOf?, h.files w]

theorem keeps (hkeeps : site.Keeps w.world s) : site.Keeps (change w).world s :=
  ⟨h.free hkeeps.free, (h.contentsOf?_eq _).trans hkeeps.tables⟩

theorem offers (hoffers : site.Offers w.world s) : site.Offers (change w).world s := by
  refine ⟨h.free hoffers.free, ?_⟩
  rw [h.contentsOf?_eq]
  exact hoffers.found

theorem isOpen {c : Connection (Faulty World) Statement} {live : Live Statement}
    (hc : c.IsOpen site s live) :
    Connection.IsOpen site s { c with world := change c.world } live := by
  refine ⟨hc.live_eq, hc.target_eq, hc.sized, h.keeps hc.keeps, ?_, hc.rested,
    (h.opened _).trans hc.opened, (h.handles _).trans hc.handles⟩
  obtain ⟨layoutRead, hlink⟩ := hc.linked
  exact ⟨layoutRead, (h.link _).trans hlink⟩

theorem isClosed {c : Connection (Faulty World) Statement} (hc : c.IsClosed site s) :
    Connection.IsClosed site s { c with world := change c.world } :=
  ⟨hc.live_eq, hc.target_eq, hc.sized, h.keeps hc.keeps, (h.link _).trans hc.unlinked,
    (h.opened _).trans hc.opened, (h.handles _).trans hc.handles⟩

theorem settled {c : Connection (Faulty World) Statement} (hc : c.Settled site s) :
    Connection.Settled site s { c with world := change c.world } := by
  rcases hc with ⟨live, hopen⟩ | hclosed
  · exact .inl ⟨live, h.isOpen hopen⟩
  · exact .inr (h.isClosed hclosed)

theorem state {state : State} (hstate : state.Keeps site s) :
    (state.mapWorld change).Keeps site s := by
  cases state with
  | closed w =>
    obtain ⟨hoffers, hlink, hopened, hhandles⟩ := hstate
    exact ⟨h.offers hoffers, (h.link w).trans hlink, (h.opened w).trans hopened,
      (h.handles w).trans hhandles⟩
  | opened backend => exact h.settled hstate

end Steady

end FileSite

/-! ### One operation -/

namespace Backend

variable {α : Type} {site : FileSite} {s s' : Store}

section Calls

variable {W H : Type} {driver : Driver W H} {backend : Backend W H}
  {request : Reader → Except Error (Request α)}

/-- A call with valid arguments performs their request. -/
theorem run_call_of_ok {valid : Request α} (h : request backend.reader = .ok valid) :
    (call driver request).run backend =
      ((backend.connection.perform driver valid backend.options.maxRetries 0).1,
        { backend with
          connection :=
            (backend.connection.perform driver valid backend.options.maxRetries 0).2 }) := by
  simp only [call, Action.run, h]
  rfl

/-- A call with arguments that are not valid does nothing. -/
theorem run_call_of_error {err : Error} (h : request backend.reader = .error err) :
    (call driver request).run backend = (.error err, backend) := by
  simp only [call, Action.run, h]

end Calls

variable {backend : FileBackend}

/-- What a call comes to: an error, and the store is that of before, or what the request makes of
the store at the time that the world shows, and then a result is the one that its rows give. -/
theorem call_cases_now (request : Reader → Except Error (Request α))
    (h : backend.connection.Settled site s) :
    ∃ s', ((call site.driver request).run backend).2.connection.Settled site s' ∧
      ((∃ err, ((call site.driver request).run backend).1 = .error err) ∧ s' = s ∨
        ∃ valid rows, request backend.reader = .ok valid ∧
          s.reply backend.connection.world.world.now valid = .ok (rows, s') ∧
          ∀ a, ((call site.driver request).run backend).1 = .ok a →
            valid.readOff rows = .ok a) := by
  cases hrequest : request backend.reader with
  | error err =>
    rw [run_call_of_error hrequest]
    exact ⟨s, h, .inl ⟨⟨err, rfl⟩, rfl⟩⟩
  | ok valid =>
    rw [run_call_of_ok hrequest]
    obtain ⟨result, c', more, hperform, -, hperformed⟩ :=
      Connection.perform_recorded valid backend.options.maxRetries 0 [] h
    rw [hperform]
    cases hperformed with
    | spared err c' more hspared hcalls => exact ⟨s, hspared.settled, .inl ⟨⟨err, rfl⟩, rfl⟩⟩
    | served result c' more rows s' hserved hcalls =>
      refine ⟨s', .inl hserved.isOpen, .inr ⟨valid, rows, rfl, hserved.reply, fun a ha ↦ ?_⟩⟩
      rcases hserved.result with ⟨hresult, -⟩ | ⟨-, hfailed, -⟩
      · exact hresult.symm.trans ha
      · cases hfailed.symm.trans ha

/-- What a call comes to, at some time. -/
theorem call_cases (request : Reader → Except Error (Request α))
    (h : backend.connection.Settled site s) :
    ∃ s', ((call site.driver request).run backend).2.connection.Settled site s' ∧
      ((∃ err, ((call site.driver request).run backend).1 = .error err) ∧ s' = s ∨
        ∃ valid now rows, request backend.reader = .ok valid ∧
          s.reply now valid = .ok (rows, s') ∧
          ∀ a, ((call site.driver request).run backend).1 = .ok a →
            valid.readOff rows = .ok a) := by
  obtain ⟨s', hsettled, herror | ⟨valid, rows, hserved⟩⟩ := call_cases_now request h
  · exact ⟨s', hsettled, .inl herror⟩
  · exact ⟨s', hsettled, .inr ⟨valid, _, rows, hserved⟩⟩

/-- What a call leaves: the store of before, or the one that the request leads to. -/
theorem settled_call (request : Reader → Except Error (Request α))
    (h : backend.connection.Settled site s) :
    ∃ s', ((call site.driver request).run backend).2.connection.Settled site s' ∧
      (s' = s ∨ ∃ valid now rows, request backend.reader = .ok valid ∧
        s.reply now valid = .ok (rows, s')) := by
  obtain ⟨s', hsettled, ⟨-, hsame⟩ | ⟨valid, now, rows, hrequest, hreply, -⟩⟩ :=
    call_cases request h
  · exact ⟨s', hsettled, .inl hsame⟩
  · exact ⟨s', hsettled, .inr ⟨valid, now, rows, hrequest, hreply⟩⟩

end Backend

/-- An operation whose callback leaves the backend alone concludes its request. -/
theorem Operation.run_passive {W H C : Type} (op : Operation) (driver : Driver W H)
    (callback : Listed → Action C Unit) (c : C) (backend : Backend W H) :
    (op.run driver (passive callback)).run (c, backend) =
      let (result, backend) := (Backend.call driver op.form.request).run backend
      ((op.form.conclude callback result c).1,
        ((op.form.conclude callback result c).2, backend)) := by
  rw [run_eq_form, Form.run_passive]

theorem Operation.run_passive_backend {W H C : Type} (op : Operation) (driver : Driver W H)
    (callback : Listed → Action C Unit) (c : C) (backend : Backend W H) :
    ((op.run driver (passive callback)).run (c, backend)).2.2 =
      ((Backend.call driver op.form.request).run backend).2 := by
  rw [run_passive]

/-- With valid arguments an operation concludes what performing their request comes to. -/
theorem Operation.run_passive_of_perform {W H C : Type} {op : Operation} {driver : Driver W H}
    {backend : Backend W H} {request : Request op.form.Rows}
    (hvalid : op.form.request backend.reader = .ok request) {result : Except Error op.form.Rows}
    {after : Connection W H}
    (h : backend.connection.perform driver request backend.options.maxRetries 0 = (result, after))
    (callback : Listed → Action C Unit) (c : C) :
    (op.run driver (passive callback)).run (c, backend) =
      ((op.form.conclude callback result c).1,
        ((op.form.conclude callback result c).2, { backend with connection := after })) := by
  rw [run_passive, Backend.run_call_of_ok hvalid, h]

/-- A reply to valid arguments is a run of the store. -/
theorem Operation.run_of_reply {s s' : Store} {now : Value} {op : Operation} {reader : Reader}
    {request : Request op.form.Rows} {rows : List Row}
    (hrequest : op.form.request reader = .ok request)
    (h : s.reply now request = .ok (rows, s')) :
    s.run now request.query request.params = .ok (rows, s') := by
  rw [Store.reply, (op.plain_of_request reader request hrequest).asParameter] at h
  exact Store.outcome_eq_ok_iff.mp h

namespace FileSite

variable {site : FileSite} {s : Store} {backend : FileBackend}

/-- A backend that is made on the file finds the store in it, and so does the next one if this one
could not be made. -/
theorem keeps_start {w : Faulty World} (h : (State.closed w).Keeps site s) (options : Options)
    (zone : Zone) :
    (∃ backend, Backend.start site.driver site.text options zone w = (.ok (), backend) ∧
        (State.opened backend).Keeps site s) ∨
      ∃ err backend, Backend.start site.driver site.text options zone w = (.error err, backend) ∧
        (State.closed backend.connection.world).Keeps site s := by
  obtain ⟨hoffers, hlink, hopened, hhandles⟩ := h
  by_cases hsize : options.poolSize = 0
  · refine .inr ⟨.invalidArgument "pool size must be at least 1",
      ⟨options, zone, .unopened site.text options.poolSize w⟩, ?_, hoffers, hlink, hopened,
      hhandles⟩
    simp only [Backend.start, Connection.start, if_pos hsize]
  · rcases Connection.start_cases (Nat.pos_of_ne_zero hsize) hoffers hlink hopened hhandles with
      ⟨live, c, hstart, hopen, -⟩ | ⟨err, c, hstart, hw, hlink', hopened', hhandles', -⟩
    · exact .inl ⟨_, by rw [Backend.start, hstart], .inl ⟨live, hopen⟩⟩
    · exact .inr ⟨err, _, by rw [Backend.start, hstart], hw.offers, hlink', hopened', hhandles'⟩

/-- What is no operation leaves the store as it was. -/
theorem Idles.keeps {state state' : State} (h : site.Idles state state')
    (hstate : state.Keeps site s) : state'.Keeps site s := by
  cases h with
  | started options zone hstart =>
    rcases keeps_start hstate options zone with ⟨_, hstart', hkeeps⟩ | ⟨_, _, hstart', -⟩
    · cases hstart.symm.trans hstart'
      exact hkeeps
    · cases hstart.symm.trans hstart'
  | refused options zone hstart =>
    rcases keeps_start hstate options zone with ⟨_, hstart', -⟩ | ⟨_, _, hstart', hkeeps⟩
    · cases hstart.symm.trans hstart'
    · cases hstart.symm.trans hstart'
      exact hkeeps
  | closed backend =>
    rcases hstate with ⟨live, hopen⟩ | hclosed
    · have hafter := (Connection.isClosed_disconnect hopen).1
      exact ⟨hafter.keeps.offers, hafter.unlinked, hafter.opened, hafter.handles⟩
    · have hsame : backend.connection.disconnect site.driver = backend.connection := by
        simp only [Connection.disconnect, hclosed.live_eq]
      change site.Offers (backend.connection.disconnect site.driver).world.world s ∧ _
      rw [Backend.close, hsame]
      exact ⟨hclosed.keeps.offers, hclosed.unlinked, hclosed.opened, hclosed.handles⟩
  | planned _ queues => exact (steady_replan queues).state hstate
  | timed _ now => exact (steady_retime now).state hstate
  | reconnected backend => exact (Connection.rebuilt_reconnect hstate).settled

/-- The step performs the operation. -/
def Performs (site : FileSite) (op : Operation) (state state' : State) : Prop :=
  ∃ (backend : FileBackend) (C : Type) (callback : Listed → Action C Unit) (c : C),
    state = .opened backend ∧
      state' = .opened ((op.run site.driver (Operation.passive callback)).run (c, backend)).2.2

theorem Step.idles_or_performs {state state' : State} (h : site.Step state state') :
    site.Idles state state' ∨ ∃ op, site.Performs op state state' := by
  cases h with
  | started options zone hstart => exact .inl (.started options zone hstart)
  | refused options zone hstart => exact .inl (.refused options zone hstart)
  | closed backend => exact .inl (.closed backend)
  | planned _ queues => exact .inl (.planned _ queues)
  | timed _ now => exact .inl (.timed _ now)
  | performed backend op callback c => exact .inr ⟨op, backend, _, callback, c, rfl, rfl⟩
  | reconnected backend => exact .inl (.reconnected backend)

/-- Whatever happens at a site leaves its store as it was, or it is an operation whose request the
store has served. -/
theorem Step.keeps_or_performs {state state' : State} (h : site.Step state state')
    (hstate : state.Keeps site s) :
    ∃ s', state'.Keeps site s' ∧ (s' = s ∨ ∃ op, site.Performs op state state' ∧
      ∃ now reader request rows, op.form.request reader = .ok request ∧
        s.run now request.query request.params = .ok (rows, s')) := by
  rcases h.idles_or_performs with hidles | ⟨op, hperforms⟩
  · exact ⟨s, hidles.keeps hstate, .inl rfl⟩
  · obtain ⟨backend, C, callback, c, rfl, rfl⟩ := id hperforms
    rw [Operation.run_passive_backend] at hperforms ⊢
    obtain ⟨s', hsettled, hsame | ⟨request, now, rows, hrequest, hreply⟩⟩ :=
      Backend.settled_call op.form.request hstate
    · exact ⟨s', hsettled, .inl hsame⟩
    · exact ⟨s', hsettled, .inr ⟨op, hperforms, now, _, request, rows, hrequest,
        Operation.run_of_reply hrequest hreply⟩⟩

/-- Whatever happens at a site leaves its store as it was or is a request to it. -/
theorem Step.keeps {state state' : State} (h : site.Step state state')
    (hstate : state.Keeps site s) : ∃ s', state'.Keeps site s' ∧ (s' = s ∨ s.Step s') := by
  obtain ⟨s', hkeeps, hsame | ⟨op, -, now, reader, request, rows, hrequest, hrun⟩⟩ :=
    h.keeps_or_performs hstate
  · exact ⟨s', hkeeps, .inl hsame⟩
  · exact ⟨s', hkeeps, .inr (.request now op reader request hrequest hrun)⟩

theorem Fresh.keeps {w : Faulty World} (h : site.Fresh w) : (State.closed w).Keeps site .empty :=
  ⟨h.offers, h.unlinked, h.opened, h.handles⟩

theorem Leads.exists_store {state state' : State} (h : site.Leads state state')
    (hs : s.Reachable) (hstate : state.Keeps site s) :
    ∃ s', s'.Reachable ∧ state'.Keeps site s' := by
  induction h with
  | refl => exact ⟨s, hs, hstate⟩
  | step h hstep ih =>
    obtain ⟨t, ht, hkeeps⟩ := ih
    obtain ⟨t', hkeeps', rfl | hled⟩ := hstep.keeps hkeeps
    · exact ⟨t', ht, hkeeps'⟩
    · exact ⟨t', ht.step hled, hkeeps'⟩

/-- In every state that a file can be brought to, it keeps a store that requests lead to. -/
theorem Reachable.exists_store {state : State} (h : site.Reachable state) :
    ∃ s, s.Reachable ∧ state.Keeps site s := by
  obtain ⟨w, hfresh, hleads⟩ := h
  exact hleads.exists_store .empty hfresh.keeps

/-! ### Callbacks that use the backend -/

theorem reachable_deliverRows {C : Type} {callback : Listed → Action (C × FileBackend) Unit}
    (hcallback : ∀ row c backend, site.Reachable (.opened backend) →
      site.Reachable (.opened ((callback row).run (c, backend)).2.2))
    (rows : List Listed) (c : C) (h : site.Reachable (.opened backend)) :
    site.Reachable (.opened ((deliverRows callback rows).run (c, backend)).2.2) := by
  induction rows generalizing c backend with
  | nil => exact h
  | cons row rest ih =>
    change site.Reachable (.opened
      ((callback row >>= fun _ ↦ deliverRows callback rest).run (c, backend)).2.2)
    exact Action.of_bind (fun after : C × FileBackend ↦ site.Reachable (.opened after.2))
      (hcallback row c backend h) fun _ after hafter ↦ ih after.1 hafter

/-- A callback that runs operations of its own leads to no further states. -/
theorem Reachable.run_of_callback {C : Type} {callback : Listed → Action (C × FileBackend) Unit}
    (hcallback : ∀ row c backend, site.Reachable (.opened backend) →
      site.Reachable (.opened ((callback row).run (c, backend)).2.2))
    (op : Operation) (c : C) (h : site.Reachable (.opened backend)) :
    site.Reachable (.opened ((op.run site.driver callback).run (c, backend)).2.2) := by
  have hcall := h.step (.performed backend op Operation.ignore ())
  rw [Operation.run_passive_backend] at hcall
  rw [Operation.run_eq_form]
  refine Action.of_bind (fun after : C × FileBackend ↦ site.Reachable (.opened after.2)) hcall
    fun rows after hafter ↦ ?_
  exact Action.of_bind (fun after : C × FileBackend ↦ site.Reachable (.opened after.2))
    (reachable_deliverRows hcallback (op.form.listed rows) after.1 hafter) fun _ _ hrows ↦ hrows

/-! ### A file that is found by its name -/

/-- The backend after some operations, whatever they come to. -/
def afterAll (site : FileSite) : List Operation → FileBackend → FileBackend
  | [], backend => backend
  | op :: rest, backend =>
    site.afterAll rest
      ((op.run site.driver (Operation.passive Operation.ignore)).run ((), backend)).2.2

theorem Leads.afterAll {start : State} (h : site.Leads start (.opened backend))
    (ops : List Operation) : site.Leads start (.opened (site.afterAll ops backend)) := by
  induction ops generalizing backend with
  | nil => exact h
  | cons op rest ih => exact ih (h.step (.performed backend op Operation.ignore ()))

theorem Reachable.afterAll (h : site.Reachable (.opened backend)) (ops : List Operation) :
    site.Reachable (.opened (site.afterAll ops backend)) := by
  obtain ⟨w, hfresh, hleads⟩ := h
  exact ⟨w, hfresh, hleads.afterAll ops⟩

/-- A file that is made under its own name when a backend first opens it. -/
def named : FileSite where
  config := ⟨[], true⟩
  text := "Database=provenance.db"
  target := "provenance.db"
  path := "provenance.db"
  access := .create
  leads := by rfl
  noNul := by decide
  located := by rfl
  writable := by decide

/-- No file is there yet, and nothing is planned to fail. -/
def untouched : Faulty World :=
  ⟨.empty, ⟨[], [], false, .text "2026-01-01 00:00:00", none⟩⟩

theorem fresh_untouched : named.Fresh untouched where
  offers := ⟨⟨rfl, by decide⟩, .inr ⟨rfl, rfl, .inr ⟨rfl, rfl⟩⟩⟩
  unlinked := rfl
  opened := rfl
  handles := rfl

/-- The first backend on that file. -/
def first : FileBackend := (Backend.start named.driver named.text {} ⟨0, none⟩ untouched).2

theorem leads_first : named.Leads (.closed untouched) (.opened first) :=
  .step .refl (.started {} ⟨0, none⟩ rfl)

theorem reachable_first : named.Reachable (.opened first) :=
  ⟨untouched, fresh_untouched, leads_first⟩

end FileSite

end Provenance
