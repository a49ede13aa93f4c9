import Provenance.Proofs.Reachable

/-!
Recovery from a failed reconnection. A backend that has lost its connection connects again when it
is next used, and then answers as any connected backend on the same store would (`recovery`) — but
only if it may retry. With a retry limit of zero the check that counts retries also stands before
connecting again, so such a backend stays without a connection until it is told to reconnect
(`stays_unconnected`).
-/

set_option autoImplicit false
set_option relaxedAutoImplicit false

namespace Provenance

open Relational (Statement World)

namespace Connection

variable {site : FileSite} {s : Store} {c : Connection (Faulty World) Statement}
  {live : Live Statement}

/-- An open connection that nobody uses has every handle of every query in its pool. -/
theorem IsOpen.available (h : IsOpen site s c live) (query : Query) :
    c.available query = .ok c.poolSize := by
  obtain ⟨pool, hpool, handles, rfl, hlength, -⟩ := h.rested.get? query
  simp only [Connection.available, h.live_eq, hpool, Pool.available, Pool.handles_ofHandles,
    hlength]

theorem IsOpen.isConnected (h : IsOpen site s c live) : c.isConnected = true := by
  rw [Connection.isConnected, h.live_eq, Option.isSome_some]

end Connection

namespace FileSite

variable {site : FileSite} {s s' : Store} {backend other : FileBackend}

/-! ### The size of the pools -/

/-- The pools of an open backend are as large as its options say. -/
def State.Sized : State → Prop
  | closed _ => True
  | opened backend => backend.connection.poolSize = backend.options.poolSize

theorem sized_start {w : Faulty World} {options : Options} {zone : Zone}
    (h : Backend.start site.driver site.text options zone w = (.ok (), backend)) :
    backend.connection.poolSize = backend.options.poolSize := by
  unfold Backend.start Connection.start at h
  by_cases hzero : options.poolSize = 0
  · rw [if_pos hzero] at h
    cases h
  · rw [if_neg hzero] at h
    generalize Live.build site.driver site.text options.poolSize 1 w = built at h
    rcases built with ⟨_ | live, w', events⟩
    · cases h
    · cases h
      rfl

theorem Step.sized {state state' : State} (h : site.Step state state')
    (hkeeps : state.Keeps site s) (hsized : state.Sized) : state'.Sized := by
  cases h with
  | started options zone hstart => exact sized_start hstart
  | refused options zone hstart => trivial
  | closed backend => trivial
  | planned state queues => cases state <;> exact hsized
  | timed state now => cases state <;> exact hsized
  | performed backend op callback c =>
    rw [Operation.run_passive_backend]
    cases hrequest : op.form.request backend.reader with
    | error err =>
      rw [Backend.run_call_of_error hrequest]
      exact hsized
    | ok request =>
      rw [Backend.run_call_of_ok hrequest]
      obtain ⟨result, c', more, hperform, -, hperformed⟩ :=
        Connection.perform_recorded request backend.options.maxRetries 0 [] hkeeps
      rw [hperform]
      cases hperformed with
      | spared err c' more hspared hcalls => exact hspared.poolSize_eq.trans hsized
      | served result c' more rows s' hserved hcalls => exact hserved.poolSize_eq.trans hsized
  | reconnected backend => exact (Connection.rebuilt_reconnect hkeeps).poolSize_eq.trans hsized

theorem Reachable.poolSize_eq (h : site.Reachable (.opened backend)) :
    backend.connection.poolSize = backend.options.poolSize := by
  obtain ⟨w, hfresh, hleads⟩ := h
  have hsized : ∀ state, site.Leads (.closed w) state → state.Sized := by
    intro state hstate
    induction hstate with
    | refl => trivial
    | step h hstep ih =>
      obtain ⟨s, -, hkeeps⟩ := h.exists_store .empty hfresh.keeps
      exact hstep.sized hkeeps ih
  exact hsized _ hleads

/-! ### The next operation -/

/-- Another backend with the same store before it: it is connected, reads rows in the same way and
at the same time, and nothing is planned to fail. -/
structure Twin (site : FileSite) (s : Store) (backend other : FileBackend) : Prop where
  reachable : site.Reachable (.opened other)
  connected : other.connection.isConnected = true
  reader : other.reader = backend.reader
  keeps : site.Keeps other.connection.world.world s
  now : other.connection.world.world.now = backend.connection.world.world.now
  queues : ∀ point, other.connection.world.plan.queues point = []

/-- With nothing planned to fail, a reconnection makes a connected backend of any. -/
theorem twin_of_reconnect (hreach : site.Reachable (.opened backend))
    (hkeeps : site.Keeps backend.connection.world.world s)
    (hqueues : ∀ point, backend.connection.world.plan.queues point = []) :
    site.Twin s backend ((Backend.reconnect site.driver).run backend).2 := by
  obtain ⟨t, -, hsettled⟩ := hreach.exists_store
  obtain rfl : t = s := (Connection.Settled.keeps hsettled).unique hkeeps
  have hrebuilt := Connection.rebuilt_reconnect hsettled
  refine ⟨hreach.step (.reconnected backend), ?_, rfl, hrebuilt.relinked.keeps hkeeps,
    hrebuilt.relinked.now, fun point ↦ ?_⟩
  · rcases hrebuilt.outcome with ⟨-, ⟨live, hopen⟩, -⟩ | ⟨-, -, -, hconnect | hprepare⟩
    · exact hopen.isConnected
    · exact absurd (hqueues .connect) hconnect
    · exact absurd (hqueues .prepare) hprepare
  · have hused := hrebuilt.relinked.used point
    rw [hqueues point, List.suffix_nil] at hused
    exact hused

section Quiet

variable {op : Operation} {request : Request op.form.Rows} {C : Type}

/-- What an operation comes to on a backend that is connected or may connect, with nothing planned
to fail: the result is the one that the store gives, and all handles are back in their pools. -/
theorem run_of_quiet (h : backend.connection.Settled site s)
    (hopens : backend.connection.isConnected = true ∨ backend.options.maxRetries ≠ 0)
    (hqueues : ∀ point, backend.connection.world.plan.queues point = [])
    (hvalid : op.form.request backend.reader = .ok request) (callback : Listed → Action C Unit)
    (c : C) :
    ∃ after live,
      (op.run site.driver (Operation.passive callback)).run (c, backend) =
        ((op.form.conclude callback (s.served backend.connection.world.world.now request).1 c).1,
          ((op.form.conclude callback (s.served backend.connection.world.world.now request).1 c).2,
            after)) ∧
      after.connection.IsOpen site (s.served backend.connection.world.world.now request).2 live ∧
      after.connection.poolSize = backend.connection.poolSize := by
  obtain ⟨c', hperform, hserved⟩ :=
    Connection.perform_of_nothing_planned h hopens request 0 hqueues
  obtain ⟨live, hopen⟩ := hserved.isOpen
  exact ⟨{ backend with connection := c' }, live,
    Operation.run_passive_of_perform hvalid hperform callback c, hopen, hserved.poolSize_eq⟩

/-- A backend that has lost its connection and may not retry refuses whatever it is asked for. -/
theorem run_of_lost (hlost : backend.connection.isConnected = false)
    (hretries : backend.options.maxRetries = 0)
    (hvalid : op.form.request backend.reader = .ok request) (callback : Listed → Action C Unit)
    (c : C) :
    (op.run site.driver (Operation.passive callback)).run (c, backend) =
      (.error Connection.notConnected, (c, backend)) := by
  have hnone : backend.connection.live = none := by
    rwa [Connection.isConnected, Option.isSome_eq_false_iff, Option.isNone_iff_eq_none] at hlost
  have hperform : backend.connection.perform site.driver request backend.options.maxRetries 0 =
      (.error Connection.notConnected, backend.connection) := by
    rw [hretries]
    exact Connection.perform_zero_of_closed hnone
  rw [Operation.run_passive_of_perform hvalid hperform]
  rfl

/-- However a backend has lost its connection, the next operation with valid arguments and nothing
planned to fail answers exactly as on a connected backend with the same store, leaves the same store
and leaves the backend connected with full pools, if any retry is allowed. If none is, it fails
without trying to connect, and the backend is as before. -/
theorem recovery (op : Operation) {request : Request op.form.Rows}
    (hreach : site.Reachable (.opened backend))
    (hlost : backend.connection.isConnected = false)
    (hqueues : ∀ point, backend.connection.world.plan.queues point = [])
    (hvalid : op.form.request backend.reader = .ok request) (callback : Listed → Action C Unit)
    (c : C) :
    ∃ result c' after s s',
      (op.run site.driver (Operation.passive callback)).run (c, backend) =
        (result, (c', after)) ∧
      site.Keeps backend.connection.world.world s ∧
      site.Keeps after.connection.world.world s' ∧
      (backend.options.maxRetries ≠ 0 →
        after.connection.isConnected = true ∧
        (∀ query, after.connection.available query = .ok backend.options.poolSize) ∧
        (∃ other, site.Twin s backend other) ∧
        ∀ other, site.Twin s backend other → ∃ other',
          (op.run site.driver (Operation.passive callback)).run (c, other) =
            (result, (c', other')) ∧
          site.Keeps other'.connection.world.world s') ∧
      (backend.options.maxRetries = 0 →
        result = .error Connection.notConnected ∧ c' = c ∧ after = backend) := by
  obtain ⟨s, -, hsettled⟩ := hreach.exists_store
  have hkeeps : site.Keeps backend.connection.world.world s := Connection.Settled.keeps hsettled
  by_cases hretries : backend.options.maxRetries = 0
  · exact ⟨_, c, backend, s, s, run_of_lost hlost hretries hvalid callback c, hkeeps, hkeeps,
      fun hne ↦ absurd hretries hne, fun _ ↦ ⟨rfl, rfl, rfl⟩⟩
  · obtain ⟨after, live, hrun, hopen, hsize⟩ :=
      run_of_quiet hsettled (.inr hretries) hqueues hvalid callback c
    refine ⟨_, _, after, s, _, hrun, hkeeps, hopen.keeps, fun _ ↦ ?_,
      fun hzero ↦ absurd hzero hretries⟩
    refine ⟨hopen.isConnected, fun query ↦ ?_, ⟨_, twin_of_reconnect hreach hkeeps hqueues⟩, ?_⟩
    · rw [hopen.available, hsize, hreach.poolSize_eq]
    · intro other hother
      obtain ⟨t, -, hsettled'⟩ := hother.reachable.exists_store
      obtain rfl : t = s := (Connection.Settled.keeps hsettled').unique hother.keeps
      have hvalid' : op.form.request other.reader = .ok request := hother.reader ▸ hvalid
      obtain ⟨other', live', hrun', hopen', -⟩ :=
        run_of_quiet hsettled' (.inl hother.connected) hother.queues hvalid' callback c
      rw [hother.now] at hrun' hopen'
      exact ⟨other', hrun', hopen'.keeps⟩

end Quiet

/-! ### Backends that may retry and one that may not -/

/-- A backend on the named file after a reconnection that failed because connecting did. -/
def stranded (retries : Nat) : FileBackend :=
  ((Backend.reconnect named.driver).run
    ((Backend.start named.driver named.text { maxRetries := retries } ⟨0, none⟩
      untouched).2.mapWorld
        (Faulty.replan fun point ↦ if point = .connect then [FaultPlan.linkFailure] else []))).2

theorem reachable_stranded (retries : Nat) : named.Reachable (.opened (stranded retries)) := by
  have hstarted : named.Leads (.closed untouched) (.opened
      (Backend.start named.driver named.text { maxRetries := retries } ⟨0, none⟩ untouched).2) :=
    .step .refl (.started { maxRetries := retries } ⟨0, none⟩ rfl)
  exact ⟨untouched, fresh_untouched,
    (hstarted.step (.planned _ fun point ↦
      if point = .connect then [FaultPlan.linkFailure] else [])).step (.reconnected _)⟩

theorem queues_stranded (retries : Nat) (point : FaultPoint) :
    (stranded retries).connection.world.plan.queues point = [] := by
  cases point <;> rfl

/-- With one retry allowed the backend is connected again by the next operation, and a listing of
its objects finds none. -/
theorem recovers_with_a_retry :
    ∃ after, ((Operation.allObjects none).run named.driver
        (Operation.passive Operation.ignore)).run ((), stranded 1) =
          (.ok (.listed .noData), ((), after)) ∧ after.connection.isConnected = true := by
  obtain ⟨result, c', after, s, s', hrun, -, -, hrecovers, -⟩ :=
    recovery (.allObjects none) (reachable_stranded 1) rfl (queues_stranded 1) rfl
      Operation.ignore ()
  have hanswer : (((Operation.allObjects none).run named.driver
      (Operation.passive Operation.ignore)).run ((), stranded 1)).1 =
        .ok (.listed .noData) := by rfl
  rw [hrun] at hanswer
  cases hanswer
  exact ⟨after, hrun, (hrecovers (by decide)).1⟩

/-- With no retry allowed the same operation fails, though nothing is planned to fail and a
connected backend would list no objects. -/
theorem stays_unconnected :
    named.Reachable (.opened (stranded 0)) ∧
      (stranded 0).connection.isConnected = false ∧
      (∀ point, (stranded 0).connection.world.plan.queues point = []) ∧
      ((Operation.allObjects none).run named.driver
        (Operation.passive Operation.ignore)).run ((), stranded 0) =
          (.error Connection.notConnected, ((), stranded 0)) ∧
      (((Operation.allObjects none).run named.driver (Operation.passive Operation.ignore)).run
        ((), ((Backend.reconnect named.driver).run (stranded 0)).2)).1 = .ok (.listed .noData) :=
  ⟨reachable_stranded 0, rfl, queues_stranded 0, run_of_lost rfl rfl rfl Operation.ignore (), rfl⟩

end FileSite

end Provenance
