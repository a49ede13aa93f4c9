import Provenance.Request

/-!
Recording the calls that a driver gets. `Recorded.driver` acts like the driver in it and notes every
call and whether it succeeded; recording changes nothing else. A pass over a request that serves it
executes its statement once and only reads from then on (`ExecutedOnce`), a pass that does not serve
it has executed nothing (`attempt_recorded`), and neither has a reconnection.
-/

set_option autoImplicit false
set_option relaxedAutoImplicit false

namespace Provenance

/-- What a driver can be called for. -/
inductive DriverCall where
  | connect
  | prepare
  | discard
  | disconnect
  | bind
  | execute
  | fetch
  | column
  | close
deriving DecidableEq, Repr

/-- The calls on the cursor of a statement that has been executed. -/
def DriverCall.reads : DriverCall → Bool
  | fetch | column | close => true
  | _ => false

/-- The calls made so far, each with whether it succeeded. -/
abbrev CallLog := List (DriverCall × Bool)

namespace CallLog

/-- No statement has been executed with success. -/
def NoneExecuted (calls : CallLog) : Prop := (.execute, true) ∉ calls

/-- One statement has been executed with success, and it has only been read from since then. -/
def ExecutedOnce (calls : CallLog) : Prop :=
  ∃ before after, calls = before ++ (.execute, true) :: after ∧ NoneExecuted before ∧
    ∀ call ∈ after, call.1.reads = true

variable {calls more : CallLog}

theorem NoneExecuted.nil : NoneExecuted [] := List.not_mem_nil

theorem NoneExecuted.append (h : NoneExecuted calls) (hmore : NoneExecuted more) :
    NoneExecuted (calls ++ more) := by
  intro hmem
  rcases List.mem_append.mp hmem with hold | hnew
  · exact h hold
  · exact hmore hnew

theorem NoneExecuted.append_once (h : NoneExecuted calls) (hmore : ExecutedOnce more) :
    ExecutedOnce (calls ++ more) := by
  obtain ⟨before, after, rfl, hbefore, hafter⟩ := hmore
  exact ⟨calls ++ before, after, (List.append_assoc _ _ _).symm, h.append hbefore, hafter⟩

end CallLog

/-- A world and the calls made on it. -/
structure Recorded (W : Type) where
  world : W
  calls : CallLog

namespace Recorded

variable {W H α : Type}

/-- The outcome of a call on a world, noted. -/
def note (call : DriverCall) (calls : CallLog) (outcome : Except DriverError α × W) :
    Except DriverError α × Recorded W :=
  (outcome.1, ⟨outcome.2, calls ++ [(call, outcome.1.isOk)]⟩)

/-- The outcome of a call on a handle, noted. -/
def noteOn (call : DriverCall) (calls : CallLog) (outcome : Except DriverError α × H × W) :
    Except DriverError α × H × Recorded W :=
  (outcome.1, outcome.2.1, ⟨outcome.2.2, calls ++ [(call, outcome.1.isOk)]⟩)

/-- The driver, with every call noted. -/
def driver (inner : Driver W H) : Driver (Recorded W) H where
  name := inner.name
  connect target w := note .connect w.calls (inner.connect target w.world)
  prepare query w := note .prepare w.calls (inner.prepare query w.world)
  discard handle w := ⟨inner.discard handle w.world, w.calls ++ [(.discard, true)]⟩
  disconnect w := note .disconnect w.calls (inner.disconnect w.world)
  bind params handle w := noteOn .bind w.calls (inner.bind params handle w.world)
  execute handle w := noteOn .execute w.calls (inner.execute handle w.world)
  fetch handle w := noteOn .fetch w.calls (inner.fetch handle w.world)
  column index handle w := noteOn .column w.calls (inner.column index handle w.world)
  close handle w := noteOn .close w.calls (inner.close handle w.world)
  rowsLeft := inner.rowsLeft

end Recorded

variable {W H α : Type} (inner : Driver W H)

/-- The calls that making and breaking connections consists of. -/
def CallLog.Upkeep (calls : CallLog) : Prop :=
  ∀ call ∈ calls, call.1 ≠ DriverCall.execute

theorem CallLog.Upkeep.append {calls more : CallLog} (h : calls.Upkeep) (hmore : more.Upkeep) :
    CallLog.Upkeep (calls ++ more) := by
  intro call hcall
  rcases List.mem_append.mp hcall with hold | hnew
  · exact h call hold
  · exact hmore call hnew

theorem CallLog.Upkeep.noneExecuted {calls : CallLog} (h : calls.Upkeep) : calls.NoneExecuted :=
  fun hmem ↦ h _ hmem rfl

theorem CallLog.Upkeep.single {call : DriverCall} {ok : Bool} (h : call ≠ .execute) :
    CallLog.Upkeep [(call, ok)] := by
  intro other hother
  rw [List.mem_singleton.mp hother]
  exact h

/-! ### Making and breaking connections -/

namespace Live

theorem prepareHandles_recorded (query : Query) (count : Nat) (w : W) (calls : CallLog) :
    ∃ more, CallLog.Upkeep more ∧
      prepareHandles (Recorded.driver inner) query count ⟨w, calls⟩ =
        ((prepareHandles inner query count w).1,
          ⟨(prepareHandles inner query count w).2, calls ++ more⟩) := by
  induction count generalizing w calls with
  | zero => exact ⟨[], by simp [CallLog.Upkeep], by simp [prepareHandles]⟩
  | succ count ih =>
    have hprepare : (Recorded.driver inner).prepare query ⟨w, calls⟩ =
        Recorded.note .prepare calls (inner.prepare query w) := rfl
    simp only [prepareHandles, hprepare, Recorded.note]
    rcases inner.prepare query w with ⟨err | handle, w'⟩
    · exact ⟨_, .single (by decide), rfl⟩
    · obtain ⟨more, hmore, hrest⟩ := ih w' (calls ++ [(.prepare, true)])
      refine ⟨(.prepare, true) :: more, (CallLog.Upkeep.single (by decide)).append hmore, ?_⟩
      simp only [Except.isOk, Except.toBool, hrest, List.append_assoc, List.singleton_append]

theorem preparePools_recorded (size : Nat) (queries : List Query) (w : W) (calls : CallLog) :
    ∃ more, CallLog.Upkeep more ∧
      preparePools (Recorded.driver inner) size queries ⟨w, calls⟩ =
        ((preparePools inner size queries w).1,
          ⟨(preparePools inner size queries w).2, calls ++ more⟩) := by
  induction queries generalizing w calls with
  | nil => exact ⟨[], by simp [CallLog.Upkeep], by simp [preparePools]⟩
  | cons query rest ih =>
    obtain ⟨first, hfirst, hhandles⟩ := prepareHandles_recorded inner query size w calls
    simp only [preparePools, hhandles]
    rcases prepareHandles inner query size w with ⟨⟨handles, _ | err⟩, w'⟩
    · obtain ⟨more, hmore, hrest⟩ := ih w' (calls ++ first)
      refine ⟨first ++ more, hfirst.append hmore, ?_⟩
      simp only [hrest, List.append_assoc]
      rcases preparePools inner size rest w' with ⟨_ | _, _⟩ <;> rfl
    · exact ⟨first, hfirst, rfl⟩

theorem tearDown_recorded (generation : Nat) (handles : List H) (w : W) (calls : CallLog) :
    ∃ more, CallLog.Upkeep more ∧
      tearDown (Recorded.driver inner) generation handles ⟨w, calls⟩ =
        (⟨(tearDown inner generation handles w).1, calls ++ more⟩,
          (tearDown inner generation handles w).2) := by
  have hemptied : ∀ (w : W) (calls : CallLog), ∃ more, CallLog.Upkeep more ∧
      handles.foldl (fun world handle ↦ (Recorded.driver inner).discard handle world) ⟨w, calls⟩ =
        ⟨handles.foldl (fun world handle ↦ inner.discard handle world) w, calls ++ more⟩ := by
    induction handles with
    | nil => exact fun w calls ↦ ⟨[], by simp [CallLog.Upkeep], by simp⟩
    | cons handle rest ih =>
      intro w calls
      obtain ⟨more, hmore, hrest⟩ := ih (inner.discard handle w) (calls ++ [(.discard, true)])
      refine ⟨(.discard, true) :: more, (CallLog.Upkeep.single (by decide)).append hmore, ?_⟩
      rw [List.foldl_cons, List.foldl_cons, ← List.singleton_append, ← List.append_assoc]
      exact hrest
  obtain ⟨more, hmore, hfold⟩ := hemptied w calls
  simp only [tearDown, hfold]
  have hdisconnect : ∀ (w : W) (calls : CallLog), (Recorded.driver inner).disconnect ⟨w, calls⟩ =
      Recorded.note .disconnect calls (inner.disconnect w) := fun _ _ ↦ rfl
  simp only [hdisconnect, Recorded.note]
  rcases inner.disconnect _ with ⟨err | _, w'⟩
  · exact ⟨more ++ [(.disconnect, false)], hmore.append (.single (by decide)), by
      rw [List.append_assoc]; rfl⟩
  · exact ⟨more ++ [(.disconnect, true)], hmore.append (.single (by decide)), by
      rw [List.append_assoc]; rfl⟩

theorem build_recorded (target : String) (size generation : Nat) (w : W) (calls : CallLog) :
    ∃ more, CallLog.Upkeep more ∧
      build (Recorded.driver inner) target size generation ⟨w, calls⟩ =
        ((build inner target size generation w).1,
          ⟨(build inner target size generation w).2.1, calls ++ more⟩,
          (build inner target size generation w).2.2) := by
  have hconnect : (Recorded.driver inner).connect target ⟨w, calls⟩ =
      Recorded.note .connect calls (inner.connect target w) := rfl
  simp only [build, hconnect, Recorded.note]
  rcases inner.connect target w with ⟨err | _, w'⟩
  · exact ⟨_, .single (by decide), rfl⟩
  · obtain ⟨more, hmore, hpools⟩ :=
      preparePools_recorded inner size Query.all w' (calls ++ [(.connect, true)])
    have hupkeep : CallLog.Upkeep ((.connect, true) :: more) :=
      (CallLog.Upkeep.single (by decide)).append hmore
    simp only [Except.isOk, Except.toBool, hpools]
    rcases preparePools inner size Query.all w' with ⟨pools | ⟨query, err, handles⟩, w''⟩
    · exact ⟨_, hupkeep, by rw [List.append_assoc, List.singleton_append]⟩
    · obtain ⟨last, hlast, htear⟩ := tearDown_recorded inner generation handles w''
        (calls ++ [(.connect, true)] ++ more)
      refine ⟨_, hupkeep.append hlast, ?_⟩
      simp only [htear]
      simp only [List.append_assoc, List.cons_append, List.nil_append]

end Live

namespace Connection

/-- The connection in a world whose calls are recorded. -/
def recorded (calls : CallLog) (c : Connection W H) : Connection (Recorded W) H :=
  ⟨c.target, c.poolSize, c.live, c.lastGeneration, c.reconnects, ⟨c.world, calls⟩, c.log⟩

variable (c : Connection W H) (calls : CallLog)

theorem disconnect_recorded :
    ∃ more, CallLog.Upkeep more ∧
      disconnect (Recorded.driver inner) (c.recorded calls) =
        (disconnect inner c).recorded (calls ++ more) := by
  rcases hlive : c.live with _ | live
  · refine ⟨[], by simp [CallLog.Upkeep], ?_⟩
    simp only [disconnect, recorded, hlive, List.append_nil]
  · obtain ⟨more, hmore, htear⟩ := Live.tearDown_recorded inner live.generation
      live.pools.handles c.world calls
    refine ⟨more, hmore, ?_⟩
    simp only [disconnect, recorded, hlive, htear]

theorem openNext_recorded :
    ∃ more, CallLog.Upkeep more ∧
      openNext (Recorded.driver inner) (c.recorded calls) =
        ((openNext inner c).1, (openNext inner c).2.recorded (calls ++ more)) := by
  obtain ⟨more, hmore, hbuild⟩ := Live.build_recorded inner c.target c.poolSize
    (c.lastGeneration + 1) c.world calls
  refine ⟨more, hmore, ?_⟩
  simp only [openNext, recorded, hbuild]
  rcases Live.build inner c.target c.poolSize (c.lastGeneration + 1) c.world with ⟨_ | _, _, _⟩ <;>
    rfl

theorem reconnectIfCurrent_recorded (generation : Nat) :
    ∃ more, CallLog.Upkeep more ∧
      reconnectIfCurrent (Recorded.driver inner) generation (c.recorded calls) =
        ((reconnectIfCurrent inner generation c).1,
          (reconnectIfCurrent inner generation c).2.recorded (calls ++ more)) := by
  have hlive : (c.recorded calls).live = c.live := rfl
  unfold reconnectIfCurrent
  rw [hlive]
  rcases c.live with _ | live
  · exact openNext_recorded inner c calls
  · by_cases hcurrent : live.generation = generation
    · obtain ⟨first, hfirst, hdisconnect⟩ := disconnect_recorded inner c calls
      obtain ⟨more, hmore, hopen⟩ := openNext_recorded inner (disconnect inner c) (calls ++ first)
      refine ⟨first ++ more, hfirst.append hmore, ?_⟩
      simp only [hcurrent, if_true, hdisconnect, hopen, List.append_assoc]
    · refine ⟨[], by simp [CallLog.Upkeep], ?_⟩
      simp only [hcurrent, if_false, List.append_nil]

theorem reconnectIfDisconnected_recorded :
    ∃ more, CallLog.Upkeep more ∧
      reconnectIfDisconnected (Recorded.driver inner) (c.recorded calls) =
        ((reconnectIfDisconnected inner c).1,
          (reconnectIfDisconnected inner c).2.recorded (calls ++ more)) := by
  have hlive : (c.recorded calls).live = c.live := rfl
  unfold reconnectIfDisconnected
  rw [hlive]
  rcases c.live with _ | live
  · exact openNext_recorded inner c calls
  · exact ⟨[], by simp [CallLog.Upkeep], by simp only [List.append_nil]⟩

end Connection

/-! ### Reading and executing -/

/-- The calls that reading consists of. -/
def CallLog.Reads (calls : CallLog) : Prop := ∀ call ∈ calls, call.1.reads = true

theorem CallLog.Reads.append {calls more : CallLog} (h : calls.Reads) (hmore : more.Reads) :
    CallLog.Reads (calls ++ more) := by
  intro call hcall
  rcases List.mem_append.mp hcall with hold | hnew
  · exact h call hold
  · exact hmore call hnew

theorem CallLog.Reads.single {call : DriverCall} {ok : Bool} (h : call.reads = true) :
    CallLog.Reads [(call, ok)] := by
  intro other hother
  rw [List.mem_singleton.mp hother]
  exact h

namespace Opened

/-- An executed statement in a world whose calls are recorded. -/
def recorded (calls : CallLog) (opened : Opened W H) : Opened (Recorded W) H :=
  ⟨opened.handle, ⟨opened.world, calls⟩, opened.log⟩

theorem closeQuietly_recorded (query : Query) (opened : Opened W H) (calls : CallLog) :
    ∃ more, CallLog.Reads more ∧
      closeQuietly (Recorded.driver inner) query (opened.recorded calls) =
        (closeQuietly inner query opened).recorded (calls ++ more) := by
  have hclose : (Recorded.driver inner).close opened.handle ⟨opened.world, calls⟩ =
      Recorded.noteOn .close calls (inner.close opened.handle opened.world) := rfl
  simp only [closeQuietly, recorded, hclose, Recorded.noteOn]
  rcases inner.close opened.handle opened.world with ⟨err | _, handle, w⟩
  · exact ⟨_, .single rfl, rfl⟩
  · exact ⟨_, .single rfl, rfl⟩

end Opened

theorem Reading.run_recorded (query : Query) (reading : Reading α) (opened : Opened W H)
    (calls : CallLog) :
    ∃ more, CallLog.Reads more ∧
      reading.run (Recorded.driver inner) query (opened.recorded calls) =
        ((reading.run inner query opened).1,
          (reading.run inner query opened).2.recorded (calls ++ more)) := by
  induction reading generalizing opened calls with
  | stop result => exact ⟨[], by simp [CallLog.Reads], by simp only [run, List.append_nil]⟩
  | fetch next ih =>
    have hfetch : (Recorded.driver inner).fetch opened.handle ⟨opened.world, calls⟩ =
        Recorded.noteOn .fetch calls (inner.fetch opened.handle opened.world) := rfl
    simp only [run, Opened.recorded, hfetch, Recorded.noteOn]
    rcases inner.fetch opened.handle opened.world with ⟨err | more, handle, w⟩
    · obtain ⟨last, hlast, hclose⟩ := Opened.closeQuietly_recorded inner query
        ⟨handle, w, opened.log ++ Event.ofError query.name err⟩ (calls ++ [(.fetch, false)])
      refine ⟨(.fetch, false) :: last, (CallLog.Reads.single rfl).append hlast, ?_⟩
      rw [List.append_assoc] at hclose
      exact congrArg (Prod.mk _) hclose
    · obtain ⟨last, hlast, hrest⟩ := ih more ⟨handle, w, opened.log⟩ (calls ++ [(.fetch, true)])
      refine ⟨(.fetch, true) :: last, (CallLog.Reads.single rfl).append hlast, ?_⟩
      rw [List.append_assoc] at hrest
      exact hrest
  | column index next ih =>
    have hcolumn : (Recorded.driver inner).column index opened.handle ⟨opened.world, calls⟩ =
        Recorded.noteOn .column calls (inner.column index opened.handle opened.world) := rfl
    simp only [run, Opened.recorded, hcolumn, Recorded.noteOn]
    rcases inner.column index opened.handle opened.world with ⟨err | value, handle, w⟩
    · obtain ⟨last, hlast, hclose⟩ := Opened.closeQuietly_recorded inner query
        ⟨handle, w, opened.log ++ Event.ofError query.name err⟩ (calls ++ [(.column, false)])
      refine ⟨(.column, false) :: last, (CallLog.Reads.single rfl).append hlast, ?_⟩
      rw [List.append_assoc] at hclose
      exact congrArg (Prod.mk _) hclose
    · obtain ⟨last, hlast, hrest⟩ := ih value ⟨handle, w, opened.log⟩ (calls ++ [(.column, true)])
      refine ⟨(.column, true) :: last, (CallLog.Reads.single rfl).append hlast, ?_⟩
      rw [List.append_assoc] at hrest
      exact hrest
  | close next ih =>
    obtain ⟨first, hfirst, hclose⟩ := Opened.closeQuietly_recorded inner query opened calls
    obtain ⟨last, hlast, hrest⟩ := ih (opened.closeQuietly inner query) (calls ++ first)
    refine ⟨first ++ last, hfirst.append hlast, ?_⟩
    simp only [run, hclose, hrest, List.append_assoc]

theorem CallLog.Reads.noneExecuted {calls : CallLog} (h : calls.Reads) : calls.NoneExecuted :=
  fun hmem ↦ absurd (h _ hmem) (by decide)

theorem CallLog.Reads.executedOnce {calls : CallLog} (h : calls.Reads) :
    CallLog.ExecutedOnce ((.bind, true) :: (.execute, true) :: calls) :=
  ⟨[(.bind, true)], calls, rfl, by simp [CallLog.NoneExecuted], h⟩

namespace Connection

/-- A pass in a world whose calls are recorded. -/
def Attempt.recorded (calls : CallLog) : Attempt W H α → Attempt (Recorded W) H α
  | .done result c => .done result (c.recorded calls)
  | .failed generation step err c => .failed generation step err (c.recorded calls)
  | .unconnected => .unconnected

/-- What a pass must have called the driver for. -/
def Attempt.Accounts (calls : CallLog) : Attempt W H α → Prop
  | .done _ _ => calls.ExecutedOnce
  | .failed .. | .unconnected => calls.NoneExecuted

/-- A pass that gets a handle serves its request by executing it once, or has executed nothing. -/
theorem attempt_recorded (request : Request α) (c : Connection W H) (calls : CallLog)
    {live : Live H} (hlive : c.live = some live) {pool rest : Pool H} {handle : H}
    (hpool : live.pools.get? request.query = some pool)
    (hacquire : pool.acquire = .taken handle rest) :
    ∃ more, (attempt inner request c).Accounts more ∧
      attempt (Recorded.driver inner) request (c.recorded calls) =
        (attempt inner request c).recorded (calls ++ more) := by
  have hlive' : (c.recorded calls).live = some live := hlive
  have hbind : (Recorded.driver inner).bind request.params handle (c.recorded calls).world =
      Recorded.noteOn .bind calls (inner.bind request.params handle c.world) := rfl
  have hexecute : ∀ (handle : H) (w : W) (calls : CallLog),
      (Recorded.driver inner).execute handle ⟨w, calls⟩ =
        Recorded.noteOn .execute calls (inner.execute handle w) := fun _ _ _ ↦ rfl
  simp only [attempt, hlive, hlive', hpool, hacquire, hbind, Recorded.noteOn]
  rcases inner.bind request.params handle c.world with ⟨err | _, bound, w⟩
  · obtain ⟨last, hlast, hclose⟩ := Opened.closeQuietly_recorded inner request.query
      ⟨bound, w, c.log⟩ (calls ++ [(.bind, false)])
    refine ⟨[(.bind, false)] ++ last, ?_, ?_⟩
    · exact .append (by simp [CallLog.NoneExecuted]) hlast.noneExecuted
    · rw [← List.append_assoc]
      exact congrArg (fun opened ↦ Attempt.failed live.generation .bind err
        ((c.recorded calls).putBack live request.query rest opened)) hclose
  · simp only [hexecute, Recorded.noteOn]
    rcases inner.execute bound w with ⟨err | _, executed, w'⟩
    · obtain ⟨last, hlast, hclose⟩ := Opened.closeQuietly_recorded inner request.query
        ⟨executed, w', c.log⟩ (calls ++ [(.bind, true)] ++ [(.execute, false)])
      refine ⟨[(.bind, true)] ++ [(.execute, false)] ++ last, ?_, ?_⟩
      · exact .append (by simp [CallLog.NoneExecuted]) hlast.noneExecuted
      · rw [← List.append_assoc, ← List.append_assoc]
        exact congrArg (fun opened ↦ Attempt.failed live.generation .execute err
          ((c.recorded calls).putBack live request.query rest opened)) hclose
    · obtain ⟨middle, hmiddle, hread⟩ := (request.read (inner.rowsLeft executed + 1)).run_recorded
        inner request.query ⟨executed, w', c.log⟩ (calls ++ [(.bind, true)] ++ [(.execute, true)])
      obtain ⟨last, hlast, hclose⟩ := Opened.closeQuietly_recorded inner request.query
        ((request.read (inner.rowsLeft executed + 1)).run inner request.query
          ⟨executed, w', c.log⟩).2
        (calls ++ [(.bind, true)] ++ [(.execute, true)] ++ middle)
      refine ⟨[(.bind, true)] ++ [(.execute, true)] ++ (middle ++ last), ?_, ?_⟩
      · exact (hmiddle.append hlast).executedOnce
      rw [← List.append_assoc, ← List.append_assoc, ← List.append_assoc]
      refine (congrArg (fun outcome : Except Error α × Opened (Recorded W) H ↦
        Attempt.done outcome.1 ((c.recorded calls).putBack live request.query rest
          (outcome.2.closeQuietly (Recorded.driver inner) request.query))) hread).trans ?_
      simp only [hclose]
      rfl

end Connection

end Provenance
