import Provenance.Proofs.BlamelessReadings
import Provenance.Proofs.FoundOrMade

/-!
What is reported of failures. `Observed.driver` acts like the driver in it and notes every failure.
Of those met on the way to an answer only the last one counts, tidying up apart (`lastFailure`): an
operation that answers, or finds nothing, reports none as an error, and one that ends with a failure
of the driver reports the records of just that one, in order (`Reports`). A statement that cannot be
bound or executed is reported as failed as well; a connection, a statement that cannot be prepared
and rows that cannot be read are reported by their records alone (`failures_reported`), and so by
nothing if there are none (`silent_failure`).
-/

set_option autoImplicit false
set_option relaxedAutoImplicit false

namespace Provenance

variable {W H α : Type}

/-! ### Noting failures -/

/-- A call whose failure is only warned of. -/
def DriverCall.tidies : DriverCall → Bool
  | discard | disconnect | close => true
  | _ => false

/-- The call that a step is. -/
def Step.call : Step → DriverCall
  | bind => .bind
  | execute => .execute

/-- The calls that have failed so far, each with its failure. -/
abbrev Failures := List (DriverCall × DriverError)

/-- The last failure that is not one of tidying up. -/
def lastFailure (failures : Failures) : Option (DriverCall × DriverError) :=
  (failures.filter fun failure ↦ !failure.1.tidies).getLast?

theorem lastFailure_append (failures more : Failures) :
    lastFailure (failures ++ more) = (lastFailure more).or (lastFailure failures) := by
  simp only [lastFailure, List.filter_append, List.getLast?_append]

/-- A world and the failures met in it. -/
structure Observed (W : Type) where
  world : W
  failures : Failures

namespace Observed

/-- The failure of a call, if it has failed. -/
def failed (call : DriverCall) : Except DriverError α → Failures
  | .ok _ => []
  | .error err => [(call, err)]

def note (call : DriverCall) (failures : Failures) (outcome : Except DriverError α × W) :
    Except DriverError α × Observed W :=
  (outcome.1, ⟨outcome.2, failures ++ failed call outcome.1⟩)

def noteOn (call : DriverCall) (failures : Failures) (outcome : Except DriverError α × H × W) :
    Except DriverError α × H × Observed W :=
  (outcome.1, outcome.2.1, ⟨outcome.2.2, failures ++ failed call outcome.1⟩)

/-- The driver, with every failure noted. -/
def driver (inner : Driver W H) : Driver (Observed W) H where
  name := inner.name
  connect target w := note .connect w.failures (inner.connect target w.world)
  prepare query w := note .prepare w.failures (inner.prepare query w.world)
  discard handle w := ⟨inner.discard handle w.world, w.failures⟩
  disconnect w := note .disconnect w.failures (inner.disconnect w.world)
  bind params handle w := noteOn .bind w.failures (inner.bind params handle w.world)
  execute handle w := noteOn .execute w.failures (inner.execute handle w.world)
  fetch handle w := noteOn .fetch w.failures (inner.fetch handle w.world)
  column index handle w := noteOn .column w.failures (inner.column index handle w.world)
  close handle w := noteOn .close w.failures (inner.close handle w.world)
  rowsLeft := inner.rowsLeft

end Observed

/-! ### What is reported -/

/-- What is logged at error level. -/
def Event.errors (events : List Event) : List Event :=
  events.filter fun event ↦ event.level = .error

theorem Event.errors_append (events more : List Event) :
    Event.errors (events ++ more) = Event.errors events ++ Event.errors more :=
  List.filter_append events more

theorem Event.errors_ofError (context : String) (err : DriverError) :
    Event.errors (Event.ofError context err) = Event.ofError context err := by
  refine List.filter_eq_self.mpr fun event hevent ↦ ?_
  obtain ⟨entry, -, rfl⟩ := List.mem_map.mp hevent
  rfl

theorem Event.ofError_eq_nil {context : String} {err : DriverError} :
    Event.ofError context err = [] ↔ err.records = [] := by
  simp only [Event.ofError, List.map_eq_nil_iff, List.zipIdx_eq_nil_iff]

/-- What is reported when an operation ends with an error because a call has failed: all records of
the failure, and of a bind or an execute that the statement has failed. -/
inductive Reports : Error → DriverCall → DriverError → List Event → Prop
  | connect (driver : String) (failure : DriverError) :
      Reports (.connection (driver ++ " driver could not connect")) .connect failure
        (Event.ofError "connect" failure)
  | prepare (query : Query) (failure : DriverError) :
      Reports (.prepare query.name) .prepare failure (Event.ofError query.name failure)
  | statement (query : Query) (step : Step) (retries : Nat) (failure : DriverError) :
      Reports (.statement query.name) step.call failure
        (Event.ofError query.name failure ++ [.statementFailed query.name step retries])
  | read (query : Query) {call : DriverCall} (hcall : call = .fetch ∨ call = .column)
      (failure : DriverError) :
      Reports (.statement query.name) call failure (Event.ofError query.name failure)

/-- Nothing is reported of a failure without records, unless it was met in a bind or an execute. -/
theorem Reports.eq_nil_iff {err : Error} {call : DriverCall} {failure : DriverError}
    {errors : List Event} (h : Reports err call failure errors) :
    errors = [] ↔ failure.records = [] ∧ call ≠ .bind ∧ call ≠ .execute := by
  cases h with
  | connect driver failure => simp [Event.ofError_eq_nil]
  | prepare query failure => simp [Event.ofError_eq_nil]
  | statement query step retries failure => cases step <;> simp [Step.call]
  | read query hcall failure => rcases hcall with rfl | rfl <;> simp [Event.ofError_eq_nil]

/-- What is reported is not that nothing was found. -/
theorem Reports.isNotFound {err : Error} {call : DriverCall} {failure : DriverError}
    {errors : List Event} (h : Reports err call failure errors) : err.isNotFound = false := by
  cases h <;> rfl

/-- From one moment to a later one, with their logs: the last failure that has been met, tidying up
apart, and what has been logged at error level. -/
structure Told (blamed : Option (DriverCall × DriverError)) (errors : List Event)
    (before after : Observed W × List Event) : Prop where
  failures : ∃ more, after.1.failures = before.1.failures ++ more ∧ lastFailure more = blamed
  events : ∃ own, after.2 = before.2 ++ own ∧ Event.errors own = errors

namespace Told

variable {blamed blamed' : Option (DriverCall × DriverError)} {errors errors' : List Event}
  {before between after : Observed W × List Event} {w : Observed W} {log : List Event}

theorem refl (before : Observed W × List Event) : Told none [] before before :=
  ⟨⟨[], (List.append_nil _).symm, rfl⟩, ⟨[], (List.append_nil _).symm, rfl⟩⟩

theorem trans (h : Told blamed errors before between) (h' : Told blamed' errors' between after) :
    Told (blamed'.or blamed) (errors ++ errors') before after := by
  obtain ⟨⟨first, hfirst, rfl⟩, ⟨own, hown, rfl⟩⟩ := h
  obtain ⟨⟨next, hnext, rfl⟩, ⟨own', hown', rfl⟩⟩ := h'
  refine ⟨⟨first ++ next, ?_, lastFailure_append first next⟩,
    ⟨own ++ own', ?_, Event.errors_append own own'⟩⟩
  · rw [hnext, hfirst, List.append_assoc]
  · rw [hown', hown, List.append_assoc]

/-- A call that succeeds. -/
theorem succeeded (w : Observed W) (world : W) (log : List Event) :
    Told none [] (w, log) (⟨world, w.failures ++ []⟩, log) :=
  ⟨⟨[], rfl, rfl⟩, ⟨[], (List.append_nil _).symm, rfl⟩⟩

/-- A call that fails, unless it tidies up. -/
theorem failed {call : DriverCall} (hcall : call.tidies = false) (w : Observed W) (world : W)
    (failure : DriverError) (log : List Event) :
    Told (some (call, failure)) [] (w, log) (⟨world, w.failures ++ [(call, failure)]⟩, log) := by
  refine ⟨⟨_, rfl, ?_⟩, ⟨[], (List.append_nil _).symm, rfl⟩⟩
  simp only [lastFailure, List.filter_cons, hcall, Bool.not_false, if_true, List.filter_nil,
    List.getLast?_singleton]

/-- A call that tidies up, and fails. -/
theorem untidied {call : DriverCall} (hcall : call.tidies = true) (w : Observed W) (world : W)
    (failure : DriverError) (log : List Event) :
    Told none [] (w, log) (⟨world, w.failures ++ [(call, failure)]⟩, log) := by
  refine ⟨⟨_, rfl, ?_⟩, ⟨[], (List.append_nil _).symm, rfl⟩⟩
  simp only [lastFailure, List.filter_cons, hcall, Bool.not_true, Bool.false_eq_true, if_false,
    List.filter_nil, List.getLast?_nil]

/-- What is logged while the driver is not called. -/
theorem logged (w : Observed W) (log events : List Event) :
    Told none (Event.errors events) (w, log) (w, log ++ events) :=
  ⟨⟨[], (List.append_nil _).symm, rfl⟩, ⟨events, rfl, rfl⟩⟩

/-- What was logged before does not matter. -/
theorem withLog {w' : Observed W} {events : List Event}
    (h : Told blamed errors (w, []) (w', events)) (log : List Event) :
    Told blamed errors (w, log) (w', log ++ events) := by
  obtain ⟨hfailures, ⟨own, hown, rfl⟩⟩ := h
  exact ⟨hfailures, ⟨own, congrArg (log ++ ·) hown, rfl⟩⟩

end Told

/-- From one moment to a later one an outcome has been reached that blames no driver, with nothing
logged at error level unless it is an internal error; or a failure has been reported. -/
inductive Ends (before after : Observed W × List Event) : Except Error α → Prop
  | answers {result : Except Error α} {blamed : Option (DriverCall × DriverError)}
      {errors : List Event} (hresult : Blameless result)
      (htold : Told blamed errors before after)
      (herrors : errors = [] ∨ ∃ text, result = .error (.internal text)) :
      Ends before after result
  | fails {err : Error} {call : DriverCall} {failure : DriverError} {errors : List Event}
      (hreports : Reports err call failure errors)
      (htold : Told (some (call, failure)) errors before after) :
      Ends before after (.error err)

namespace Ends

variable {before between after : Observed W × List Event} {result : Except Error α}

/-- What has happened earlier is forgotten if it has not been reported. -/
theorem preceded (h : Ends between after result) {blamed : Option (DriverCall × DriverError)}
    (hbefore : Told blamed [] before between) : Ends before after result := by
  cases h with
  | answers hresult htold herrors => exact .answers hresult (hbefore.trans htold) herrors
  | fails hreports htold => exact .fails hreports (hbefore.trans htold)

/-- Tidying up afterwards changes nothing. -/
theorem tidied (h : Ends before between result) (hafter : Told none [] between after) :
    Ends before after result := by
  cases h with
  | answers hresult htold herrors =>
    have hboth := htold.trans hafter
    rw [List.append_nil] at hboth
    exact .answers hresult hboth herrors
  | fails hreports htold =>
    have hboth := htold.trans hafter
    rw [List.append_nil] at hboth
    exact .fails hreports hboth

/-- Of what ends well nothing has been logged at error level. -/
theorem told {a : α} (h : Ends before after (.ok a)) :
    ∃ blamed, Told blamed [] before after := by
  cases h with
  | answers hresult htold herrors =>
    rcases herrors with rfl | ⟨text, htext⟩
    · exact ⟨_, htold⟩
    · cases htext

end Ends

/-! ### Reading -/

section Reading

variable (inner : Driver W H)

/-- A cursor that cannot be closed is only warned of. -/
theorem told_closeQuietly (query : Query) (opened : Opened (Observed W) H) :
    Told none [] (opened.world, opened.log)
      ((opened.closeQuietly (Observed.driver inner) query).world,
        (opened.closeQuietly (Observed.driver inner) query).log) := by
  have hclose : (Observed.driver inner).close opened.handle opened.world =
      Observed.noteOn .close opened.world.failures
        (inner.close opened.handle opened.world.world) := rfl
  simp only [Opened.closeQuietly, hclose, Observed.noteOn]
  rcases inner.close opened.handle opened.world.world with ⟨err | _, handle, world⟩
  · exact (Told.untidied rfl opened.world world err opened.log).trans
      (Told.logged _ _ [.closeFailed query.name err])
  · exact Told.succeeded opened.world world opened.log

/-- A call on the cursor that fails is reported, and the cursor is closed. -/
theorem ends_abandon (query : Query) {call : DriverCall} (hcall : call = .fetch ∨ call = .column)
    (opened : Opened (Observed W) H) (handle : H) (world : W) (err : DriverError) :
    let abandoned := Opened.abandon (Observed.driver inner) query err
      ⟨handle, ⟨world, opened.world.failures ++ [(call, err)]⟩, opened.log⟩
    Ends (opened.world, opened.log) (abandoned.world, abandoned.log)
      (.error (.statement query.name) : Except Error α) := by
  have htidies : call.tidies = false := by
    rcases hcall with rfl | rfl <;> rfl
  have hlogged := (Told.failed htidies opened.world world err opened.log).trans
    (Told.logged _ _ (Event.ofError query.name err))
  rw [Event.errors_ofError] at hlogged
  have hclosed := hlogged.trans (told_closeQuietly inner query ⟨handle, _, _⟩)
  rw [List.nil_append, List.append_nil] at hclosed
  exact .fails (.read query hcall err) hclosed

theorem ends_run {reading : Reading α} (hreading : reading.IsBlameless) (query : Query)
    (opened : Opened (Observed W) H) :
    Ends (opened.world, opened.log)
      ((reading.run (Observed.driver inner) query opened).2.world,
        (reading.run (Observed.driver inner) query opened).2.log)
      (reading.run (Observed.driver inner) query opened).1 := by
  induction reading generalizing opened with
  | stop result => exact .answers hreading (.refl _) (.inl rfl)
  | fetch next ih =>
    have hfetch : (Observed.driver inner).fetch opened.handle opened.world =
        Observed.noteOn .fetch opened.world.failures
          (inner.fetch opened.handle opened.world.world) := rfl
    simp only [Reading.run, hfetch, Observed.noteOn]
    rcases inner.fetch opened.handle opened.world.world with ⟨err | more, handle, world⟩
    · exact ends_abandon inner query (.inl rfl) opened handle world err
    · exact (ih more (hreading more) ⟨handle, _, opened.log⟩).preceded
        (Told.succeeded opened.world world opened.log)
  | column index next ih =>
    have hcolumn : (Observed.driver inner).column index opened.handle opened.world =
        Observed.noteOn .column opened.world.failures
          (inner.column index opened.handle opened.world.world) := rfl
    simp only [Reading.run, hcolumn, Observed.noteOn]
    rcases inner.column index opened.handle opened.world.world with ⟨err | value, handle, world⟩
    · exact ends_abandon inner query (.inr rfl) opened handle world err
    · exact (ih value (hreading value) ⟨handle, _, opened.log⟩).preceded
        (Told.succeeded opened.world world opened.log)
  | close next ih => exact (ih hreading _).preceded (told_closeQuietly inner query opened)

end Reading

/-! ### Opening and closing connections -/

section Connections

variable (inner : Driver W H)

/-- What becomes of a connection that could not be closed is only warned of. -/
theorem told_tearDown (generation : Nat) (handles : List H) (w : Observed W) :
    Told none [] (w, []) (Live.tearDown (Observed.driver inner) generation handles w) := by
  have hemptied : ∀ w : Observed W, (handles.foldl
      (fun world handle ↦ (Observed.driver inner).discard handle world) w).failures =
        w.failures := by
    induction handles with
    | nil => exact fun _ ↦ rfl
    | cons handle rest ih => exact fun w ↦ ih ((Observed.driver inner).discard handle w)
  have hdisconnect : ∀ w, (Observed.driver inner).disconnect w =
      Observed.note .disconnect w.failures (inner.disconnect w.world) := fun _ ↦ rfl
  have hfailures := hemptied w
  simp only [Live.tearDown, hdisconnect, Observed.note]
  generalize handles.foldl (fun world handle ↦ (Observed.driver inner).discard handle world) w =
    emptied at hfailures ⊢
  rw [hfailures]
  rcases inner.disconnect emptied.world with ⟨err | _, world⟩
  · exact (Told.untidied rfl w world err []).trans
      (Told.logged _ _ [.disconnectFailed generation err])
  · exact Told.succeeded w world []

theorem told_prepareHandles (query : Query) (size : Nat) (w : Observed W) (log : List Event) :
    let prepared := Live.prepareHandles (Observed.driver inner) query size w
    Told (prepared.1.2.map fun err ↦ (.prepare, err)) [] (w, log) (prepared.2, log) := by
  induction size generalizing w with
  | zero => exact .refl _
  | succ size ih =>
    have hprepare : (Observed.driver inner).prepare query w =
        Observed.note .prepare w.failures (inner.prepare query w.world) := rfl
    simp only [Live.prepareHandles, hprepare, Observed.note]
    rcases inner.prepare query w.world with ⟨err | handle, world⟩
    · exact Told.failed rfl w world err log
    · have hrest := (Told.succeeded w world log).trans (ih ⟨world, w.failures ++ []⟩)
      rwa [Option.or_none] at hrest

/-- Why the pools could not be prepared. -/
def Live.Prepared.failure? : Live.Prepared H → Option DriverError
  | .all _ => none
  | .failed _ err _ => some err

theorem told_preparePools (size : Nat) (queries : List Query) (w : Observed W)
    (log : List Event) :
    let prepared := Live.preparePools (Observed.driver inner) size queries w
    Told (prepared.1.failure?.map fun err ↦ (.prepare, err)) [] (w, log) (prepared.2, log) := by
  induction queries generalizing w with
  | nil => exact .refl _
  | cons query rest ih =>
    have hhandles := told_prepareHandles inner query size w log
    rcases hprepared : Live.prepareHandles (Observed.driver inner) query size w with
      ⟨⟨handles, _ | err⟩, w'⟩ <;> rw [hprepared] at hhandles
    · have hrest := hhandles.trans (ih w')
      rw [Option.map_none, Option.or_none] at hrest
      rcases hpools : Live.preparePools (Observed.driver inner) size rest w' with
        ⟨pools | ⟨query', err, more⟩, w''⟩ <;> rw [hpools] at hrest <;>
        simp only [Live.preparePools, hprepared, hpools] <;> exact hrest
    · simp only [Live.preparePools, hprepared]
      exact hhandles

/-- A connection that cannot be built is reported: the connect call or a prepare call has failed. -/
theorem ends_build (target : String) (size generation : Nat) (w : Observed W) :
    let built := Live.build (Observed.driver inner) target size generation w
    Ends (w, []) built.2 built.1 := by
  have hconnect : (Observed.driver inner).connect target w =
      Observed.note .connect w.failures (inner.connect target w.world) := rfl
  simp only [Live.build, hconnect, Observed.note]
  rcases inner.connect target w.world with ⟨err | _, world⟩
  · have hfailed : Told (some (.connect, err)) [] (w, [])
        (⟨world, w.failures ++ [(.connect, err)]⟩, []) := .failed rfl w world err []
    have htold := hfailed.trans (Told.logged _ _ (Event.ofError "connect" err))
    rw [Event.errors_ofError] at htold
    exact .fails (.connect inner.name err) htold
  · have hpools := (Told.succeeded w world []).trans
      (told_preparePools inner size Query.all ⟨world, w.failures ++ []⟩ [])
    simp only [Observed.failed]
    rcases hprepared : Live.preparePools (Observed.driver inner) size Query.all
        ⟨world, w.failures ++ []⟩ with ⟨pools | ⟨query, err, handles⟩, w'⟩ <;>
      rw [hprepared, Option.or_none] at hpools
    · exact .answers (blameless_ok _) hpools (.inl rfl)
    · have htold := hpools.trans (Told.logged w' [] (Event.ofError query.name err))
      rw [Event.errors_ofError] at htold
      exact (Ends.fails (.prepare query err) htold).tidied
        ((told_tearDown inner generation handles w').withLog _)

end Connections

namespace Connection

variable {inner : Driver W H} {c c' : Connection (Observed W) H}

/-- What a connection shows: its world and its log. -/
def shown (c : Connection (Observed W) H) : Observed W × List Event := (c.world, c.log)

theorem told_disconnect (inner : Driver W H) (c : Connection (Observed W) H) :
    Told none [] c.shown (disconnect (Observed.driver inner) c).shown := by
  unfold disconnect
  split
  · exact .refl _
  · rename_i live hlive
    exact (told_tearDown inner live.generation live.pools.handles c.world).withLog c.log

theorem ends_openNext (inner : Driver W H) (c : Connection (Observed W) H) :
    let opened := openNext (Observed.driver inner) c
    Ends c.shown opened.2.shown opened.1 := by
  have hbuild := ends_build inner c.target c.poolSize (c.lastGeneration + 1) c.world
  have hlogged := Told.logged c.world c.log [.reconnecting (c.lastGeneration + 1)]
  unfold openNext
  dsimp only
  rcases hbuilt : Live.build (Observed.driver inner) c.target c.poolSize (c.lastGeneration + 1)
    c.world with ⟨err | live, w, events⟩ <;> rw [hbuilt] at hbuild
  · cases hbuild with
    | answers hresult htold herrors =>
      cases (hresult err rfl).symm.trans (isFromDriver_build (congrArg Prod.fst hbuilt))
    | fails hreports htold =>
      exact (Ends.fails hreports (htold.withLog _)).preceded hlogged
  · obtain ⟨blamed, htold⟩ := hbuild.told
    exact (Ends.answers (blameless_ok ()) (htold.withLog _) (.inl rfl)).preceded hlogged

/-- A connection that could not be opened again has been reported. -/
theorem ends_reconnectIfCurrent (inner : Driver W H) (c : Connection (Observed W) H)
    (generation : Nat) :
    let reconnected := reconnectIfCurrent (Observed.driver inner) generation c
    Ends c.shown reconnected.2.shown reconnected.1 := by
  unfold reconnectIfCurrent
  split
  · split
    · exact (ends_openNext inner _).preceded (told_disconnect inner c)
    · exact .answers (blameless_ok ()) (.refl _) (.inl rfl)
  · exact ends_openNext inner c

theorem ends_reconnectIfDisconnected (inner : Driver W H) (c : Connection (Observed W) H) :
    let reconnected := reconnectIfDisconnected (Observed.driver inner) c
    Ends c.shown reconnected.2.shown reconnected.1 := by
  unfold reconnectIfDisconnected
  split
  · exact .answers (blameless_ok ()) (.refl _) (.inl rfl)
  · exact ends_openNext inner c

/-! ### Performing a request -/

/-- What a pass shows: how it ends, or that a bind or an execute has failed and is not reported
yet. -/
def Attempt.Shows (c : Connection (Observed W) H) : Attempt (Observed W) H α → Prop
  | .done result c' => Ends c.shown c'.shown result
  | .failed _ step err c' => Told (some (step.call, err)) [] c.shown c'.shown
  | .unconnected => c.live = none

theorem shows_attempt {request : Request α} (hrequest : request.IsBlameless)
    (c : Connection (Observed W) H) : (attempt (Observed.driver inner) request c).Shows c := by
  have hbind : ∀ handle, (Observed.driver inner).bind request.params handle c.world =
      Observed.noteOn .bind c.world.failures (inner.bind request.params handle c.world.world) :=
    fun _ ↦ rfl
  have hexecute : ∀ handle w, (Observed.driver inner).execute handle w =
      Observed.noteOn .execute w.failures (inner.execute handle w.world) := fun _ _ ↦ rfl
  unfold attempt
  dsimp only
  split
  · assumption
  split
  · exact .answers (blameless_error rfl) (.refl _) (.inl rfl)
  split
  · exact .answers (blameless_error rfl) (.refl _) (.inl rfl)
  · exact .answers (blameless_error rfl) (Told.logged _ _ [_]) (.inr ⟨_, rfl⟩)
  rename_i live hlive pool hpool handle rest hacquire
  simp only [hbind, Observed.noteOn]
  rcases inner.bind request.params handle c.world.world with ⟨err | _, handle, world⟩
  · exact (Told.failed rfl c.world world err c.log).trans
      (told_closeQuietly inner request.query ⟨handle, _, c.log⟩)
  have hbound := Told.succeeded c.world world c.log
  simp only [hexecute, Observed.failed, Observed.noteOn]
  rcases inner.execute handle world with ⟨err | _, handle, world'⟩
  · have hexecute : DriverCall.execute.tidies = false := rfl
    exact (hbound.trans (Told.failed hexecute _ world' err c.log)).trans
      (told_closeQuietly inner request.query ⟨handle, _, c.log⟩)
  · have hexecuted := hbound.trans (Told.succeeded _ world' c.log)
    have hread := ends_run inner (hrequest ((Observed.driver inner).rowsLeft handle + 1))
      request.query ⟨handle, ⟨world', c.world.failures ++ [] ++ []⟩, c.log⟩
    exact (hread.tidied (told_closeQuietly inner request.query _)).preceded hexecuted

/-- What performing a request shows: how it ends; or there was no connection and no retry is left
to open one, and then nothing has happened. -/
inductive Accounts (budget : Nat) (c : Connection (Observed W) H) :
    Except Error α × Connection (Observed W) H → Prop
  | ends {result : Except Error α} {c' : Connection (Observed W) H}
      (h : Ends c.shown c'.shown result) : Accounts budget c (result, c')
  | unconnected (hbudget : budget = 0) (hlive : c.live = none) :
      Accounts budget c (.error notConnected, c)

theorem live_of_openNext {driver : Driver W H} {c : Connection W H}
    (h : (openNext driver c).1 = .ok ()) : (openNext driver c).2.live ≠ none := by
  unfold openNext at h ⊢
  dsimp only at h ⊢
  split at h
  · exact Option.some_ne_none _
  · cases h

theorem live_of_reconnectIfCurrent {driver : Driver W H} {c : Connection W H} {generation : Nat}
    (h : (reconnectIfCurrent driver generation c).1 = .ok ()) :
    (reconnectIfCurrent driver generation c).2.live ≠ none := by
  unfold reconnectIfCurrent at h ⊢
  split
  · rename_i live hlive
    split
    · rename_i hcurrent
      simp only [hlive, if_pos hcurrent] at h
      exact live_of_openNext h
    · rw [hlive]
      exact Option.some_ne_none live
  · rename_i hlive
    simp only [hlive] at h
    exact live_of_openNext h

theorem live_of_reconnectIfDisconnected {driver : Driver W H} {c : Connection W H}
    (h : (reconnectIfDisconnected driver c).1 = .ok ()) :
    (reconnectIfDisconnected driver c).2.live ≠ none := by
  unfold reconnectIfDisconnected at h ⊢
  split
  · rename_i live hlive
    rw [hlive]
    exact Option.some_ne_none live
  · rename_i hlive
    simp only [hlive] at h
    exact live_of_openNext h

variable {request : Request α} {budget retries : Nat}

/-- After a failure that is retried, a request shows what it shows from there on. -/
theorem accounts_resume {between : Connection (Observed W) H}
    {blamed : Option (DriverCall × DriverError)} (hbefore : Told blamed [] c.shown between.shown)
    {reconnected : Except Error Unit × Connection (Observed W) H}
    (hreconnected : Ends between.shown reconnected.2.shown reconnected.1)
    (hlive : reconnected.1 = .ok () → reconnected.2.live ≠ none)
    (ih : Accounts budget reconnected.2
      (perform (Observed.driver inner) request budget retries reconnected.2)) :
    Accounts (budget + 1) c
      (resume (Observed.driver inner) request budget retries reconnected) := by
  obtain ⟨err | _, c'⟩ := reconnected
  · refine .ends (Ends.preceded ?_ hbefore)
    cases hreconnected with
    | answers hresult htold herrors =>
      exact .answers (blameless_error (hresult err rfl)) htold
        (herrors.imp_right fun ⟨text, htext⟩ ↦ ⟨text, congrArg _ (Except.error.inj htext)⟩)
    | fails hreports htold => exact .fails hreports htold
  · obtain ⟨later, htold⟩ := hreconnected.told
    dsimp only [resume]
    generalize hended : perform (Observed.driver inner) request budget retries c' = ended at ih ⊢
    cases ih with
    | ends h => exact .ends ((h.preceded htold).preceded hbefore)
    | unconnected hbudget hnone => exact absurd hnone (hlive rfl)

/-- A failure that is not retried is reported. -/
theorem accounts_giveUp {generation : Nat} {step : Step} {err : DriverError}
    (hshows : (Attempt.failed (α := α) generation step err c').Shows c) (query : Query) :
    Accounts (α := α) budget c
      (.error (.statement query.name), giveUp query step retries err c') := by
  have htold := hshows.trans (Told.logged c'.world c'.log
    (Event.ofError query.name err ++ [.statementFailed query.name step retries]))
  rw [Event.errors_append, Event.errors_ofError, List.nil_append, Option.none_or,
    ← List.append_assoc] at htold
  refine .ends (.fails (.statement query step retries err) ?_)
  rw [shown, giveUp]
  exact htold

theorem accounts_perform (hrequest : request.IsBlameless) (budget retries : Nat)
    (c : Connection (Observed W) H) :
    Accounts budget c (perform (Observed.driver inner) request budget retries c) := by
  induction budget generalizing c retries with
  | zero =>
    have hshows : (attempt (Observed.driver inner) request c).Shows c := shows_attempt hrequest c
    cases hattempt : attempt (Observed.driver inner) request c with
    | done result c' =>
      rw [hattempt] at hshows
      rw [perform_of_done hattempt]
      exact .ends hshows
    | failed generation step err c' =>
      rw [hattempt] at hshows
      rw [perform_of_final hattempt (.inl rfl)]
      exact accounts_giveUp hshows request.query
    | unconnected =>
      rw [hattempt] at hshows
      rw [perform_zero_of_closed hshows]
      exact .unconnected rfl hshows
  | succ budget ih =>
    have hshows : (attempt (Observed.driver inner) request c).Shows c := shows_attempt hrequest c
    cases hattempt : attempt (Observed.driver inner) request c with
    | done result c' =>
      rw [hattempt] at hshows
      rw [perform_of_done hattempt]
      exact .ends hshows
    | failed generation step err c' =>
      rw [hattempt] at hshows
      by_cases hlink : err.isLinkFailure = true
      · rw [perform_of_linkFailure hattempt hlink]
        have hnoted := Told.logged c'.world c'.log
          [.linkFailed request.query.name step (retries + 1)]
        exact accounts_resume (hshows.trans hnoted) (ends_reconnectIfCurrent inner _ generation)
          live_of_reconnectIfCurrent (ih _ _)
      · rw [Bool.not_eq_true] at hlink
        rw [perform_of_final hattempt (.inr hlink)]
        exact accounts_giveUp hshows request.query
    | unconnected =>
      rw [perform_of_unconnected hattempt]
      exact accounts_resume
        (Told.logged c.world c.log [.notConnected request.query.name (retries + 1)])
        (ends_reconnectIfDisconnected inner _) live_of_reconnectIfDisconnected (ih _ _)

end Connection

/-! ### Calls -/

namespace Backend

variable {inner : Driver W H} {backend after : Backend (Observed W) H} {own : List Event}
  {met : Failures}

/-- What a backend has logged, and the failures it has met, on the way to a result. -/
structure Reported (backend after : Backend (Observed W) H) (own : List Event) (met : Failures)
    (result : Except Error α) : Prop where
  log : after.connection.log = backend.connection.log ++ own
  failures : after.connection.world.failures = backend.connection.world.failures ++ met
  /-- Of a result, or that nothing or a missing value was found, nothing is logged as an error. -/
  quiet : (∀ err, result = .error err → err.isNotFound = true) → Event.errors own = []
  /-- A failure of the driver is the last that has been met, and has been reported; or there is no
  connection and no retry to open one, and then nothing has happened. -/
  loud : ∀ err, result = .error err → err.isFromDriver = true →
    (∃ call failure, lastFailure met = some (call, failure) ∧
        Reports err call failure (Event.errors own) ∧
        (Event.errors own = [] ↔ failure.records = [] ∧ call ≠ .bind ∧ call ≠ .execute)) ∨
      err = Connection.notConnected ∧ backend.options.maxRetries = 0 ∧
        backend.connection.live = none ∧ own = [] ∧ met = []

/-- Where nothing has been logged before, a call has logged all there is. -/
theorem Reported.own_eq {result : Except Error α} (h : Reported backend after own met result)
    {events : List Event} (hbefore : backend.connection.log = [])
    (hafter : after.connection.log = events) : own = events := by
  have hlog := h.log
  rw [hbefore, hafter, List.nil_append] at hlog
  exact hlog.symm

/-- A call that is over before it begins. -/
theorem reported_of_refused {result : Except Error α} (h : Blameless result) :
    Reported backend backend [] [] result where
  log := (List.append_nil _).symm
  failures := (List.append_nil _).symm
  quiet _ := rfl
  loud err herr hdriver := by cases (h err herr).symm.trans hdriver

theorem reported_of_accounts {result : Except Error α} {c : Connection (Observed W) H}
    (h : Connection.Accounts backend.options.maxRetries backend.connection (result, c)) :
    ∃ own met, Reported backend { backend with connection := c } own met result := by
  cases h with
  | ends hends =>
    cases hends with
    | answers hresult htold herrors =>
      obtain ⟨⟨met, hmet, -⟩, ⟨own, hlog, rfl⟩⟩ := htold
      refine ⟨own, met, hlog, hmet, fun hquiet ↦ ?_, fun err herr hdriver ↦ ?_⟩
      · rcases herrors with hnone | ⟨text, rfl⟩
        · exact hnone
        · cases hquiet _ rfl
      · cases (hresult err herr).symm.trans hdriver
    | fails hreports htold =>
      obtain ⟨⟨met, hmet, hlast⟩, ⟨own, hlog, rfl⟩⟩ := htold
      refine ⟨own, met, hlog, hmet, fun hquiet ↦ ?_, fun err herr hdriver ↦ ?_⟩
      · cases hreports.isNotFound.symm.trans (hquiet _ rfl)
      · cases herr
        exact .inl ⟨_, _, hlast, hreports, hreports.eq_nil_iff⟩
  | unconnected hbudget hlive =>
    refine ⟨[], [], (List.append_nil _).symm, (List.append_nil _).symm, fun _ ↦ rfl, ?_⟩
    intro err herr hdriver
    cases herr
    exact .inr ⟨rfl, hbudget, hlive, rfl, rfl⟩

theorem reported_call (inner : Driver W H) (op : Operation) (backend : Backend (Observed W) H) :
    ∃ own met, Reported backend
      ((Backend.call (Observed.driver inner) op.form.request).run backend).2 own met
      ((Backend.call (Observed.driver inner) op.form.request).run backend).1 := by
  cases hrequest : op.form.request backend.reader with
  | error err =>
    obtain ⟨text, rfl⟩ := op.exists_of_refused backend.reader hrequest
    rw [Backend.run_call_of_error hrequest]
    exact ⟨[], [], reported_of_refused (blameless_error rfl)⟩
  | ok request =>
    rw [Backend.run_call_of_ok hrequest]
    exact reported_of_accounts (Connection.accounts_perform
      (op.ensures_blameless backend.reader request hrequest) backend.options.maxRetries 0
      backend.connection)

/-- Once its rows have been read, an operation answers or has not found anything. -/
theorem eq_notFound_of_answer {op : Operation} {rows : op.form.Rows} {err : Error}
    (h : op.form.answer rows = .error err) : err = .notFound := by
  cases op with
  | lookupObjects | objectsWithProperty | objectsMatching | lookupBundles =>
    simp only [Operation.form, Operation.Form.finding] at h
    split at h
    · exact (Except.error.inj h).symm
    · cases h
  | _ => cases h

/-- Answering reports nothing. -/
theorem Reported.answer {op : Operation} {result : Except Error op.form.Rows}
    (h : Reported backend after own met result) :
    Reported backend after own met (result.bind op.form.answer) where
  log := h.log
  failures := h.failures
  quiet hquiet := by
    refine h.quiet ?_
    rintro err rfl
    exact hquiet err rfl
  loud err herr hdriver := by
    cases result with
    | error err' => exact h.loud err (congrArg Except.error (Except.error.inj herr)) hdriver
    | ok rows =>
      rw [eq_notFound_of_answer herr] at hdriver
      cases hdriver

end Backend

/-! ### Operations -/

namespace Operation

variable {C : Type}

/-- The rows that an operation hands on once its own call has returned. -/
def handsOn (op : Operation) : Except Error op.form.Rows → List Listed
  | .ok rows => op.form.listed rows
  | .error _ => []

/-- With a callback that never fails an operation answers as its own call does, and after that call
only the callback does anything. -/
theorem run_of_call_ok (op : Operation) {driver : Driver W H} {backend after : Backend W H}
    {callback : Listed → Action (C × Backend W H) Unit}
    (hcallback : ∀ row s, ((callback row).run s).1 = .ok ()) (c : C)
    {result : Except Error op.form.Rows}
    (hcall : (Backend.call driver op.form.request).run backend = (result, after)) :
    (op.run driver callback).run (c, backend) =
      (result.bind op.form.answer,
        ((deliverRows callback (op.handsOn result)).run (c, after)).2) := by
  have hrows : ∀ (rows : List Listed) (s : C × Backend W H),
      ((deliverRows callback rows).run s).1 = .ok () := by
    intro rows
    induction rows with
    | nil => exact fun _ ↦ rfl
    | cons row rest ih =>
      intro s
      have hrow := hcallback row s
      rw [deliverRows, Action.run_bind]
      rcases hran : (callback row).run s with ⟨err | _, s'⟩ <;> rw [hran] at hrow
      · cases hrow
      · exact ih s'
  have hsecond : (Action.onSecond (Backend.call driver op.form.request)).run (c, backend) =
      (result, (c, after)) := by
    change Backend.call driver op.form.request backend = _ at hcall
    simp only [Action.run, Action.onSecond, hcall]
  rw [run_eq_form, Form.run, Action.run_bind, hsecond]
  cases result with
  | error err => rfl
  | ok rows =>
    have hdone := hrows (op.form.listed rows) (c, after)
    dsimp only [handsOn]
    rw [Action.run_bind]
    rcases hran : (deliverRows callback (op.form.listed rows)).run (c, after) with
      ⟨err | _, last⟩ <;> rw [hran] at hdone
    · cases hdone
    · rfl

/-- An operation with a callback that never fails logs nothing at error level of its own if it
answers, or finds nothing or a missing value. If it ends with a failure of the driver, then what it
logs at error level are the records of the last failure met, in order, and for a bind or an execute
that the statement has failed; so nothing is logged if that failure has no records and was met in
another call, or if there was no connection and no retry to open one. After its own call only the
callback does anything. -/
theorem failures_reported (inner : Driver W H) (op : Operation)
    {callback : Listed → Action (C × Backend (Observed W) H) Unit}
    (hcallback : ∀ row s, ((callback row).run s).1 = .ok ()) (c : C)
    (backend : Backend (Observed W) H) :
    let driver := Observed.driver inner
    let called := ((Backend.call driver op.form.request).run backend).2
    let ran := (op.run driver callback).run (c, backend)
    ∃ own met, Backend.Reported backend called own met ran.1 ∧
      ∃ rows, ran.2 = ((deliverRows callback rows).run (c, called)).2 := by
  intro driver called ran
  obtain ⟨own, met, hreported⟩ := Backend.reported_call inner op backend
  have hran : ran = _ := op.run_of_call_ok hcallback c rfl
  rw [hran]
  exact ⟨own, met, hreported.answer, _, rfl⟩

/-! ### Rows that cannot be read -/

open Relational (Statement World)

/-- The first backend on a file, where a fetch is planned to fail. -/
def unreadable (failure : DriverError) : Backend (Observed (Faulty World)) Statement :=
  (Backend.start (Observed.driver FileSite.named.driver) FileSite.named.text {} ⟨0, none⟩
    ⟨FileSite.untouched.replan fun point ↦ if point = .fetch then [failure] else [], []⟩).2

/-- A fetch that fails with two records is reported by both. -/
theorem unread_rows_reported :
    let failure : DriverError := ⟨[⟨"HY000", 7, "first"⟩, ⟨"HY001", 8, "second"⟩]⟩
    let driver := Observed.driver FileSite.named.driver
    let called := ((Backend.call driver (allObjects none).form.request).run (unreadable failure)).2
    let ran := ((allObjects none).run driver (passive ignore)).run ((), unreadable failure)
    ran.1 = .error (.statement "GetAllObjects") ∧
      ∃ own met, Backend.Reported (unreadable failure) called own met ran.1 ∧
        own = [.record "GetAllObjects" 0 ⟨"HY000", 7, "first"⟩,
          .record "GetAllObjects" 1 ⟨"HY001", 8, "second"⟩] := by
  intro failure driver called ran
  have hcallback : ∀ row (s : Unit × Backend (Observed (Faulty World)) Statement),
      ((passive ignore row).run s).1 = .ok () := fun _ _ ↦ rfl
  obtain ⟨own, met, hreported, -⟩ := failures_reported FileSite.named.driver (allObjects none)
    hcallback () (unreadable failure)
  exact ⟨by decide +kernel, own, met, hreported,
    hreported.own_eq (by decide +kernel) (by decide +kernel)⟩

/-- A fetch that fails without a record makes a listing fail, and nothing is reported of it. -/
theorem silent_failure :
    ¬ ∀ (inner : Driver (Faulty World) Statement) (op : Operation)
      (backend : Backend (Observed (Faulty World)) Statement) (name : String),
      let ran := (op.run (Observed.driver inner) (passive ignore)).run ((), backend)
      ran.1 = .error (.statement name) →
        ∃ event ∈ ran.2.2.connection.log.drop backend.connection.log.length,
          event.level = .error := by
  intro hclaim
  obtain ⟨event, hevent, -⟩ := hclaim FileSite.named.driver (allObjects none) (unreadable ⟨[]⟩)
    "GetAllObjects" (by decide +kernel)
  have hnone : (((allObjects none).run (Observed.driver FileSite.named.driver)
      (passive ignore)).run ((), unreadable ⟨[]⟩)).2.2.connection.log = [] := by decide +kernel
  rw [hnone, List.drop_nil] at hevent
  exact List.not_mem_nil hevent

end Operation

end Provenance
