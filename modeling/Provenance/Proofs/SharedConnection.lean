import Provenance.Request

/-!
A connection that many callers share. A pass over a request goes on under a guard that any number of
callers may hold at once; a rebuild needs the connection to itself. What a caller does between two
calls of the driver is a step of its own, and the steps of all callers interleave (`Shared.Step`).
The steps of a caller that is left alone are those of `Connection.attempt` (`turns_attempt`).
-/

set_option autoImplicit false
set_option relaxedAutoImplicit false

namespace Provenance

/-- The pool that is put under a key last is the one that counts. -/
theorem Pools.insert_insert {K H : Type} [DecidableEq K] (pools : Pools K H) (key : K)
    (pool pool' : Pool H) : (pools.insert key pool).insert key pool' = pools.insert key pool' := by
  obtain ⟨entries⟩ := pools
  refine congrArg Pools.mk ?_
  induction entries with
  | nil => exact if_pos rfl
  | cons entry rest ih =>
    change put key pool' (put key pool (entry :: rest)) = put key pool' (entry :: rest)
    by_cases hkey : entry.1 = key
    · simp only [put, if_pos hkey, if_true]
    · simp only [put, if_neg hkey]
      exact congrArg (entry :: ·) ih

namespace Connection

variable {W H : Type}

/-! ### Callers and their steps -/

/-- A request with the retries that are left and those that are behind. -/
structure Call where
  Result : Type
  request : Request Result
  budget : Nat
  retries : Nat

namespace Call

/-- The call with one more retry behind it. -/
def next (call : Call) : Call :=
  { call with budget := call.budget - 1, retries := call.retries + 1 }

abbrev query (call : Call) : Query := call.request.query

end Call

/-- What a pass over a request comes to. -/
inductive Outcome (α : Type) where
  | done (result : Except Error α)
  | failed (step : Step) (err : DriverError)

/-- How far a caller has got. In a pass it knows the generation of the connection. -/
inductive Caller (H : Type) where
  | idle
  /-- It is about to start a pass. -/
  | calling (call : Call)
  /-- It is about to take a handle. -/
  | entered (call : Call) (generation : Nat)
  /-- It is about to bind. -/
  | holding (call : Call) (generation : Nat) (handle : H)
  /-- It is about to execute. -/
  | bound (call : Call) (generation : Nat) (handle : H)
  | reading (call : Call) (generation : Nat) (rest : Reading call.Result) (handle : H)
  /-- It is about to close the cursor. -/
  | closing (call : Call) (generation : Nat) (outcome : Outcome call.Result) (handle : H)
  /-- It is about to put the handle back. -/
  | returning (call : Call) (generation : Nat) (outcome : Outcome call.Result) (handle : H)
  /-- It is about to end the pass. -/
  | leaving (call : Call) (generation : Nat) (outcome : Outcome call.Result)
  /-- It has met a dropped link and wants the connection rebuilt. -/
  | broken (call : Call) (generation : Nat)
  /-- It has found no connection and wants one. -/
  | stranded (call : Call)
  | answered (call : Call) (result : Except Error call.Result)
  /-- It has been asked to reconnect and has looked up the generation, zero if there was none. -/
  | renewing (generation : Nat)

namespace Caller

/-- The caller is in a pass, and the connection may not be rebuilt. -/
def isInside : Caller H → Bool
  | entered .. | holding .. | bound .. | reading .. | closing .. | returning .. | leaving .. => true
  | _ => false

/-- The generation of the connection that a caller has seen last, as far as it still matters. -/
def saw : Caller H → Option Nat
  | entered _ generation | holding _ generation _ | bound _ generation _
  | reading _ generation _ _ | closing _ generation _ _ | returning _ generation _ _
  | leaving _ generation _ | broken _ generation => some generation
  | renewing generation => if generation = 0 then none else some generation
  | _ => none

end Caller

/-- The connection with a pool put back in its place. -/
def setPool (c : Connection W H) (live : Live H) (query : Query) (pool : Pool H) :
    Connection W H :=
  { c with live := some { live with pools := live.pools.insert query pool } }

/-- The connection after a call on an executed statement. -/
def setOpened (c : Connection W H) (opened : Opened W H) : Connection W H :=
  { c with world := opened.world, log := opened.log }

/-- A step of one caller that does not rebuild the connection. -/
inductive Turn (driver : Driver W H) (c : Connection W H) :
    Caller H → Connection W H → Caller H → Prop
  | calls (call : Call) : Turn driver c .idle c (.calling call)
  | asks : Turn driver c .idle c (.renewing ((c.live.map (·.generation)).getD 0))
  | enters {live : Live H} (call : Call) (hlive : c.live = some live) :
      Turn driver c (.calling call) c (.entered call live.generation)
  | strands (call : Call) (hlive : c.live = none) (hbudget : call.budget ≠ 0) :
      Turn driver c (.calling call)
        { c with log := c.log ++ [.notConnected call.query.name (call.retries + 1)] }
        (.stranded call.next)
  | refused (call : Call) (hlive : c.live = none) (hbudget : call.budget = 0) :
      Turn driver c (.calling call) c (.answered call (.error notConnected))
  | lacksPool {live : Live H} (call : Call) (generation : Nat) (hlive : c.live = some live)
      (hpool : live.pools.get? call.query = none) :
      Turn driver c (.entered call generation) c
        (.leaving call generation
          (.done (.error (.internal ("no statement pool for " ++ call.query.name)))))
  | takes {live : Live H} {pool pool' : Pool H} {handle : H} (call : Call) (generation : Nat)
      (hlive : c.live = some live) (hpool : live.pools.get? call.query = some pool)
      (hacquire : pool.acquire = .taken handle pool') :
      Turn driver c (.entered call generation) (c.setPool live call.query pool')
        (.holding call generation handle)
  | misses {live : Live H} {pool pool' : Pool H} (call : Call) (generation : Nat)
      (hlive : c.live = some live) (hpool : live.pools.get? call.query = some pool)
      (hacquire : pool.acquire = .refused pool') :
      Turn driver c (.entered call generation)
        { c.setPool live call.query pool' with log := c.log ++ [.poolEmpty pool'.name] }
        (.leaving call generation
          (.done (.error (.internal ("statement pool " ++ pool'.name ++ " has no free handle")))))
  | binds {handle' : H} {world : W} (call : Call) (generation : Nat) (handle : H)
      (hbind : driver.bind call.request.params handle c.world = (.ok (), handle', world)) :
      Turn driver c (.holding call generation handle) { c with world }
        (.bound call generation handle')
  | bindFails {err : DriverError} {handle' : H} {world : W} (call : Call) (generation : Nat)
      (handle : H)
      (hbind : driver.bind call.request.params handle c.world = (.error err, handle', world)) :
      Turn driver c (.holding call generation handle) { c with world }
        (.closing call generation (.failed .bind err) handle')
  | executes {handle' : H} {world : W} (call : Call) (generation : Nat) (handle : H)
      (hexecute : driver.execute handle c.world = (.ok (), handle', world)) :
      Turn driver c (.bound call generation handle) { c with world }
        (.reading call generation (call.request.read (driver.rowsLeft handle' + 1)) handle')
  | executeFails {err : DriverError} {handle' : H} {world : W} (call : Call) (generation : Nat)
      (handle : H) (hexecute : driver.execute handle c.world = (.error err, handle', world)) :
      Turn driver c (.bound call generation handle) { c with world }
        (.closing call generation (.failed .execute err) handle')
  | fetches {more : Bool} {handle' : H} {world : W} (call : Call) (generation : Nat)
      (next : Bool → Reading call.Result) (handle : H)
      (hfetch : driver.fetch handle c.world = (.ok more, handle', world)) :
      Turn driver c (.reading call generation (.fetch next) handle) { c with world }
        (.reading call generation (next more) handle')
  | fetchFails {err : DriverError} {handle' : H} {world : W} (call : Call) (generation : Nat)
      (next : Bool → Reading call.Result) (handle : H)
      (hfetch : driver.fetch handle c.world = (.error err, handle', world)) :
      Turn driver c (.reading call generation (.fetch next) handle)
        { c with world, log := c.log ++ Event.ofError call.query.name err }
        (.reading call generation (.close (.stop (.error (.statement call.query.name)))) handle')
  | reads {value : Value} {handle' : H} {world : W} (call : Call) (generation index : Nat)
      (next : Value → Reading call.Result) (handle : H)
      (hcolumn : driver.column index handle c.world = (.ok value, handle', world)) :
      Turn driver c (.reading call generation (.column index next) handle) { c with world }
        (.reading call generation (next value) handle')
  | readFails {err : DriverError} {handle' : H} {world : W} (call : Call) (generation index : Nat)
      (next : Value → Reading call.Result) (handle : H)
      (hcolumn : driver.column index handle c.world = (.error err, handle', world)) :
      Turn driver c (.reading call generation (.column index next) handle)
        { c with world, log := c.log ++ Event.ofError call.query.name err }
        (.reading call generation (.close (.stop (.error (.statement call.query.name)))) handle')
  | closesEarly (call : Call) (generation : Nat) (next : Reading call.Result) (handle : H) :
      Turn driver c (.reading call generation (.close next) handle)
        (c.setOpened (Opened.closeQuietly driver call.query ⟨handle, c.world, c.log⟩))
        (.reading call generation next
          (Opened.closeQuietly driver call.query ⟨handle, c.world, c.log⟩).handle)
  | stops (call : Call) (generation : Nat) (result : Except Error call.Result) (handle : H) :
      Turn driver c (.reading call generation (.stop result) handle) c
        (.closing call generation (.done result) handle)
  | closes (call : Call) (generation : Nat) (outcome : Outcome call.Result) (handle : H) :
      Turn driver c (.closing call generation outcome handle)
        (c.setOpened (Opened.closeQuietly driver call.query ⟨handle, c.world, c.log⟩))
        (.returning call generation outcome
          (Opened.closeQuietly driver call.query ⟨handle, c.world, c.log⟩).handle)
  | returns {live : Live H} {pool : Pool H} (call : Call) (generation : Nat)
      (outcome : Outcome call.Result) (handle : H) (hlive : c.live = some live)
      (hpool : live.pools.get? call.query = some pool) :
      Turn driver c (.returning call generation outcome handle)
        (c.setPool live call.query (pool.release handle)) (.leaving call generation outcome)
  | ends (call : Call) (generation : Nat) (result : Except Error call.Result) :
      Turn driver c (.leaving call generation (.done result)) c (.answered call result)
  | fails (call : Call) (generation : Nat) (step : Step) (err : DriverError)
      (hfinal : call.budget = 0 ∨ err.isLinkFailure = false) :
      Turn driver c (.leaving call generation (.failed step err))
        (giveUp call.query step call.retries err c)
        (.answered call (.error (.statement call.query.name)))
  | breaks (call : Call) (generation : Nat) (step : Step) (err : DriverError)
      (hbudget : call.budget ≠ 0) (hlink : err.isLinkFailure = true) :
      Turn driver c (.leaving call generation (.failed step err))
        { c with log := c.log ++ [.linkFailed call.query.name step (call.retries + 1)] }
        (.broken call.next generation)
  | rests (call : Call) (result : Except Error call.Result) :
      Turn driver c (.answered call result) c .idle

/-! ### Rebuilds -/

/-- What a caller asks of a connection that it has to itself. -/
inductive Wish where
  /-- That the connection of this generation be rebuilt, if it is still there. -/
  | current (generation : Nat)
  /-- That there be a connection. -/
  | connected
deriving DecidableEq, Repr

def Wish.grant (driver : Driver W H) (c : Connection W H) :
    Wish → Except Error Unit × Connection W H
  | current generation => reconnectIfCurrent driver generation c
  | connected => reconnectIfDisconnected driver c

namespace Caller

def wish? : Caller H → Option Wish
  | broken _ generation | renewing generation => some (.current generation)
  | stranded _ => some .connected
  | _ => none

/-- How a caller goes on once its wish has been granted. -/
def afterGrant (result : Except Error Unit) : Caller H → Caller H
  | broken call _ | stranded call =>
    match result with
    | .ok () => calling call
    | .error err => answered call (.error err)
  | _ => idle

end Caller

/-- A wish that has been granted, and the connection before and after. -/
structure Rebuild (W H : Type) where
  wish : Wish
  before : Connection W H
  after : Connection W H

namespace Rebuild

/-- The generation of the connection that has been closed. -/
def closed (rebuild : Rebuild W H) : Option Nat :=
  rebuild.before.live.bind fun live ↦
    if rebuild.after.live.map (·.generation) = some live.generation then none
    else some live.generation

/-- The generation of the connection that has been opened. -/
def opened (rebuild : Rebuild W H) : Option Nat :=
  rebuild.after.live.bind fun live ↦
    if rebuild.before.live.map (·.generation) = some live.generation then none
    else some live.generation

end Rebuild

/-- A connection and its callers. -/
structure Shared (W H : Type) where
  connection : Connection W H
  callers : List (Caller H)

namespace Shared

/-- A step of any caller, and the rebuild that it makes, if it makes one. -/
inductive Step (driver : Driver W H) : Shared W H → List (Rebuild W H) → Shared W H → Prop
  | turn {c c' : Connection W H} {caller caller' : Caller H} (before after : List (Caller H))
      (h : Turn driver c caller c' caller') :
      Step driver ⟨c, before ++ caller :: after⟩ [] ⟨c', before ++ caller' :: after⟩
  | rebuilds {caller : Caller H} {wish : Wish} (c : Connection W H)
      (before after : List (Caller H)) (hwish : caller.wish? = some wish)
      (halone : ∀ other ∈ before ++ after, other.isInside = false) :
      Step driver ⟨c, before ++ caller :: after⟩ [⟨wish, c, (wish.grant driver c).2⟩]
        ⟨(wish.grant driver c).2, before ++ caller.afterGrant (wish.grant driver c).1 :: after⟩

/-- Steps lead from one state to another, with these rebuilds on the way. -/
inductive Leads (driver : Driver W H) (start : Shared W H) :
    List (Rebuild W H) → Shared W H → Prop
  | refl : Leads driver start [] start
  | step {history made : List (Rebuild W H)} {s s' : Shared W H}
      (h : Leads driver start history s) (hstep : Step driver s made s') :
      Leads driver start (history ++ made) s'

/-- A connection that nobody uses yet. -/
def start (c : Connection W H) (callers : Nat) : Shared W H := ⟨c, .replicate callers .idle⟩

/-- The generation of the connection, if there is one. -/
def generation? (s : Shared W H) : Option Nat := s.connection.live.map (·.generation)

end Shared

namespace Shared

variable {driver : Driver W H} {history : List (Rebuild W H)}

/-! ### A pass on its own -/

/-- Some steps of one caller while nobody else takes one. -/
inductive Turns (driver : Driver W H) (c : Connection W H) (caller : Caller H) :
    Connection W H → Caller H → Prop
  | refl : Turns driver c caller c caller
  | step {c' c'' : Connection W H} {caller' caller'' : Caller H}
      (h : Turns driver c caller c' caller') (hturn : Turn driver c' caller' c'' caller'') :
      Turns driver c caller c'' caller''

section Alone

variable {c c' c'' : Connection W H} {caller caller' caller'' : Caller H} {call : Call}

theorem Turns.trans (h : Turns driver c caller c' caller')
    (h' : Turns driver c' caller' c'' caller'') : Turns driver c caller c'' caller'' := by
  induction h' with
  | refl => exact h
  | step _ hturn ih => exact ih.step hturn

theorem Turns.head (hturn : Turn driver c caller c' caller')
    (h : Turns driver c' caller' c'' caller'') : Turns driver c caller c'' caller'' :=
  (Turns.refl.step hturn).trans h

theorem Leads.turns {start : Shared W H} {before after : List (Caller H)}
    (h : Leads driver start history ⟨c, before ++ caller :: after⟩)
    (hturns : Turns driver c caller c' caller') :
    Leads driver start history ⟨c', before ++ caller' :: after⟩ := by
  induction hturns with
  | refl => exact h
  | step _ hturn ih =>
    have hstep := ih.step (.turn before after hturn)
    rwa [List.append_nil] at hstep

/-- A reading is taken call by call. -/
theorem turns_read (generation : Nat) {rest : Reading call.Result} {handle : H}
    {result : Except Error call.Result} {opened : Opened W H}
    (h : rest.run driver call.query ⟨handle, c.world, c.log⟩ = (result, opened)) :
    Turns driver c (.reading call generation rest handle) (c.setOpened opened)
      (.closing call generation (.done result) opened.handle) := by
  induction rest generalizing c handle with
  | stop result =>
    cases h
    exact .step .refl (.stops call generation _ handle)
  | fetch next ih =>
    unfold Reading.run at h
    rcases hfetch : driver.fetch handle c.world with ⟨err | more, handle', world⟩
    · rw [hfetch] at h
      cases h
      exact .head (.fetchFails call generation next handle hfetch)
        (.head (.closesEarly call generation _ handle') (.step .refl (.stops call generation _ _)))
    · rw [hfetch] at h
      have hturn := Turn.fetches call generation next handle hfetch
      exact .head hturn (ih more (c := { c with world }) h)
  | column index next ih =>
    unfold Reading.run at h
    rcases hcolumn : driver.column index handle c.world with ⟨err | value, handle', world⟩
    · rw [hcolumn] at h
      cases h
      exact .head (.readFails call generation index next handle hcolumn)
        (.head (.closesEarly call generation _ handle') (.step .refl (.stops call generation _ _)))
    · rw [hcolumn] at h
      have hturn := Turn.reads call generation index next handle hcolumn
      exact .head hturn (ih value (c := { c with world }) h)
  | close next ih =>
    have hturn : Turn driver c (.reading call generation (.close next) handle) _ _ :=
      .closesEarly call generation next handle
    exact .head hturn (ih (c := c.setOpened _) h)

/-- The end of a pass: the cursor is closed and the handle is put back. -/
theorem turns_putBack (driver : Driver W H) (c : Connection W H) (live : Live H) (pool : Pool H)
    (call : Call) (generation : Nat) (outcome : Outcome call.Result) (opened : Opened W H) :
    Turns driver ((c.setPool live call.query pool).setOpened opened)
      (.closing call generation outcome opened.handle)
      (c.putBack live call.query pool (opened.closeQuietly driver call.query))
      (.leaving call generation outcome) := by
  let taken : Live H := { live with pools := live.pools.insert call.query pool }
  let closed : Opened W H := opened.closeQuietly driver call.query
  have hpool : taken.pools.get? call.query = some pool := by
    rw [Pools.get?_insert, if_pos rfl]
  have hclose : Turn driver ((c.setPool live call.query pool).setOpened opened)
      (.closing call generation outcome opened.handle)
      ((c.setPool live call.query pool).setOpened closed)
      (.returning call generation outcome closed.handle) :=
    .closes call generation outcome opened.handle
  have hreturn : Turn driver ((c.setPool live call.query pool).setOpened closed)
      (.returning call generation outcome closed.handle) _ (.leaving call generation outcome) :=
    .returns call generation outcome closed.handle rfl hpool
  have hsame : ((c.setPool live call.query pool).setOpened closed).setPool taken call.query
      (pool.release closed.handle) = c.putBack live call.query pool closed := by
    simp only [setPool, setOpened, putBack, taken, Pools.insert_insert]
  rw [hsame] at hreturn
  exact .head hclose (.step .refl hreturn)

/-- What a caller does with a handle that it has taken, if nobody else takes a step: the outcome is
that of a pass that starts with this handle. -/
theorem turns_holding (driver : Driver W H) (c : Connection W H) (live : Live H) (pool : Pool H)
    (call : Call) (handle : H) :
    (∀ err bound world,
      driver.bind call.request.params handle c.world = (.error err, bound, world) →
      Turns driver (c.setPool live call.query pool) (.holding call live.generation handle)
        (c.putBack live call.query pool
          (Opened.closeQuietly driver call.query ⟨bound, world, c.log⟩))
        (.leaving call live.generation (.failed .bind err))) ∧
    ∀ bound world, driver.bind call.request.params handle c.world = (.ok (), bound, world) →
      (∀ err executed world', driver.execute bound world = (.error err, executed, world') →
        Turns driver (c.setPool live call.query pool) (.holding call live.generation handle)
          (c.putBack live call.query pool
            (Opened.closeQuietly driver call.query ⟨executed, world', c.log⟩))
          (.leaving call live.generation (.failed .execute err))) ∧
      ∀ executed world' result opened, driver.execute bound world = (.ok (), executed, world') →
        (call.request.read (driver.rowsLeft executed + 1)).run driver call.query
          ⟨executed, world', c.log⟩ = (result, opened) →
        Turns driver (c.setPool live call.query pool) (.holding call live.generation handle)
          (c.putBack live call.query pool (opened.closeQuietly driver call.query))
          (.leaving call live.generation (.done result)) := by
  refine ⟨fun err bound world hbind ↦ ?_, fun bound world hbind ↦ ?_⟩
  · have hfail : Turn driver (c.setPool live call.query pool)
        (.holding call live.generation handle) _
        (.closing call live.generation (.failed .bind err) bound) :=
      .bindFails call live.generation handle hbind
    exact .head hfail
      (turns_putBack driver c live pool call live.generation _ ⟨bound, world, c.log⟩)
  · have hbound : Turn driver (c.setPool live call.query pool)
        (.holding call live.generation handle) { c.setPool live call.query pool with world }
        (.bound call live.generation bound) := .binds call live.generation handle hbind
    refine ⟨fun err executed world' hexecute ↦ ?_,
      fun executed world' result opened hexecute hread ↦ ?_⟩
    · have hfail : Turn driver { c.setPool live call.query pool with world }
          (.bound call live.generation bound) _
          (.closing call live.generation (.failed .execute err) executed) :=
        .executeFails call live.generation bound hexecute
      exact .head hbound (.head hfail
        (turns_putBack driver c live pool call live.generation _ ⟨executed, world', c.log⟩))
    · have hexecuted : Turn driver { c.setPool live call.query pool with world }
          (.bound call live.generation bound)
          { c.setPool live call.query pool with world := world' }
          (.reading call live.generation
            (call.request.read (driver.rowsLeft executed + 1)) executed) :=
        .executes call live.generation bound hexecute
      have hreading := turns_read (c := { c.setPool live call.query pool with world := world' })
        live.generation hread
      exact .head hbound (.head hexecuted (hreading.trans
        (turns_putBack driver c live pool call live.generation _ opened)))

/-- A pass that need not wait for a handle takes these steps if nobody else does. -/
theorem turns_attempt {c : Connection W H} {call : Call}
    (hfree : ∀ live pool, c.live = some live → live.pools.get? call.query = some pool →
      pool.acquire ≠ .blocked) :
    (∀ result c', attempt driver call.request c = .done result c' →
        ∃ generation, Turns driver c (.calling call) c'
          (.leaving call generation (.done result))) ∧
      ∀ generation step err c', attempt driver call.request c = .failed generation step err c' →
        Turns driver c (.calling call) c' (.leaving call generation (.failed step err)) := by
  cases hlive : c.live with
  | none =>
    have hnone : attempt driver call.request c = .unconnected := by simp only [attempt, hlive]
    rw [hnone]
    exact ⟨fun _ _ h ↦ (by cases h), fun _ _ _ _ h ↦ (by cases h)⟩
  | some live =>
    have henter : Turn driver c (.calling call) c (.entered call live.generation) :=
      .enters call hlive
    unfold attempt
    simp only [hlive]
    cases hpool : live.pools.get? call.query with
    | none =>
      refine ⟨fun result c' h ↦ ?_, fun _ _ _ _ h ↦ (by cases h)⟩
      cases h
      exact ⟨_, .head henter (.step .refl (.lacksPool call _ hlive hpool))⟩
    | some pool =>
      cases hacquire : pool.acquire with
      | blocked => exact absurd hacquire (hfree live pool hlive hpool)
      | refused pool' =>
        simp only [hacquire]
        refine ⟨fun result c' h ↦ ?_, fun _ _ _ _ h ↦ (by cases h)⟩
        cases h
        exact ⟨_, .head henter (.step .refl (.misses call _ hlive hpool hacquire))⟩
      | taken handle pool' =>
        have htake : Turn driver c (.entered call live.generation)
            (c.setPool live call.query pool') (.holding call live.generation handle) :=
          .takes call live.generation hlive hpool hacquire
        obtain ⟨hbindFails, hbinds⟩ := turns_holding driver c live pool' call handle
        simp only [hacquire]
        rcases hbind : driver.bind call.request.params handle c.world with
          ⟨err | _, bound, world⟩
        · refine ⟨fun _ _ h ↦ (by cases h), fun generation step err' c' h ↦ ?_⟩
          cases h
          exact .head henter (.head htake (hbindFails err bound world hbind))
        · obtain ⟨hexecuteFails, hexecutes⟩ := hbinds bound world hbind
          dsimp only
          rcases hexecute : driver.execute bound world with ⟨err | _, executed, world'⟩
          · refine ⟨fun _ _ h ↦ (by cases h), fun generation step err' c' h ↦ ?_⟩
            cases h
            exact .head henter (.head htake (hexecuteFails err executed world' hexecute))
          · refine ⟨fun result c' h ↦ ?_, fun _ _ _ _ h ↦ (by cases h)⟩
            cases h
            exact ⟨_, .head henter (.head htake
              (hexecutes executed world' _ _ hexecute rfl))⟩

/-- A caller that is left alone and meets a dropped link wants the connection rebuilt. -/
theorem leads_broken {start : Shared W H} {c c' : Connection W H} {call : Call}
    {before after : List (Caller H)} {generation : Nat} {step : Provenance.Step}
    {err : DriverError} (h : Leads driver start history ⟨c, before ++ .idle :: after⟩)
    (hattempt : attempt driver call.request c = .failed generation step err c')
    (hfree : ∀ live pool, c.live = some live → live.pools.get? call.query = some pool →
      pool.acquire ≠ .blocked)
    (hbudget : call.budget ≠ 0) (hlink : err.isLinkFailure = true) :
    Leads driver start history
      ⟨{ c' with log := c'.log ++ [.linkFailed call.query.name step (call.retries + 1)] },
        before ++ .broken call.next generation :: after⟩ := by
  have hcalls : Turns driver c .idle c (.calling call) := .step .refl (.calls call)
  have hpass := (turns_attempt hfree).2 generation step err c' hattempt
  exact h.turns ((hcalls.trans hpass).step (.breaks call generation step err hbudget hlink))

end Alone

end Shared

end Connection

end Provenance
