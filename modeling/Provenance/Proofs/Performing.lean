import Provenance.Proofs.Recording
import Provenance.Proofs.Serving

/-!
Performing a request on a connection between calls. However the driver fails, the request is not
served and the connection still keeps the store of before (`Spared`), or one pass serves it
(`Served`): the store is then the one that the request leads to, and the result is the one read off
its rows unless a failed fetch has been met. The calls recorded on the way say the same
(`perform_recorded`).
-/

set_option autoImplicit false
set_option relaxedAutoImplicit false

namespace Provenance.Connection

open Relational (Statement World)

/-! ### Passes and retries -/

section Steps

variable {W H α : Type} {driver : Driver W H} {request : Request α} {c c' c'' : Connection W H}
  {budget retries generation : Nat} {step : Step} {err : DriverError}

theorem perform_of_done {result : Except Error α}
    (h : attempt driver request c = .done result c') :
    perform driver request budget retries c = (result, c') := by
  cases budget <;> simp only [perform, h]

/-- A failure that is final, or for which no retry is left. -/
theorem perform_of_final (h : attempt driver request c = .failed generation step err c')
    (hfinal : budget = 0 ∨ err.isLinkFailure = false) :
    perform driver request budget retries c =
      (.error (.statement request.query.name), giveUp request.query step retries err c') := by
  cases budget with
  | zero => simp only [perform, h]
  | succ budget =>
    have hlink : err.isLinkFailure = false := hfinal.resolve_left (Nat.succ_ne_zero budget)
    simp only [perform, h, hlink, Bool.false_eq_true, if_false]

/-- How performing goes on after a reconnection. -/
def resume (driver : Driver W H) (request : Request α) (budget retries : Nat) :
    Except Error Unit × Connection W H → Except Error α × Connection W H
  | (.ok (), c) => perform driver request budget retries c
  | (.error err, c) => (.error err, c)

/-- The connection once a link failure has been logged. -/
def noteLinkFailure (query : Query) (step : Step) (retries : Nat) (c : Connection W H) :
    Connection W H :=
  { c with log := c.log ++ [.linkFailed query.name step (retries + 1)] }

/-- A link failure leads to a reconnection, and to another pass if that succeeds. -/
theorem perform_of_linkFailure (h : attempt driver request c = .failed generation step err c')
    (hlink : err.isLinkFailure = true) :
    perform driver request (budget + 1) retries c =
      resume driver request budget (retries + 1)
        (reconnectIfCurrent driver generation
          (noteLinkFailure request.query step retries c')) := by
  simp only [perform, h, hlink, if_true]
  rfl

/-- The connection once it has been logged that none is open. -/
def noteUnconnected (query : Query) (retries : Nat) (c : Connection W H) : Connection W H :=
  { c with log := c.log ++ [.notConnected query.name (retries + 1)] }

theorem attempt_of_closed (h : c.live = none) : attempt driver request c = .unconnected := by
  simp only [attempt, h]

/-- Without a connection one is asked for, and another pass follows if that succeeds. -/
theorem perform_of_unconnected (h : attempt driver request c = .unconnected) :
    perform driver request (budget + 1) retries c =
      resume driver request budget (retries + 1)
        (reconnectIfDisconnected driver (noteUnconnected request.query retries c)) := by
  simp only [perform, h]
  rfl

theorem perform_of_closed (h : c.live = none) :
    perform driver request (budget + 1) retries c =
      resume driver request budget (retries + 1)
        (reconnectIfDisconnected driver (noteUnconnected request.query retries c)) :=
  perform_of_unconnected (attempt_of_closed h)

theorem perform_zero_of_closed (h : c.live = none) :
    perform driver request 0 retries c = (.error notConnected, c) := by
  simp only [perform, attempt_of_closed h]

end Steps

variable {α : Type} {site : FileSite} {s s' : Store} {request : Request α}
  {c c' c'' : Connection (Faulty World) Statement} {live : Live Statement}

theorem IsOpen.withLog (h : IsOpen site s c live) (log : List Event) :
    IsOpen site s { c with log } live :=
  ⟨h.live_eq, h.target_eq, h.sized, h.keeps, h.linked, h.rested, h.opened, h.handles⟩

theorem IsClosed.withLog (h : IsClosed site s c) (log : List Event) :
    IsClosed site s { c with log } :=
  ⟨h.live_eq, h.target_eq, h.sized, h.keeps, h.unlinked, h.opened, h.handles⟩

/-! ### Spared and served -/

/-- The connection is between calls and still keeps the store of before; no failure planned for a
fetch has been used up. -/
structure Spared (site : FileSite) (s : Store) (c c' : Connection (Faulty World) Statement) :
    Prop where
  settled : Settled site s c'
  agree : World.Agree c.world.world c'.world.world
  fetches : c'.world.plan.queues .fetch = c.world.plan.queues .fetch
  poolSize_eq : c'.poolSize = c.poolSize

/-- The request has been served. -/
structure Served (site : FileSite) (s : Store) (request : Request α)
    (c : Connection (Faulty World) Statement) (result : Except Error α)
    (c' : Connection (Faulty World) Statement) (rows : List Row) (s' : Store) : Prop where
  reply : s.reply c.world.world.now request = .ok (rows, s')
  isOpen : ∃ live, IsOpen site s' c' live
  agree : World.Agree (site.written request.query s' c.world.world) c'.world.world
  poolSize_eq : c'.poolSize = c.poolSize
  result : result = request.readOff rows ∧
      c'.world.plan.queues .fetch = c.world.plan.queues .fetch ∨
    c.world.plan.queues .fetch ≠ [] ∧ result = .error (.statement request.query.name) ∧
      c'.world.plan.queues .fetch = (c.world.plan.queues .fetch).tail

theorem Spared.trans (h : Spared site s c c') (h' : Spared site s c' c'') :
    Spared site s c c'' :=
  ⟨h'.settled, h.agree.trans h'.agree, h'.fetches.trans h.fetches,
    h'.poolSize_eq.trans h.poolSize_eq⟩

theorem Spared.served (h : Spared site s c c') {result : Except Error α} {rows : List Row}
    (h' : Served site s request c' result c'' rows s') :
    Served site s request c result c'' rows s' := by
  refine ⟨?_, h'.isOpen, ?_, h'.poolSize_eq.trans h.poolSize_eq, ?_⟩
  · rw [← h.agree.now_eq]
    exact h'.reply
  · exact (FileSite.agree_written _ _ h.agree).trans h'.agree
  · rw [← h.fetches]
    exact h'.result

theorem Passed.spared (h : Passed site s live c c') {plan : FaultPlan}
    (hworld : c'.world = ⟨plan, c.world.world⟩)
    (hfetches : plan.queues .fetch = c.world.plan.queues .fetch) : Spared site s c c' := by
  obtain ⟨live', hopen, -⟩ := h.isOpen
  exact ⟨.inl ⟨live', hopen⟩, by rw [hworld]; exact .refl _, by rw [hworld]; exact hfetches,
    h.poolSize_eq⟩

theorem Rebuilt.spared {result : Except Error Unit} (h : Rebuilt site s c c' result)
    (hkeeps : site.Keeps c.world.world s) : Spared site s c c' :=
  ⟨h.settled, h.relinked.world hkeeps, h.relinked.kept .fetch (by decide) (by decide),
    h.poolSize_eq⟩

theorem Spared.withLog (h : Spared site s c c') (log : List Event) :
    Spared site s c { c' with log } := by
  refine ⟨?_, h.agree, h.fetches, h.poolSize_eq⟩
  rcases h.settled with ⟨live, hopen⟩ | hclosed
  · exact .inl ⟨live, hopen.withLog log⟩
  · exact .inr (hclosed.withLog log)

theorem pointOf_ne_fetch (step : Step) : FaultPoint.fetch ≠ FaultPlan.pointOf step := by
  cases step <;> decide

/-- What a request on a connection between calls comes to: its result, and the connection and the
calls that it leaves. -/
inductive Performed (site : FileSite) (s : Store) (request : Request α)
    (c : Connection (Faulty World) Statement) :
    Except Error α → Connection (Faulty World) Statement → CallLog → Prop
  | spared (err : Error) (c' : Connection (Faulty World) Statement) (calls : CallLog)
      (h : Spared site s c c') (hcalls : calls.NoneExecuted) :
      Performed site s request c (.error err) c' calls
  | served (result : Except Error α) (c' : Connection (Faulty World) Statement) (calls : CallLog)
      (rows : List Row) (s' : Store) (h : Served site s request c result c' rows s')
      (hcalls : calls.ExecutedOnce) : Performed site s request c result c' calls

theorem Performed.after {result : Except Error α} {calls first : CallLog}
    (h : Performed site s request c' result c'' calls) (hc : Spared site s c c')
    (hfirst : first.NoneExecuted) : Performed site s request c result c'' (first ++ calls) := by
  cases h with
  | spared err c'' calls h hcalls => exact .spared err c'' _ (hc.trans h) (hfirst.append hcalls)
  | served result c'' calls rows s' h hcalls =>
    exact .served result c'' _ rows s' (hc.served h) (hfirst.append_once hcalls)

/-- A pass on an open connection: it serves the request, or it fails and the store is spared. -/
theorem attempt_cases (h : IsOpen site s c live) (request : Request α) :
    (∃ result c' rows s', attempt site.driver request c = .done result c' ∧
        Served site s request c result c' rows s') ∨
      ∃ step err c' live', attempt site.driver request c = .failed live.generation step err c' ∧
        IsOpen site s c' live' ∧ live'.generation = live.generation ∧ Spared site s c c' := by
  rcases hdue : c.world.plan.due with _ | ⟨step, err⟩
  · rcases hreply : s.reply c.world.world.now request with err | ⟨rows, s'⟩
    · obtain ⟨c', hattempt, hpassed, hworld⟩ := attempt_of_refused h hdue hreply
      obtain ⟨live', hopen, hgeneration⟩ := hpassed.isOpen
      exact .inr ⟨_, _, c', live', hattempt, hopen, hgeneration, hpassed.spared hworld rfl⟩
    · obtain ⟨result, c', hattempt, hpassed, hworld, hresult⟩ := attempt_of_served h hdue hreply
      obtain ⟨live', hopen, -⟩ := hpassed.isOpen
      refine .inl ⟨result, c', rows, s', hattempt, hreply, ⟨live', hopen⟩, ?_,
        hpassed.poolSize_eq, ?_⟩
      · rw [hworld]
        exact .refl _
      · rcases hresult with ⟨hresult, hplan⟩ | ⟨hqueue, hresult, hplan⟩
        · exact .inl ⟨hresult, by rw [hplan]⟩
        · exact .inr ⟨hqueue, hresult, by rw [hplan, FaultPlan.queues_after, if_pos rfl]⟩
  · obtain ⟨c', hattempt, hpassed, hworld⟩ := attempt_of_due h request hdue
    obtain ⟨live', hopen, hgeneration⟩ := hpassed.isOpen
    refine .inr ⟨step, err, c', live', hattempt, hopen, hgeneration, hpassed.spared hworld ?_⟩
    rw [FaultPlan.queues_after, if_neg (pointOf_ne_fetch step)]

/-- The same pass with the calls recorded. -/
theorem IsOpen.attempt_recorded (h : IsOpen site s c live) (request : Request α)
    (calls : CallLog) :
    ∃ more, (attempt site.driver request c).Accounts more ∧
      attempt (Recorded.driver site.driver) request (c.recorded calls) =
        (attempt site.driver request c).recorded (calls ++ more) := by
  obtain ⟨pool, hpool, hfull⟩ := h.rested.get? request.query
  obtain ⟨handle, rest, hacquire, -⟩ := hfull.acquire h.sized
  exact Connection.attempt_recorded site.driver request c calls h.live_eq hpool hacquire

/-- What performing comes to, in a world whose calls are recorded as in the world itself. -/
def PerformsAs (site : FileSite) (s : Store) (request : Request α)
    (c : Connection (Faulty World) Statement) (calls : CallLog)
    (plain : Except Error α × Connection (Faulty World) Statement)
    (recorded : Except Error α × Connection (Recorded (Faulty World)) Statement) : Prop :=
  ∃ result c' more, plain = (result, c') ∧ recorded = (result, c'.recorded (calls ++ more)) ∧
    Performed site s request c result c' more

/-- Whatever a reconnection after a failed pass leads to, the next passes decide. -/
theorem performsAs_of_rebuilt {budget retries : Nat}
    (ih : ∀ {c : Connection (Faulty World) Statement} (calls : CallLog), Settled site s c →
      PerformsAs site s request c calls (perform site.driver request budget retries c)
        (perform (Recorded.driver site.driver) request budget retries (c.recorded calls)))
    (hspared : Spared site s c c') {result : Except Error Unit}
    (hrebuilt : Rebuilt site s c' c'' result) (calls : CallLog) {first : CallLog}
    (hfirst : first.NoneExecuted) :
    PerformsAs site s request c calls (resume site.driver request budget retries (result, c''))
      (resume (Recorded.driver site.driver) request budget retries
        (result, c''.recorded (calls ++ first))) := by
  have hspared' := hspared.trans (hrebuilt.spared hspared.settled.keeps)
  cases result with
  | error err => exact ⟨_, _, first, rfl, rfl, .spared err _ first hspared' hfirst⟩
  | ok _ =>
    obtain ⟨result, last, more, hplain, hrecorded, hperformed⟩ :=
      ih (calls ++ first) hrebuilt.settled
    refine ⟨result, last, first ++ more, hplain, ?_, hperformed.after hspared' hfirst⟩
    rw [← List.append_assoc]
    exact hrecorded

/-- A pass on an open connection ends the request, unless it meets a dropped link and a retry is
left. -/
theorem performsAs_or_linkFailure (h : IsOpen site s c live) (request : Request α)
    (budget retries : Nat) (calls : CallLog) :
    PerformsAs site s request c calls (perform site.driver request budget retries c)
        (perform (Recorded.driver site.driver) request budget retries (c.recorded calls)) ∨
      budget ≠ 0 ∧ ∃ step err c' live' more, err.isLinkFailure = true ∧
        attempt site.driver request c = .failed live.generation step err c' ∧
        attempt (Recorded.driver site.driver) request (c.recorded calls) =
          .failed live.generation step err (c'.recorded (calls ++ more)) ∧
        more.NoneExecuted ∧ IsOpen site s c' live' ∧ live'.generation = live.generation ∧
        Spared site s c c' := by
  obtain ⟨more, haccounts, hrecorded⟩ := h.attempt_recorded request calls
  rcases attempt_cases h request with ⟨result, c', rows, s', hattempt, hserved⟩ |
    ⟨step, err, c', live', hattempt, hopen', hgeneration, hspared⟩
  · rw [hattempt] at haccounts hrecorded
    exact .inl ⟨result, c', more, perform_of_done hattempt, perform_of_done hrecorded,
      .served result c' more rows s' hserved haccounts⟩
  · rw [hattempt] at haccounts hrecorded
    by_cases hfinal : budget = 0 ∨ err.isLinkFailure = false
    · exact .inl ⟨_, _, more, perform_of_final hattempt hfinal, perform_of_final hrecorded hfinal,
        .spared _ _ more (hspared.withLog _) haccounts⟩
    · rw [not_or, Bool.not_eq_false] at hfinal
      exact .inr ⟨hfinal.1, step, err, c', live', more, hfinal.2, hattempt, hrecorded, haccounts,
        hopen', hgeneration, hspared⟩

/-- A request is served by one pass or spares the store, whatever failures are planned, and the
recorded calls tell which. -/
theorem perform_recorded (request : Request α) (budget retries : Nat) (calls : CallLog)
    (h : Settled site s c) :
    PerformsAs site s request c calls (perform site.driver request budget retries c)
      (perform (Recorded.driver site.driver) request budget retries (c.recorded calls)) := by
  induction budget generalizing c retries calls with
  | zero =>
    rcases h with ⟨live, hopen⟩ | hclosed
    · rcases performsAs_or_linkFailure hopen request 0 retries calls with hends | ⟨hleft, -⟩
      · exact hends
      · exact absurd rfl hleft
    · have hspared : Spared site s c c := ⟨.inr hclosed, .refl _, rfl, rfl⟩
      refine ⟨_, c, [], perform_zero_of_closed hclosed.live_eq, ?_,
        .spared _ c [] hspared .nil⟩
      rw [List.append_nil]
      exact perform_zero_of_closed hclosed.live_eq
  | succ budget ih =>
    rcases h with ⟨live, hopen⟩ | hclosed
    · rcases performsAs_or_linkFailure hopen request (budget + 1) retries calls with hends |
        ⟨-, step, err, c', live', more, hlink, hattempt, hrecorded, hnone, hopen', hgeneration,
          hspared⟩
      · exact hends
      · let noted := noteLinkFailure request.query step retries c'
        have hrebuilt := rebuilt_reconnectIfCurrent (hopen'.withLog noted.log)
        rw [hgeneration] at hrebuilt
        obtain ⟨last, hlast, hreconnect⟩ := reconnectIfCurrent_recorded site.driver noted
          (calls ++ more) live.generation
        rw [List.append_assoc] at hreconnect
        have hnoted : noteLinkFailure request.query step retries (c'.recorded (calls ++ more)) =
            noted.recorded (calls ++ more) := rfl
        rw [perform_of_linkFailure hattempt hlink, perform_of_linkFailure hrecorded hlink, hnoted,
          hreconnect]
        exact performsAs_of_rebuilt (fun calls hsettled ↦ ih (retries + 1) calls hsettled)
          (hspared.withLog noted.log) hrebuilt calls (hnone.append hlast.noneExecuted)
    · let noted := noteUnconnected request.query retries c
      have hspared : Spared site s c noted := ⟨.inr (hclosed.withLog _), .refl _, rfl, rfl⟩
      have hrebuilt := rebuilt_reconnectIfDisconnected (hclosed.withLog noted.log)
      obtain ⟨last, hlast, hreconnect⟩ :=
        reconnectIfDisconnected_recorded site.driver noted calls
      have hrecorded : (c.recorded calls).live = none := hclosed.live_eq
      have hnoted : noteUnconnected request.query retries (c.recorded calls) =
          noted.recorded calls := rfl
      rw [perform_of_closed hclosed.live_eq, perform_of_closed hrecorded, hnoted, hreconnect]
      exact performsAs_of_rebuilt (fun calls hsettled ↦ ih (retries + 1) calls hsettled)
        hspared hrebuilt calls hlast.noneExecuted

/-! ### Without failures -/

/-- The request has come to what it comes to when nothing fails. -/
structure ServedQuietly (site : FileSite) (s : Store) (request : Request α)
    (c c' : Connection (Faulty World) Statement) : Prop where
  isOpen : ∃ live, IsOpen site (s.served c.world.world.now request).2 c' live
  agree : World.Agree (site.led request s c.world.world) c'.world.world
  queues : c'.world.plan.queues = c.world.plan.queues
  poolSize_eq : c'.poolSize = c.poolSize

/-- An open connection serves a request if no failure is due and none of a fetch is planned. -/
theorem perform_of_quiet (h : IsOpen site s c live) (request : Request α) (budget retries : Nat)
    (hdue : c.world.plan.due = none) (hfetch : c.world.plan.queues .fetch = []) :
    ∃ c', perform site.driver request budget retries c =
        ((s.served c.world.world.now request).1, c') ∧
      ServedQuietly site s request c c' ∧ c'.reconnects = c.reconnects := by
  rcases hreply : s.reply c.world.world.now request with err | ⟨rows, s'⟩
  · obtain ⟨c', hattempt, hpassed, hworld⟩ := attempt_of_refused h hdue hreply
    obtain ⟨live', hopen, -⟩ := hpassed.isOpen
    rw [Store.served_of_refused hreply]
    refine ⟨_, perform_of_final hattempt (.inr (Store.isLinkFailure_of_outcome hreply)),
      ⟨⟨live', ?_⟩, ?_, congrArg (·.plan.queues) hworld, hpassed.poolSize_eq⟩,
      hpassed.reconnects_eq⟩
    · rw [Store.served_of_refused hreply]
      exact hopen.withLog _
    · rw [FileSite.led_of_refused hreply]
      exact congrArg (·.world) hworld ▸ .refl _
  · obtain ⟨result, c', hattempt, hpassed, hworld, ⟨hresult, hplan⟩ | ⟨hqueue, -, -⟩⟩ :=
      attempt_of_served h hdue hreply
    · obtain ⟨live', hopen, -⟩ := hpassed.isOpen
      rw [Store.served_of_ok hreply, ← hresult]
      refine ⟨c', perform_of_done hattempt, ⟨⟨live', ?_⟩, ?_, congrArg (·.queues) hplan,
        hpassed.poolSize_eq⟩, hpassed.reconnects_eq⟩
      · rw [Store.served_of_ok hreply]
        exact hopen
      · rw [FileSite.led_of_ok hreply, hworld]
        exact .refl _
    · exact absurd hfetch hqueue

/-- A connection that is not open is opened first, which costs a retry. -/
theorem perform_of_quiet_closed (h : IsClosed site s c) (request : Request α)
    (budget retries : Nat) (hqueues : ∀ point, c.world.plan.queues point = []) :
    ∃ c', perform site.driver request (budget + 1) retries c =
        ((s.served c.world.world.now request).1, c') ∧ ServedQuietly site s request c c' := by
  obtain ⟨result, opened, hreconnect, hrebuilt⟩ : ∃ result opened,
      reconnectIfDisconnected site.driver (noteUnconnected request.query retries c) =
        (result, opened) ∧
      Rebuilt site s (noteUnconnected request.query retries c) opened result :=
    ⟨_, _, rfl, rebuilt_reconnectIfDisconnected (h.withLog _)⟩
  rw [perform_of_closed h.live_eq, hreconnect]
  rcases hrebuilt.outcome with ⟨rfl, ⟨live, hopen⟩, -⟩ | ⟨-, -, -, hconnect | hprepare⟩
  · have hagree : World.Agree c.world.world opened.world.world := hrebuilt.relinked.world h.keeps
    have hsame : opened.world.plan.queues = c.world.plan.queues := by
      funext point
      have hused : opened.world.plan.queues point <:+ c.world.plan.queues point :=
        hrebuilt.relinked.used point
      rw [hqueues point, List.suffix_nil] at hused
      rw [hused, hqueues point]
    obtain ⟨c', hperform, hserved, -⟩ := perform_of_quiet hopen request budget (retries + 1)
      (FaultPlan.due_eq_none_iff.mpr ⟨by rw [hsame, hqueues], by rw [hsame, hqueues]⟩)
      (by rw [hsame, hqueues])
    rw [← hagree.now_eq]
    refine ⟨c', hperform, ?_, (FileSite.agree_led _ _ hagree).trans hserved.agree,
      hserved.queues.trans hsame, hserved.poolSize_eq.trans hrebuilt.poolSize_eq⟩
    rw [← hagree.now_eq]
    exact hserved.isOpen
  · exact absurd (hqueues .connect) hconnect
  · exact absurd (hqueues .prepare) hprepare

/-- A request is served if nothing is planned to fail and its connection is open or can be. -/
theorem perform_of_nothing_planned (h : Settled site s c) {budget : Nat}
    (hopens : c.isConnected = true ∨ budget ≠ 0) (request : Request α) (retries : Nat)
    (hqueues : ∀ point, c.world.plan.queues point = []) :
    ∃ c', perform site.driver request budget retries c =
        ((s.served c.world.world.now request).1, c') ∧ ServedQuietly site s request c c' := by
  rcases h with ⟨live, hopen⟩ | hclosed
  · obtain ⟨c', hperform, hserved, -⟩ := perform_of_quiet hopen request budget retries
      (FaultPlan.due_eq_none_iff.mpr ⟨hqueues .bind, hqueues .execute⟩) (hqueues .fetch)
    exact ⟨c', hperform, hserved⟩
  · cases budget with
    | zero => simp [isConnected, hclosed.live_eq] at hopens
    | succ budget => exact perform_of_quiet_closed hclosed request budget retries hqueues

end Provenance.Connection
