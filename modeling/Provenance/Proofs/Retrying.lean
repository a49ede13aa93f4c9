import Provenance.Proofs.Reachable

/-!
Retries under planned failures of binding and executing. The failures that a request will meet are
those of binding, then those of executing (`FaultPlan.met`); a request meets one a pass, and the
failure at `stopAt` is the one that a budget of retries cannot get past. If there is none, the
request comes to what it comes to without failures and the connection has been rebuilt once for each
(`Recovered`); if there is one, nothing has happened but the rebuilding up to it (`Stopped`).
-/

set_option autoImplicit false
set_option relaxedAutoImplicit false

namespace Provenance

open Relational (Statement World)

/-! ### The failures that a request meets -/

namespace FaultPlan

variable {plan : FaultPlan} {step : Step} {err : DriverError}

/-- The failures planned for binding and executing, in the order in which a request meets them. -/
def met (plan : FaultPlan) : List DriverError := plan.queues .bind ++ plan.queues .execute

theorem met_eq_nil_iff : plan.met = [] ↔ plan.due = none := by
  rw [due_eq_none_iff, met, List.append_eq_nil_iff]

/-- The failure that is due comes first, and a pass that meets it leaves the others. -/
theorem met_of_due (h : plan.due = some (step, err)) :
    plan.met = err :: (plan.after (pointOf step)).met := by
  cases step with
  | bind =>
    obtain ⟨rest, hqueue⟩ := due_eq_bind_iff.mp h
    simp [met, pointOf, hqueue]
  | execute =>
    obtain ⟨hnil, rest, hqueue⟩ := due_eq_execute_iff.mp h
    simp [met, pointOf, hnil, hqueue]

/-- The queues of binding and executing without the first failures that a request meets. -/
structure Skips (count : Nat) (plan plan' : FaultPlan) : Prop where
  binds : plan'.queues .bind = (plan.queues .bind).drop count
  executes : plan'.queues .execute =
    (plan.queues .execute).drop (count - (plan.queues .bind).length)

theorem Skips.refl (plan : FaultPlan) : Skips 0 plan plan :=
  ⟨rfl, by rw [Nat.zero_sub]; rfl⟩

theorem Skips.of_due {count : Nat} {plan' : FaultPlan} (hdue : plan.due = some (step, err))
    (h : Skips count (plan.after (pointOf step)) plan') : Skips (count + 1) plan plan' := by
  obtain ⟨hbinds, hexecutes⟩ := h
  cases step with
  | bind =>
    obtain ⟨rest, hqueue⟩ := due_eq_bind_iff.mp hdue
    simp only [pointOf, queues_after, if_true, reduceCtorEq, if_false, hqueue, List.tail_cons]
      at hbinds hexecutes
    refine ⟨by rw [hbinds, hqueue, List.drop_succ_cons], ?_⟩
    rw [hexecutes, hqueue, List.length_cons, Nat.add_sub_add_right]
  | execute =>
    obtain ⟨hnil, rest, hqueue⟩ := due_eq_execute_iff.mp hdue
    simp only [pointOf, queues_after, if_true, reduceCtorEq, if_false, hqueue, hnil,
      List.tail_cons, List.drop_nil, List.length_nil, Nat.sub_zero] at hbinds hexecutes
    refine ⟨by rw [hbinds, hnil, List.drop_nil], ?_⟩
    rw [hexecutes, hqueue, hnil, List.length_nil, Nat.sub_zero, List.drop_succ_cons]

/-- Binding and executing are all that can fail. -/
structure StatementsOnly (plan : FaultPlan) : Prop where
  connect : plan.queues .connect = []
  prepare : plan.queues .prepare = []
  fetch : plan.queues .fetch = []

end FaultPlan

/-- How many of some failures a budget of retries gets past: it is the position of the failure that
ends a request, if there is one. -/
def stopAt (budget : Nat) (failures : List DriverError) : Nat :=
  min budget (failures.findIdx fun err ↦ !err.isLinkFailure)

/-- The failures are dropped links, and no more than the budget allows. -/
def Passable (budget : Nat) (failures : List DriverError) : Prop :=
  (∀ err ∈ failures, err.isLinkFailure = true) ∧ failures.length ≤ budget

instance (budget : Nat) (failures : List DriverError) : Decidable (Passable budget failures) :=
  inferInstanceAs (Decidable (_ ∧ _))

theorem stopAt_succ_cons {err : DriverError} (h : err.isLinkFailure = true) (budget : Nat)
    (failures : List DriverError) :
    stopAt (budget + 1) (err :: failures) = stopAt budget failures + 1 := by
  rw [stopAt, List.findIdx_cons, h, Bool.not_true, cond_false, Nat.add_min_add_right, stopAt]

theorem passable_succ_cons_iff {err : DriverError} (h : err.isLinkFailure = true) {budget : Nat}
    {failures : List DriverError} :
    Passable (budget + 1) (err :: failures) ↔ Passable budget failures := by
  rw [Passable, List.forall_mem_cons, List.length_cons, Nat.add_le_add_iff_right, Passable]
  exact ⟨fun hp ↦ ⟨hp.1.2, hp.2⟩, fun hp ↦ ⟨⟨h, hp.1⟩, hp.2⟩⟩

theorem stopAt_cons_of_final {err : DriverError} {budget : Nat} {failures : List DriverError}
    (h : budget = 0 ∨ err.isLinkFailure = false) : stopAt budget (err :: failures) = 0 := by
  rcases h with rfl | hfinal
  · exact Nat.zero_min _
  · rw [stopAt, List.findIdx_cons, hfinal, Bool.not_false, cond_true, Nat.min_zero]

theorem not_passable_cons_of_final {err : DriverError} {budget : Nat}
    {failures : List DriverError} (h : budget = 0 ∨ err.isLinkFailure = false) :
    ¬ Passable budget (err :: failures) := by
  rintro ⟨hlink, hlength⟩
  rcases h with rfl | hfinal
  · exact absurd hlength (by simp)
  · rw [List.forall_mem_cons, hfinal] at hlink
    cases hlink.1

/-! ### Retrying -/

namespace Connection

variable {α : Type} {site : FileSite} {s : Store} {request : Request α}
  {c c' c'' : Connection (Faulty World) Statement} {live : Live Statement}
  {result : Except Error α}

/-- Every failure has been met and got past. -/
structure Recovered (site : FileSite) (s : Store) (request : Request α)
    (c c' : Connection (Faulty World) Statement) (result : Except Error α) : Prop where
  result : result = (s.served c.world.world.now request).1
  agree : World.Agree (site.led request s c.world.world) c'.world.world
  reconnects : c'.reconnects = c.reconnects + c.world.plan.met.length
  used : ∀ point, c'.world.plan.queues point = []

/-- The failure at `count` has ended the request, and those before it have been got past. -/
structure Stopped (count : Nat) (request : Request α)
    (c c' : Connection (Faulty World) Statement) (result : Except Error α) : Prop where
  result : result = .error (.statement request.query.name)
  agree : World.Agree c.world.world c'.world.world
  reconnects : c'.reconnects = c.reconnects + count
  used : c.world.plan.Skips (count + 1) c'.world.plan
  only : c'.world.plan.StatementsOnly

theorem statementsOnly_after {plan : FaultPlan} (h : plan.StatementsOnly) (step : Step) :
    (plan.after (FaultPlan.pointOf step)).StatementsOnly := by
  obtain ⟨hconnect, hprepare, hfetch⟩ := h
  cases step <;> exact ⟨by simpa [FaultPlan.pointOf], by simpa [FaultPlan.pointOf],
    by simpa [FaultPlan.pointOf]⟩

/-- A reconnection succeeds when nothing is planned against it. -/
theorem reconnectIfCurrent_of_statementsOnly (h : IsOpen site s c live)
    (honly : c.world.plan.StatementsOnly) :
    ∃ c', reconnectIfCurrent site.driver live.generation c = (.ok (), c') ∧
      (∃ live', IsOpen site s c' live') ∧ c'.reconnects = c.reconnects + 1 ∧
      World.Agree c.world.world c'.world.world ∧
      c'.world.plan.queues = c.world.plan.queues := by
  obtain ⟨result, c', hreconnect, hrebuilt⟩ : ∃ result c',
      reconnectIfCurrent site.driver live.generation c = (result, c') ∧
        Rebuilt site s c c' result := ⟨_, _, rfl, rebuilt_reconnectIfCurrent h⟩
  rcases hrebuilt.outcome with ⟨rfl, hopen, hcount⟩ | ⟨-, -, -, hconnect | hprepare⟩
  · refine ⟨c', hreconnect, hopen, hcount, hrebuilt.relinked.world h.keeps, ?_⟩
    funext point
    have hused := hrebuilt.relinked.used point
    cases point with
    | connect => rwa [honly.connect, List.suffix_nil, ← honly.connect] at hused
    | prepare => rwa [honly.prepare, List.suffix_nil, ← honly.prepare] at hused
    | bind => exact hrebuilt.relinked.kept .bind (by decide) (by decide)
    | execute => exact hrebuilt.relinked.kept .execute (by decide) (by decide)
    | fetch => exact hrebuilt.relinked.kept .fetch (by decide) (by decide)
  · exact absurd honly.connect hconnect
  · exact absurd honly.prepare hprepare

/-- The failure that was due has been met and the connection has been rebuilt once. -/
structure Retried (site : FileSite) (s : Store) (step : Step)
    (c c' : Connection (Faulty World) Statement) : Prop where
  isOpen : ∃ live, IsOpen site s c' live
  reconnects : c'.reconnects = c.reconnects + 1
  agree : World.Agree c.world.world c'.world.world
  queues : c'.world.plan.queues = (c.world.plan.after (FaultPlan.pointOf step)).queues

theorem Retried.met {step : Step} (h : Retried site s step c c') :
    c'.world.plan.met = (c.world.plan.after (FaultPlan.pointOf step)).met := by
  rw [FaultPlan.met, h.queues, FaultPlan.met]

theorem Retried.statementsOnly {step : Step} (h : Retried site s step c c')
    (honly : c.world.plan.StatementsOnly) : c'.world.plan.StatementsOnly := by
  obtain ⟨hconnect, hprepare, hfetch⟩ := statementsOnly_after honly step
  exact ⟨by rw [h.queues, hconnect], by rw [h.queues, hprepare], by rw [h.queues, hfetch]⟩

theorem Recovered.of_retried {step : Step} {err : DriverError}
    (hdue : c.world.plan.due = some (step, err)) (hretried : Retried site s step c c')
    (h : Recovered site s request c' c'' result) : Recovered site s request c c'' result := by
  refine ⟨?_, (FileSite.agree_led _ _ hretried.agree).trans h.agree, ?_, h.used⟩
  · rw [h.result, hretried.agree.now_eq]
  · rw [h.reconnects, hretried.reconnects, hretried.met, FaultPlan.met_of_due hdue,
      List.length_cons]
    omega

theorem Stopped.of_retried {step : Step} {err : DriverError} {count : Nat}
    (hdue : c.world.plan.due = some (step, err)) (hretried : Retried site s step c c')
    (h : Stopped count request c' c'' result) : Stopped (count + 1) request c c'' result := by
  refine ⟨h.result, hretried.agree.trans h.agree, ?_, .of_due hdue ?_, h.only⟩
  · rw [h.reconnects, hretried.reconnects]
    omega
  · exact ⟨by rw [h.used.binds, hretried.queues], by rw [h.used.executes, hretried.queues]⟩

/-- A request that meets a dropped link goes on where its connection has been rebuilt. -/
theorem perform_of_linkFailure_due (h : IsOpen site s c live)
    (honly : c.world.plan.StatementsOnly) {step : Step} {err : DriverError}
    (hdue : c.world.plan.due = some (step, err)) (hlink : err.isLinkFailure = true)
    (request : Request α) (budget retries : Nat) :
    ∃ c', Retried site s step c c' ∧
      perform site.driver request (budget + 1) retries c =
        perform site.driver request budget (retries + 1) c' := by
  obtain ⟨met, hattempt, hpassed, hworld⟩ := attempt_of_due h request hdue
  obtain ⟨liveMet, hopen, hgeneration⟩ := hpassed.isOpen
  have honlyMet : met.world.plan.StatementsOnly := by
    rw [hworld]
    exact statementsOnly_after honly step
  obtain ⟨c', hreconnect, hopen', hcount, hagree, hqueues⟩ :=
    reconnectIfCurrent_of_statementsOnly
      (hopen.withLog (noteLinkFailure request.query step retries met).log) honlyMet
  rw [hgeneration] at hreconnect
  refine ⟨c', ⟨hopen', ?_, ?_, ?_⟩, ?_⟩
  · rw [hcount]
    exact congrArg (· + 1) hpassed.reconnects_eq
  · have hsame : met.world.world = c.world.world := congrArg (·.world) hworld
    exact hsame ▸ hagree
  · rw [hqueues]
    exact congrArg (·.plan.queues) hworld
  · rw [perform_of_linkFailure hattempt hlink]
    change resume site.driver request budget (retries + 1)
      (reconnectIfCurrent site.driver live.generation
        { met with log := (noteLinkFailure request.query step retries met).log }) = _
    rw [hreconnect]
    rfl

/-- A request that no failure is due for gets past all of them. -/
theorem perform_of_nothing_due (h : IsOpen site s c live) (honly : c.world.plan.StatementsOnly)
    (hdue : c.world.plan.due = none) (request : Request α) (budget retries : Nat) :
    ∃ result c', perform site.driver request budget retries c = (result, c') ∧
      Passable budget c.world.plan.met ∧ Recovered site s request c c' result := by
  have hmet : c.world.plan.met = [] := FaultPlan.met_eq_nil_iff.mpr hdue
  obtain ⟨hbind, hexecute⟩ := FaultPlan.due_eq_none_iff.mp hdue
  obtain ⟨c', hperform, hquietly, hcount⟩ :=
    perform_of_quiet h request budget retries hdue honly.fetch
  refine ⟨_, c', hperform, ?_, rfl, hquietly.agree, ?_, fun point ↦ ?_⟩
  · rw [hmet]
    exact ⟨by simp, Nat.zero_le _⟩
  · rw [hcount, hmet, List.length_nil, Nat.add_zero]
  · rw [hquietly.queues]
    cases point with
    | connect => exact honly.connect
    | prepare => exact honly.prepare
    | bind => exact hbind
    | execute => exact hexecute
    | fetch => exact honly.fetch

/-- A failure that is final, or for which no retry is left, ends the request. -/
theorem perform_of_final_due (h : IsOpen site s c live) (honly : c.world.plan.StatementsOnly)
    {step : Step} {err : DriverError} (hdue : c.world.plan.due = some (step, err))
    (request : Request α) {budget : Nat} (retries : Nat)
    (hfinal : budget = 0 ∨ err.isLinkFailure = false) :
    ∃ result c', perform site.driver request budget retries c = (result, c') ∧
      ¬ Passable budget c.world.plan.met ∧
        Stopped (stopAt budget c.world.plan.met) request c c' result := by
  obtain ⟨c', hattempt, hpassed, hworld⟩ := attempt_of_due h request hdue
  rw [FaultPlan.met_of_due hdue, stopAt_cons_of_final hfinal]
  refine ⟨_, _, perform_of_final hattempt hfinal, not_passable_cons_of_final hfinal, rfl, ?_,
    hpassed.reconnects_eq, ?_, ?_⟩
  · change World.Agree c.world.world c'.world.world
    rw [hworld]
    exact .refl _
  · refine .of_due hdue ?_
    change FaultPlan.Skips 0 _ c'.world.plan
    rw [hworld]
    exact .refl _
  · change c'.world.plan.StatementsOnly
    rw [hworld]
    exact statementsOnly_after honly step

/-- A request on an open connection gets past all failures of binding and executing or is ended by
the first that its budget does not allow for. -/
theorem perform_of_statementsOnly (request : Request α) (budget retries : Nat)
    (h : IsOpen site s c live) (honly : c.world.plan.StatementsOnly) :
    ∃ result c', perform site.driver request budget retries c = (result, c') ∧
      (Passable budget c.world.plan.met ∧ Recovered site s request c c' result ∨
        ¬ Passable budget c.world.plan.met ∧
          Stopped (stopAt budget c.world.plan.met) request c c' result) := by
  induction budget generalizing c live retries with
  | zero =>
    rcases hdue : c.world.plan.due with _ | ⟨step, err⟩
    · obtain ⟨result, c', hperform, hrecovered⟩ :=
        perform_of_nothing_due h honly hdue request 0 retries
      exact ⟨result, c', hperform, .inl hrecovered⟩
    · obtain ⟨result, c', hperform, hstopped⟩ :=
        perform_of_final_due h honly hdue request retries (.inl rfl)
      exact ⟨result, c', hperform, .inr hstopped⟩
  | succ budget ih =>
    rcases hdue : c.world.plan.due with _ | ⟨step, err⟩
    · obtain ⟨result, c', hperform, hrecovered⟩ :=
        perform_of_nothing_due h honly hdue request (budget + 1) retries
      exact ⟨result, c', hperform, .inl hrecovered⟩
    cases hlink : err.isLinkFailure with
    | false =>
      obtain ⟨result, c', hperform, hstopped⟩ :=
        perform_of_final_due h honly hdue request retries (.inr hlink)
      exact ⟨result, c', hperform, .inr hstopped⟩
    | true =>
      obtain ⟨c₁, hretried, hperform₁⟩ :=
        perform_of_linkFailure_due h honly hdue hlink request budget retries
      obtain ⟨live₁, hopen₁⟩ := hretried.isOpen
      obtain ⟨result, c', hperform, houtcome⟩ :=
        ih (retries + 1) hopen₁ (hretried.statementsOnly honly)
      refine ⟨result, c', hperform₁.trans hperform, ?_⟩
      rw [FaultPlan.met_of_due hdue, passable_succ_cons_iff hlink, stopAt_succ_cons hlink,
        ← hretried.met]
      exact houtcome.imp
        (fun ⟨hpassable, h⟩ ↦ ⟨hpassable, h.of_retried hdue hretried⟩)
        (fun ⟨hnot, h⟩ ↦ ⟨hnot, h.of_retried hdue hretried⟩)

end Connection

/-! ### Operations -/

/-- Failures planned for binding and executing alone. -/
def FaultPlan.failing (binds executes : List DriverError) : FaultPoint → List DriverError
  | .bind => binds
  | .execute => executes
  | _ => []

namespace Operation

variable {C : Type} {site : FileSite} {backend : FileBackend} {op : Operation}

/-- An operation with valid arguments gets past failures of binding and executing that are dropped
links and no more than its retries: it rebuilds the connection once for each, and all else is as if
nothing had been planned. Otherwise it gets past those before the first that is no dropped link, or
as many as it has retries, and the next one ends it: it has rebuilt the connection once for each of
the others, handed on nothing and left the file alone, and the failures after that one are still
planned. -/
theorem run_under_statement_failures (hreach : site.Reachable (.opened backend))
    (hconnected : backend.connection.isConnected = true) {request : Request op.form.Rows}
    (hvalid : op.form.request backend.reader = .ok request) (binds executes : List DriverError)
    (callback : Listed → Action C Unit) (c : C) :
    let failing := backend.mapWorld (Faulty.replan (FaultPlan.failing binds executes))
    let quiet := backend.mapWorld (Faulty.replan fun _ ↦ [])
    let ran := (op.run site.driver (passive callback)).run (c, failing)
    let ranQuietly := (op.run site.driver (passive callback)).run (c, quiet)
    let after := ran.2.2.connection
    let budget := backend.options.maxRetries
    let stop := stopAt budget (binds ++ executes)
    (Passable budget (binds ++ executes) →
      (∀ point, after.world.plan.queues point = []) ∧
      after.reconnects = backend.connection.reconnects + (binds ++ executes).length ∧
      ran.1 = ranQuietly.1 ∧ ran.2.1 = ranQuietly.2.1 ∧
      after.world.world.files = ranQuietly.2.2.connection.world.world.files) ∧
    (¬ Passable budget (binds ++ executes) →
      after.world.plan.queues =
        FaultPlan.failing (binds.drop (stop + 1)) (executes.drop (stop + 1 - binds.length)) ∧
      after.reconnects = backend.connection.reconnects + stop ∧
      ran.1 = .error (.statement request.query.name) ∧ ran.2.1 = c ∧
      after.world.world.files = backend.connection.world.world.files) := by
  intro failing quiet ran ranQuietly after budget stop
  obtain ⟨s, -, hsettled⟩ := hreach.exists_store
  obtain ⟨live, hopen⟩ : ∃ live, backend.connection.IsOpen site s live := by
    rcases hsettled with hopen | hclosed
    · exact hopen
    · rw [Connection.isConnected, hclosed.live_eq] at hconnected
      cases hconnected
  have hfailing : failing.connection.IsOpen site s live :=
    (FileSite.steady_replan _).isOpen hopen
  have hquiet : quiet.connection.IsOpen site s live := (FileSite.steady_replan _).isOpen hopen
  obtain ⟨result, c', hperform, houtcome⟩ :=
    Connection.perform_of_statementsOnly request budget 0 hfailing ⟨rfl, rfl, rfl⟩
  obtain ⟨q, hperformQuietly, hquietly, -⟩ :=
    Connection.perform_of_quiet hquiet request budget 0 rfl rfl
  have hvalidFailing : op.form.request failing.reader = .ok request := hvalid
  have hvalidQuiet : op.form.request quiet.reader = .ok request := hvalid
  have hran : ran = _ := run_passive_of_perform hvalidFailing hperform callback c
  have hranQuietly : ranQuietly = _ := run_passive_of_perform hvalidQuiet hperformQuietly callback c
  have hafter : after = c' := congrArg (·.2.2.connection) hran
  rw [hran, hranQuietly, hafter]
  rcases houtcome with ⟨hpassable, hrecovered⟩ | ⟨hnot, hstopped⟩
  · refine ⟨fun _ ↦ ⟨hrecovered.used, hrecovered.reconnects, ?_, ?_, ?_⟩, fun hnot ↦ ?_⟩
    · rw [hrecovered.result]
      rfl
    · rw [hrecovered.result]
      rfl
    · rw [hrecovered.agree.files_eq, hquietly.agree.files_eq]
      rfl
    · exact absurd hpassable hnot
  · refine ⟨fun hpassable ↦ absurd hpassable hnot,
      fun _ ↦ ⟨?_, hstopped.reconnects, ?_, ?_, hstopped.agree.files_eq⟩⟩
    · funext point
      cases point with
      | connect => exact hstopped.only.connect
      | prepare => exact hstopped.only.prepare
      | bind => exact hstopped.used.binds
      | execute => exact hstopped.used.executes
      | fetch => exact hstopped.only.fetch
    · rw [hstopped.result]
      rfl
    · rw [hstopped.result]
      rfl

/-- A listing on a backend with three retries gets past three dropped links, and is ended by an
error after two. -/
theorem listing_under_statement_failures :
    let dropped : DriverError := ⟨[⟨linkFailureState, 0, "link dropped"⟩]⟩
    let busy : DriverError := ⟨[⟨"HY000", 5, "database is locked"⟩]⟩
    let ran := fun queues ↦
      ((allObjects none).run FileSite.named.driver (passive ignore)).run
        ((), FileSite.first.mapWorld (Faulty.replan queues))
    let past := ran (FaultPlan.failing [dropped, dropped] [dropped])
    let ended := ran (FaultPlan.failing [dropped] [dropped, busy, dropped])
    (past.2.2.connection.reconnects = FileSite.first.connection.reconnects + 3 ∧
      past.1 = (ran fun _ ↦ []).1) ∧
    ended.2.2.connection.reconnects = FileSite.first.connection.reconnects + 2 ∧
      ended.1 = .error (.statement "GetAllObjects") ∧
      ended.2.2.connection.world.plan.queues = FaultPlan.failing [] [dropped] := by
  intro dropped busy ran past ended
  have hvalid : (allObjects none).form.request FileSite.first.reader = .ok _ := rfl
  obtain ⟨-, hrebuilt, hresult, -⟩ :=
    (run_under_statement_failures FileSite.reachable_first rfl hvalid
      [dropped, dropped] [dropped] ignore ()).1 (by decide)
  obtain ⟨hleft, hrebuilt', hresult', -⟩ :=
    (run_under_statement_failures FileSite.reachable_first rfl hvalid
      [dropped] [dropped, busy, dropped] ignore ()).2 (by decide)
  dsimp only [past, ended, ran]
  exact ⟨⟨hrebuilt, hresult⟩, hrebuilt', hresult', hleft⟩

end Operation

end Provenance
