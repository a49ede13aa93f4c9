import Provenance.Proofs.Performing

/-!
A connection that is never kept from being rebuilt. Where no failure is planned for connecting and
preparing, a connection is open between all calls (`Connection.IsKept`), and a request comes to one
of two things: it fails as a statement and the store is as before, or the store has served it and
the result is the one that its rows give or, again, a failed statement (`perform_answered`). Every
reconnection on the way is paid for by a failure that has been handed out (`Connection.Spends`).
-/

set_option autoImplicit false
set_option relaxedAutoImplicit false

namespace Provenance

open Relational (Statement World)

/-! ### Failures handed out -/

namespace FaultPlan

variable {plan : FaultPlan} {point : FaultPoint}

theorem injected_after_of_ne_nil (h : plan.queues point ≠ []) :
    (plan.after point).injected = plan.injected + 1 := by
  obtain ⟨err, rest, hqueue⟩ := List.exists_cons_of_ne_nil h
  simp only [after, take, hqueue]

theorem injected_le_after (plan : FaultPlan) (point : FaultPoint) :
    plan.injected ≤ (plan.after point).injected := by
  by_cases h : plan.queues point = []
  · simp only [after, take, h, Nat.le_refl]
  · rw [injected_after_of_ne_nil h]
    omega

/-- The failure that is due waits in the queue of its step. -/
theorem queues_ne_nil_of_due {step : Step} {err : DriverError} (h : plan.due = some (step, err)) :
    plan.queues (pointOf step) ≠ [] := by
  cases step with
  | bind =>
    obtain ⟨rest, hqueue⟩ := due_eq_bind_iff.mp h
    exact hqueue ▸ List.cons_ne_nil _ _
  | execute =>
    obtain ⟨-, rest, hqueue⟩ := due_eq_execute_iff.mp h
    exact hqueue ▸ List.cons_ne_nil _ _

end FaultPlan

section Injected

variable {W H α : Type} (inner : Driver W H)

theorem Faulty.injected_le_guarded (point : FaultPoint) (call : W → Except DriverError α × W)
    (w : Faulty W) : w.plan.injected ≤ (Faulty.guarded point call w).2.plan.injected := by
  by_cases h : w.plan.queues point = []
  · have hsame := Faulty.guarded_of_nil call h
    exact Nat.le_of_eq (congrArg (·.2.plan.injected) hsame).symm
  · obtain ⟨err, rest, hqueue⟩ := List.exists_cons_of_ne_nil h
    rw [Faulty.guarded_of_cons call hqueue]
    exact FaultPlan.injected_le_after _ _

/-- Counting connections and handles takes no failure back. -/
theorem Faulty.injected_le_count {change : FaultPlan → FaultPlan}
    (hchange : ∀ plan, (change plan).injected = plan.injected) {w : Faulty W}
    {outcome : Except DriverError α × Faulty W} (h : w.plan.injected ≤ outcome.2.plan.injected) :
    w.plan.injected ≤ (Faulty.count change outcome).2.plan.injected := by
  rcases outcome with ⟨_ | _, w'⟩
  · exact h
  · exact (hchange w'.plan).symm ▸ h

theorem Faulty.injected_le_prepare (query : Query) (w : Faulty W) :
    w.plan.injected ≤ ((Faulty.driver inner).prepare query w).2.plan.injected := by
  have hcall := Faulty.injected_le_guarded .prepare (inner.prepare query) w
  change _ ≤ (Faulty.count (fun plan ↦ { plan with live := plan.live + 1 }) _).2.plan.injected
  refine Faulty.injected_le_count ?_ hcall
  exact fun _ ↦ rfl

theorem Faulty.injected_le_connect (target : String) (w : Faulty W) :
    w.plan.injected ≤ ((Faulty.driver inner).connect target w).2.plan.injected := by
  have hcall := Faulty.injected_le_guarded .connect (inner.connect target) w
  change _ ≤ (Faulty.count (fun plan ↦ { plan with
    connects := plan.connects + 1, opened := plan.opened + 1 }) _).2.plan.injected
  refine Faulty.injected_le_count ?_ hcall
  exact fun _ ↦ rfl

theorem Live.injected_le_prepareHandles (query : Query) (count : Nat) (w : Faulty W) :
    w.plan.injected ≤
      (Live.prepareHandles (Faulty.driver inner) query count w).2.plan.injected := by
  induction count generalizing w with
  | zero => exact Nat.le_refl _
  | succ count ih =>
    have hfirst := Faulty.injected_le_prepare inner query w
    unfold Live.prepareHandles
    generalize (Faulty.driver inner).prepare query w = outcome at hfirst ⊢
    rcases outcome with ⟨_ | handle, w'⟩
    · exact hfirst
    · exact Nat.le_trans hfirst (ih w')

theorem Live.injected_le_preparePools (size : Nat) (queries : List Query) (w : Faulty W) :
    w.plan.injected ≤
      (Live.preparePools (Faulty.driver inner) size queries w).2.plan.injected := by
  induction queries generalizing w with
  | nil => exact Nat.le_refl _
  | cons query rest ih =>
    have hfirst := Live.injected_le_prepareHandles inner query size w
    unfold Live.preparePools
    generalize Live.prepareHandles (Faulty.driver inner) query size w = prepared at hfirst ⊢
    rcases prepared with ⟨⟨handles, _ | err⟩, w'⟩
    · have hrest := Nat.le_trans hfirst (ih w')
      dsimp only
      generalize Live.preparePools (Faulty.driver inner) size rest w' = more at hrest ⊢
      rcases more with ⟨_ | _, w''⟩
      · exact hrest
      · exact hrest
    · exact hfirst

theorem Live.injected_tearDown (generation : Nat) (handles : List H) (w : Faulty W) :
    (Live.tearDown (Faulty.driver inner) generation handles w).1.plan.injected =
      w.plan.injected := by
  have hdiscard : (handles.foldl
      (fun w handle ↦ (Faulty.driver inner).discard handle w) w).plan.injected =
        w.plan.injected := by
    induction handles generalizing w with
    | nil => rfl
    | cons handle rest ih => exact ih _
  unfold Live.tearDown
  dsimp only
  generalize handles.foldl (fun w handle ↦ (Faulty.driver inner).discard handle w) w =
    emptied at hdiscard ⊢
  have hdisconnect : ((Faulty.driver inner).disconnect emptied).2.plan.injected =
      w.plan.injected := hdiscard
  generalize (Faulty.driver inner).disconnect emptied = closed at hdisconnect ⊢
  rcases closed with ⟨_ | _, w'⟩
  · exact hdisconnect
  · exact hdisconnect

theorem Live.injected_le_build (target : String) (size generation : Nat) (w : Faulty W) :
    w.plan.injected ≤
      (Live.build (Faulty.driver inner) target size generation w).2.1.plan.injected := by
  have hfirst := Faulty.injected_le_connect inner target w
  unfold Live.build
  generalize (Faulty.driver inner).connect target w = connected at hfirst ⊢
  rcases connected with ⟨_ | _, w'⟩
  · exact hfirst
  · have hpools := Nat.le_trans hfirst
      (Live.injected_le_preparePools inner size Query.all w')
    dsimp only
    generalize Live.preparePools (Faulty.driver inner) size Query.all w' = prepared at hpools ⊢
    rcases prepared with ⟨_ | ⟨query, err, handles⟩, w''⟩
    · exact hpools
    · exact Nat.le_trans hpools
        (Nat.le_of_eq (Live.injected_tearDown inner generation handles w'').symm)

theorem Connection.injected_le_openNext (c : Connection (Faulty W) H) :
    c.world.plan.injected ≤
      (Connection.openNext (Faulty.driver inner) c).2.world.plan.injected := by
  have hbuild := Live.injected_le_build inner c.target c.poolSize (c.lastGeneration + 1)
    c.world
  unfold Connection.openNext
  dsimp only
  generalize Live.build (Faulty.driver inner) c.target c.poolSize (c.lastGeneration + 1) c.world =
    built at hbuild ⊢
  rcases built with ⟨_ | live, w, events⟩
  · exact hbuild
  · exact hbuild

/-- A reconnection takes no failure back. -/
theorem Connection.injected_le_reconnectIfCurrent (generation : Nat)
    (c : Connection (Faulty W) H) :
    c.world.plan.injected ≤
      (Connection.reconnectIfCurrent (Faulty.driver inner) generation c).2.world.plan.injected := by
  unfold Connection.reconnectIfCurrent
  cases hlive : c.live with
  | none => exact Connection.injected_le_openNext inner c
  | some live =>
    dsimp only
    by_cases hcurrent : live.generation = generation
    · have hdisconnect : (Connection.disconnect (Faulty.driver inner) c).world.plan.injected =
          c.world.plan.injected := by
        simp only [Connection.disconnect, hlive]
        exact Live.injected_tearDown inner _ _ _
      rw [if_pos hcurrent, ← hdisconnect]
      exact Connection.injected_le_openNext inner _
    · simp only [if_neg hcurrent, Nat.le_refl]

end Injected

/-! ### Connections that can be rebuilt -/

namespace Connection

variable {α : Type} {site : FileSite} {s s' : Store} {request : Request α}
  {c c' c'' : Connection (Faulty World) Statement}

/-- The connection is open and at rest, and no failure is planned for connecting or preparing. -/
structure IsKept (site : FileSite) (s : Store) (c : Connection (Faulty World) Statement) :
    Prop where
  isOpen : ∃ live, IsOpen site s c live
  connects : c.world.plan.queues .connect = []
  prepares : c.world.plan.queues .prepare = []

/-- What calls leave as it is, and that every reconnection is paid for by a failure. -/
structure Spends (c c' : Connection (Faulty World) Statement) : Prop where
  poolSize_eq : c'.poolSize = c.poolSize
  now_eq : c'.world.world.now = c.world.world.now
  reconnects_le : c'.reconnects + c.world.plan.injected ≤ c.reconnects + c'.world.plan.injected

theorem Spends.trans (h : Spends c c') (h' : Spends c' c'') : Spends c c'' := by
  refine ⟨h'.poolSize_eq.trans h.poolSize_eq, h'.now_eq.trans h.now_eq, ?_⟩
  have hfirst := h.reconnects_le
  have hsecond := h'.reconnects_le
  omega

theorem IsKept.withLog (h : IsKept site s c) (log : List Event) : IsKept site s { c with log } := by
  obtain ⟨live, hopen⟩ := h.isOpen
  exact ⟨⟨live, hopen.withLog log⟩, h.connects, h.prepares⟩

/-- What a request comes to on a connection that is kept. -/
inductive Answered (site : FileSite) (s : Store) (request : Request α)
    (c : Connection (Faulty World) Statement) :
    Except Error α → Connection (Faulty World) Statement → Prop
  | failed (c' : Connection (Faulty World) Statement) (h : IsKept site s c') :
      Answered site s request c (.error (.statement request.query.name)) c'
  | served (result : Except Error α) (c' : Connection (Faulty World) Statement)
      (rows : List Row) (s' : Store)
      (hreply : s.reply c.world.world.now request = .ok (rows, s')) (h : IsKept site s' c')
      (hresult : result = request.readOff rows ∨
        result = .error (.statement request.query.name)) :
      Answered site s request c result c'

/-- A pass takes no failure of connecting or preparing. -/
theorem Passed.isKept {live : Live Statement} (h : Passed site s' live c c')
    (hc : IsKept site s c)
    (hplan : c'.world.plan = c.world.plan ∨
      ∃ point, point ≠ .connect ∧ point ≠ .prepare ∧ c'.world.plan = c.world.plan.after point) :
    IsKept site s' c' := by
  obtain ⟨live', hopen, -⟩ := h.isOpen
  rcases hplan with hplan | ⟨point, hconnect, hprepare, hplan⟩
  · exact ⟨⟨live', hopen⟩, by rw [hplan, hc.connects], by rw [hplan, hc.prepares]⟩
  · refine ⟨⟨live', hopen⟩, ?_, ?_⟩
    · rw [hplan, FaultPlan.queues_after, if_neg hconnect.symm, hc.connects]
    · rw [hplan, FaultPlan.queues_after, if_neg hprepare.symm, hc.prepares]

/-- A connection that is kept can be rebuilt, which is one more reconnection. -/
theorem IsKept.rebuilt (h : IsKept site s c) {result : Except Error Unit}
    (hrebuilt : Rebuilt site s c c' result) :
    result = .ok () ∧ IsKept site s c' ∧ c'.reconnects = c.reconnects + 1 ∧
      c'.poolSize = c.poolSize ∧ c'.world.world.now = c.world.world.now := by
  have hnil : ∀ point, c.world.plan.queues point = [] → c'.world.plan.queues point = [] := by
    intro point hpoint
    have hused := hrebuilt.relinked.used point
    rwa [hpoint, List.suffix_nil] at hused
  rcases hrebuilt.outcome with ⟨hok, hopen, hreconnects⟩ | ⟨-, -, -, hconnect | hprepare⟩
  · exact ⟨hok, ⟨hopen, hnil .connect h.connects, hnil .prepare h.prepares⟩, hreconnects,
      hrebuilt.poolSize_eq, hrebuilt.relinked.now⟩
  · exact absurd h.connects hconnect
  · exact absurd h.prepares hprepare

/-- A connection that is kept is rebuilt when that is asked for. -/
theorem IsKept.reconnect (h : IsKept site s c) :
    ∃ c', Connection.reconnect site.driver c = (.ok (), c') ∧ IsKept site s c' ∧
      c'.reconnects = c.reconnects + 1 ∧ c.world.plan.injected ≤ c'.world.plan.injected ∧
      c'.poolSize = c.poolSize ∧ c'.world.world.now = c.world.world.now := by
  obtain ⟨live, hopen⟩ := h.isOpen
  obtain ⟨hok, hkept, hreconnects, hsize, hnow⟩ :=
    h.rebuilt (rebuilt_reconnect (.inl ⟨live, hopen⟩))
  exact ⟨_, Prod.ext hok rfl, hkept, hreconnects, injected_le_reconnectIfCurrent _ _ _, hsize, hnow⟩

/-- A pass runs into the failure that is due, which is then handed out. -/
theorem IsKept.attempt_of_due {live : Live Statement} (h : IsKept site s c)
    (hopen : IsOpen site s c live) (request : Request α) {step : Step} {err : DriverError}
    (hdue : c.world.plan.due = some (step, err)) :
    ∃ c' live', attempt site.driver request c = .failed live.generation step err c' ∧
      IsOpen site s c' live' ∧ live'.generation = live.generation ∧ IsKept site s c' ∧
      c'.poolSize = c.poolSize ∧ c'.world.world.now = c.world.world.now ∧
      c'.reconnects = c.reconnects ∧ c'.world.plan.injected = c.world.plan.injected + 1 := by
  obtain ⟨c', hattempt, hpassed, hworld⟩ := Connection.attempt_of_due hopen request hdue
  obtain ⟨live', hopen', hgeneration⟩ := hpassed.isOpen
  have hpoint : FaultPlan.pointOf step ≠ .connect ∧ FaultPlan.pointOf step ≠ .prepare := by
    cases step <;> decide
  refine ⟨c', live', hattempt, hopen', hgeneration,
    hpassed.isKept h (.inr ⟨_, hpoint.1, hpoint.2, by rw [hworld]⟩), hpassed.poolSize_eq,
    by rw [hworld], hpassed.reconnects_eq, ?_⟩
  rw [hworld]
  exact FaultPlan.injected_after_of_ne_nil (FaultPlan.queues_ne_nil_of_due hdue)

/-- A pass ends the request, unless it meets a dropped link and a retry is left. The failure is then
handed out already, and the connection is the one to rebuild. -/
theorem IsKept.answered_or_dropped (h : IsKept site s c) (request : Request α)
    (budget retries : Nat) :
    (∃ result c', perform site.driver request budget retries c = (result, c') ∧
        Answered site s request c result c' ∧ Spends c c') ∨
      budget ≠ 0 ∧ ∃ generation step err c' live',
        attempt site.driver request c = .failed generation step err c' ∧
        err.isLinkFailure = true ∧ IsOpen site s c' live' ∧ live'.generation = generation ∧
        IsKept site s c' ∧ c'.poolSize = c.poolSize ∧
        c'.world.world.now = c.world.world.now ∧ c'.reconnects = c.reconnects ∧
        c'.world.plan.injected = c.world.plan.injected + 1 := by
  obtain ⟨live, hopen⟩ := h.isOpen
  cases hdue : c.world.plan.due with
  | none =>
    left
    cases hreply : s.reply c.world.world.now request with
    | error err =>
      obtain ⟨c', hattempt, hpassed, hworld⟩ := attempt_of_refused hopen hdue hreply
      have hkept := hpassed.isKept h (.inl (by rw [hworld]))
      have hreconnects := hpassed.reconnects_eq
      have hinjected : c'.world.plan.injected = c.world.plan.injected := by rw [hworld]
      refine ⟨_, _, perform_of_final hattempt (.inr (Store.isLinkFailure_of_outcome hreply)),
        .failed _ (hkept.withLog _), hpassed.poolSize_eq, congrArg (·.world.now) hworld, ?_⟩
      change c'.reconnects + _ ≤ _ + c'.world.plan.injected
      omega
    | ok reply =>
      obtain ⟨rows, s'⟩ := reply
      obtain ⟨result, c', hattempt, hpassed, hworld, hresult⟩ :=
        attempt_of_served hopen hdue hreply
      have hnow : c'.world.world.now = c.world.world.now := by
        rw [hworld]
        exact FileSite.now_written _ _
      rcases hresult with ⟨hread, hplan⟩ | ⟨-, hfailed, hplan⟩
      · refine ⟨_, _, perform_of_done hattempt,
          .served _ _ rows s' hreply (hpassed.isKept h (.inl hplan)) (.inl hread),
          hpassed.poolSize_eq, hnow, ?_⟩
        have hinjected : c'.world.plan.injected = c.world.plan.injected := by rw [hplan]
        have hreconnects := hpassed.reconnects_eq
        omega
      · refine ⟨_, _, perform_of_done hattempt, .served _ _ rows s' hreply
          (hpassed.isKept h (.inr ⟨.fetch, by decide, by decide, hplan⟩)) (.inr hfailed),
          hpassed.poolSize_eq, hnow, ?_⟩
        rw [hplan, hpassed.reconnects_eq]
        exact Nat.add_le_add_left (FaultPlan.injected_le_after _ _) _
  | some due =>
    obtain ⟨step, err⟩ := due
    obtain ⟨c', live', hattempt, hopen', hgeneration, hkept, hsize, hnow, hreconnects,
      hinjected⟩ := h.attempt_of_due hopen request hdue
    by_cases hfinal : budget = 0 ∨ err.isLinkFailure = false
    · left
      refine ⟨_, _, perform_of_final hattempt hfinal, .failed _ (hkept.withLog _), hsize, hnow, ?_⟩
      change c'.reconnects + _ ≤ _ + c'.world.plan.injected
      omega
    · right
      obtain ⟨hleft, hlink⟩ := not_or.mp hfinal
      rw [Bool.not_eq_false] at hlink
      exact ⟨hleft, _, step, err, c', live', hattempt, hlink, hopen', hgeneration, hkept, hsize,
        hnow, hreconnects, hinjected⟩

/-- What is answered after the connection has been rebuilt is answered. -/
theorem Answered.of_now_eq {result : Except Error α} (h : Answered site s request c' result c'')
    (hnow : c'.world.world.now = c.world.world.now) : Answered site s request c result c'' := by
  cases h with
  | failed c'' hkept => exact .failed c'' hkept
  | served result c'' rows s' hreply hkept hresult =>
    rw [hnow] at hreply
    exact .served result c'' rows s' hreply hkept hresult

/-- However statements are planned to fail, a request on a connection that is kept is served or
fails as a statement, and the connection is kept. -/
theorem perform_answered (request : Request α) (budget retries : Nat) (h : IsKept site s c) :
    ∃ result c', perform site.driver request budget retries c = (result, c') ∧
      Answered site s request c result c' ∧ Spends c c' := by
  induction budget generalizing c retries with
  | zero =>
    rcases h.answered_or_dropped request 0 retries with hends | ⟨hleft, -⟩
    · exact hends
    · exact absurd rfl hleft
  | succ budget ih =>
    rcases h.answered_or_dropped request (budget + 1) retries with hends |
      ⟨-, generation, step, err, c', live', hattempt, hlink, hopen, rfl, hkept, hsize, hnow,
        hreconnects, hinjected⟩
    · exact hends
    · -- The failure that has been handed out pays for the reconnection.
      let noted := noteLinkFailure request.query step retries c'
      have hrebuilt := rebuilt_reconnectIfCurrent (hopen.withLog noted.log)
      obtain ⟨hok, hkept', hreconnects', hsize', hnow'⟩ :=
        (hkept.withLog noted.log).rebuilt hrebuilt
      have hinjected' : c'.world.plan.injected ≤
          (reconnectIfCurrent site.driver live'.generation noted).2.world.plan.injected :=
        injected_le_reconnectIfCurrent (Relational.driver site.config) live'.generation noted
      obtain ⟨result, last, hperform, hanswered, hspends⟩ := ih (retries + 1) hkept'
      have hresumed : perform site.driver request (budget + 1) retries c = (result, last) := by
        have hpair : reconnectIfCurrent site.driver live'.generation noted =
            (.ok (), (reconnectIfCurrent site.driver live'.generation noted).2) :=
          Prod.ext hok rfl
        rw [perform_of_linkFailure hattempt hlink]
        refine (congrArg (resume site.driver request budget (retries + 1)) hpair).trans ?_
        exact hperform
      refine ⟨result, last, hresumed, hanswered.of_now_eq (hnow'.trans hnow), ?_⟩
      refine .trans ⟨hsize'.trans hsize, hnow'.trans hnow, ?_⟩ hspends
      have hcount : (reconnectIfCurrent site.driver live'.generation noted).2.reconnects =
          c'.reconnects + 1 := hreconnects'
      change (reconnectIfCurrent site.driver live'.generation noted).2.reconnects + _ ≤
        _ + (reconnectIfCurrent site.driver live'.generation noted).2.world.plan.injected
      omega

end Connection

end Provenance
