import Provenance.Proofs.Reachable

/-!
The last pass over a request. Whatever outlasts failed passes, reconnections and messages holds when
a request is given up for a failure of the driver, or when the pass begins that brings its result
(`Connection.perform_ends`). So a request on a connection between calls is given up for such a
failure, or a pass serves it (`Connection.perform_cases`). One whose rows nobody reads is done
exactly if it has been served: no failed fetch can hide that (`Connection.perform_command`).
-/

set_option autoImplicit false
set_option relaxedAutoImplicit false

namespace Provenance

open Relational (Statement World)

/-- A driver call has failed, or no connection is open. -/
def Error.isFromDriver : Error → Bool
  | .connection _ | .prepare _ | .statement _ => true
  | _ => false

namespace Connection

section Passes

variable {W H α : Type} {driver : Driver W H} {request : Request α} {c : Connection W H}

/-- Failed passes, reconnections and messages leave it as it is. -/
structure Outlasts (driver : Driver W H) (request : Request α) (property : Connection W H → Prop) :
    Prop where
  failed : ∀ {c c' : Connection W H} {generation : Nat} {step : Step} {err : DriverError},
    property c → attempt driver request c = .failed generation step err c' → property c'
  logged : ∀ {c : Connection W H} (log : List Event), property c → property { c with log }
  reconnected : ∀ {c : Connection W H} (generation : Nat), property c →
    property (reconnectIfCurrent driver generation c).2
  connected : ∀ {c : Connection W H}, property c → property (reconnectIfDisconnected driver c).2

variable {property : Connection W H → Prop}

/-- Performing gives up for a failure of the driver where the property holds, or its result comes
from a pass that begins where the property holds. -/
def EndsIn (driver : Driver W H) (request : Request α) (property : Connection W H → Prop)
    (ended : Except Error α × Connection W H) : Prop :=
  (∃ err, ended.1 = .error err ∧ property ended.2 ∧ err.isFromDriver = true) ∨
    ∃ last, property last ∧ attempt driver request last = .done ended.1 ended.2

/-- A connection that cannot be built fails as the driver does. -/
theorem isFromDriver_build {target : String} {size generation : Nat} {world : W} {err : Error}
    (h : (Live.build driver target size generation world).1 = .error err) :
    err.isFromDriver = true := by
  unfold Live.build at h
  split at h
  · cases h
    rfl
  · split at h
    · cases h
    · cases h
      rfl

theorem isFromDriver_openNext {err : Error} (h : (openNext driver c).1 = .error err) :
    err.isFromDriver = true := by
  obtain ⟨result, built, hbuild⟩ : ∃ result built, Live.build driver c.target c.poolSize
      (c.lastGeneration + 1) c.world = (result, built) := ⟨_, _, rfl⟩
  unfold openNext at h
  dsimp only at h
  rw [hbuild] at h
  cases result with
  | error err' =>
    obtain rfl := Except.error.inj h
    exact isFromDriver_build (congrArg Prod.fst hbuild)
  | ok live => cases h

theorem isFromDriver_reconnectIfCurrent {generation : Nat} {err : Error}
    (h : (reconnectIfCurrent driver generation c).1 = .error err) : err.isFromDriver = true := by
  unfold reconnectIfCurrent at h
  split at h
  · split at h
    · exact isFromDriver_openNext h
    · cases h
  · exact isFromDriver_openNext h

theorem isFromDriver_reconnectIfDisconnected {err : Error}
    (h : (reconnectIfDisconnected driver c).1 = .error err) : err.isFromDriver = true := by
  unfold reconnectIfDisconnected at h
  split at h
  · cases h
  · exact isFromDriver_openNext h

/-- After a reconnection a request ends as the next passes do. -/
theorem endsIn_resume {budget retries : Nat}
    (ih : ∀ {c : Connection W H}, property c →
      EndsIn driver request property (perform driver request budget retries c))
    {reconnected : Except Error Unit × Connection W H} (h : property reconnected.2)
    (hdriver : ∀ {err}, reconnected.1 = .error err → err.isFromDriver = true) :
    EndsIn driver request property (resume driver request budget retries reconnected) := by
  obtain ⟨err | _, c⟩ := reconnected
  · exact .inl ⟨err, rfl, h, hdriver rfl⟩
  · exact ih h

theorem perform_ends (houtlasts : Outlasts driver request property) (budget retries : Nat)
    (h : property c) :
    EndsIn driver request property (perform driver request budget retries c) := by
  induction budget generalizing c retries with
  | zero =>
    cases hattempt : attempt driver request c with
    | done result c' =>
      rw [perform_of_done hattempt]
      exact .inr ⟨c, h, hattempt⟩
    | failed generation step err c' =>
      rw [perform_of_final hattempt (.inl rfl)]
      exact .inl ⟨_, rfl, houtlasts.logged _ (houtlasts.failed h hattempt), rfl⟩
    | unconnected =>
      simp only [perform, hattempt]
      exact .inl ⟨_, rfl, h, rfl⟩
  | succ budget ih =>
    cases hattempt : attempt driver request c with
    | done result c' =>
      rw [perform_of_done hattempt]
      exact .inr ⟨c, h, hattempt⟩
    | failed generation step err c' =>
      have hfailed := houtlasts.failed h hattempt
      by_cases hlink : err.isLinkFailure = true
      · rw [perform_of_linkFailure hattempt hlink]
        exact endsIn_resume (ih (retries + 1))
          (houtlasts.reconnected generation (houtlasts.logged _ hfailed))
          isFromDriver_reconnectIfCurrent
      · rw [Bool.not_eq_true] at hlink
        rw [perform_of_final hattempt (.inr hlink)]
        exact .inl ⟨_, rfl, houtlasts.logged _ hfailed, rfl⟩
    | unconnected =>
      rw [perform_of_unconnected hattempt]
      exact endsIn_resume (ih (retries + 1)) (houtlasts.connected (houtlasts.logged _ h))
        isFromDriver_reconnectIfDisconnected

end Passes

/-! ### Requests to a file site -/

variable {α : Type} {site : FileSite} {s : Store} {c : Connection (Faulty World) Statement}

theorem spared_reconnectIfCurrent (h : Settled site s c) (generation : Nat) :
    Spared site s c (reconnectIfCurrent site.driver generation c).2 := by
  rcases h with ⟨live, hopen⟩ | hclosed
  · by_cases hcurrent : live.generation = generation
    · subst hcurrent
      exact (rebuilt_reconnectIfCurrent hopen).spared hopen.keeps
    · have hsame : reconnectIfCurrent site.driver generation c = (.ok (), c) := by
        simp only [reconnectIfCurrent, hopen.live_eq, if_neg hcurrent]
      rw [hsame]
      exact ⟨.inl ⟨live, hopen⟩, .refl _, rfl, rfl⟩
  · have hopens : reconnectIfCurrent site.driver generation c = openNext site.driver c := by
      simp only [reconnectIfCurrent, hclosed.live_eq]
    rw [hopens]
    exact (rebuilt_openNext hclosed).spared hclosed.keeps

theorem spared_reconnectIfDisconnected (h : Settled site s c) :
    Spared site s c (reconnectIfDisconnected site.driver c).2 := by
  rcases h with ⟨live, hopen⟩ | hclosed
  · have hsame : reconnectIfDisconnected site.driver c = (.ok (), c) := by
      simp only [reconnectIfDisconnected, hopen.live_eq]
    rw [hsame]
    exact ⟨.inl ⟨live, hopen⟩, .refl _, rfl, rfl⟩
  · exact (rebuilt_reconnectIfDisconnected hclosed).spared hclosed.keeps

/-- A store is spared by whatever comes before the last pass. -/
theorem outlasts_spared (request : Request α) :
    Outlasts site.driver request (Spared site s c) where
  failed := by
    intro c₁ c₂ generation step err hspared hattempt
    rcases hspared.settled with ⟨live, hopen⟩ | hclosed
    · rcases attempt_cases hopen request with ⟨_, _, _, _, hdone, -⟩ |
        ⟨_, _, c', _, hfailed, -, -, hspared'⟩
      · cases hattempt.symm.trans hdone
      · cases hattempt.symm.trans hfailed
        exact hspared.trans hspared'
    · cases hattempt.symm.trans (attempt_of_closed hclosed.live_eq)
  logged := fun log hspared ↦ hspared.withLog log
  reconnected := fun generation hspared ↦
    hspared.trans (spared_reconnectIfCurrent hspared.settled generation)
  connected := fun hspared ↦ hspared.trans (spared_reconnectIfDisconnected hspared.settled)

/-- A request is given up for a failure of the driver and has not been served, or it is done by a
pass on an open connection, which has served it. -/
theorem perform_cases (request : Request α) (budget retries : Nat) (h : Settled site s c) :
    (∃ err c', perform site.driver request budget retries c = (.error err, c') ∧
        err.isFromDriver = true ∧ Spared site s c c') ∨
      ∃ last live result c' rows s', IsOpen site s last live ∧
        attempt site.driver request last = .done result c' ∧
        perform site.driver request budget retries c = (result, c') ∧
        Served site s request c result c' rows s' := by
  have hspared : Spared site s c c := ⟨h, .refl _, rfl, rfl⟩
  obtain ⟨result, c', hperform⟩ : ∃ result c',
      perform site.driver request budget retries c = (result, c') := ⟨_, _, rfl⟩
  have hends := perform_ends (outlasts_spared request) budget retries hspared
  rw [hperform] at hends ⊢
  rcases hends with ⟨err, rfl, hspared', hdriver⟩ | ⟨last, hlast, hattempt⟩
  · exact .inl ⟨err, c', rfl, hdriver, hspared'⟩
  · rcases hlast.settled with ⟨live, hopen⟩ | hclosed
    · rcases attempt_cases hopen request with ⟨_, _, rows, s', hdone, hserved⟩ |
        ⟨_, _, _, _, hfailed, -⟩
      · cases hattempt.symm.trans hdone
        exact .inr ⟨last, live, result, c', rows, s', hopen, hattempt, rfl, hlast.served hserved⟩
      · cases hattempt.symm.trans hfailed
    · cases hattempt.symm.trans (attempt_of_closed hclosed.live_eq)

/-! ### Requests whose rows nobody reads -/

/-- On an open connection a pass over a request whose rows nobody reads is done without a failure,
if it is done. -/
theorem result_of_attempt_command {live : Live Statement} (h : IsOpen site s c live)
    {query : Query} {params : List Value} {result : Except Error Unit}
    {c' : Connection (Faulty World) Statement}
    (hattempt : attempt site.driver (.command query params) c = .done result c') :
    result = .ok () := by
  obtain ⟨pool, hpool, hfull⟩ := h.rested.get? query
  obtain ⟨handle, rest, hacquire, -⟩ := hfull.acquire h.sized
  have hquery : (Request.command query params).query = query := rfl
  simp only [attempt, hquery, h.live_eq, hpool, hacquire] at hattempt
  split at hattempt
  · cases hattempt
  · split at hattempt
    · cases hattempt
    · cases hattempt
      rfl

/-- A request whose rows nobody reads fails and has not been served, or it is done and has been. -/
theorem perform_command (query : Query) (params : List Value) (budget retries : Nat)
    (h : Settled site s c) :
    (∃ err c', perform site.driver (.command query params) budget retries c = (.error err, c') ∧
        Spared site s c c') ∨
      ∃ c' rows s', perform site.driver (.command query params) budget retries c = (.ok (), c') ∧
        Served site s (.command query params) c (.ok ()) c' rows s' := by
  rcases perform_cases (.command query params) budget retries h with
    ⟨err, c', hperform, -, hspared⟩ |
      ⟨last, live, result, c', rows, s', hopen, hattempt, hperform, hserved⟩
  · exact .inl ⟨err, c', hperform, hspared⟩
  · obtain rfl := result_of_attempt_command hopen hattempt
    exact .inr ⟨c', rows, s', hperform, hserved⟩

end Connection

end Provenance
