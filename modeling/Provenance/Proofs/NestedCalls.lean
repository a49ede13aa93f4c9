import Provenance.Proofs.SharedConnection
import Provenance.Proofs.Tally

/-!
Calls that wait for nobody. A caller of a shared connection that is left alone takes its own steps
while the others stay where they are (`Alone`); it may rebuild the connection as long as none of the
others is in a pass. On a connection between calls a caller that is left alone gets its answer, the
one that performing its request has (`alone_perform`), and a caller that asks for a new connection
gets it (`alone_reconnect`). What it does alone it also does among the others (`Leads.alone`). A
caller that has been answered and has not gone on yet is in no pass: whatever it calls meanwhile
need not wait for it (`Tallied.unhindered`).
-/

set_option autoImplicit false
set_option relaxedAutoImplicit false

namespace Provenance.Connection

open Relational (Statement)

/-! ### Callers that are left alone -/

namespace Shared

variable {W H : Type}

/-- Some steps of one caller while the others take none. It rebuilds the connection only if none of
them is in a pass. -/
inductive Alone (driver : Driver W H) (others : List (Caller H)) (c : Connection W H)
    (caller : Caller H) : Connection W H → Caller H → Prop
  | refl : Alone driver others c caller c caller
  | turn {c' c'' : Connection W H} {caller' caller'' : Caller H}
      (h : Alone driver others c caller c' caller') (hturn : Turn driver c' caller' c'' caller'') :
      Alone driver others c caller c'' caller''
  | rebuilds {c' : Connection W H} {caller' : Caller H} {wish : Wish}
      (h : Alone driver others c caller c' caller') (hwish : caller'.wish? = some wish)
      (halone : ∀ other ∈ others, other.isInside = false) :
      Alone driver others c caller (wish.grant driver c').2
        (caller'.afterGrant (wish.grant driver c').1)

variable {driver : Driver W H} {others : List (Caller H)} {c c' c'' : Connection W H}
  {caller caller' caller'' : Caller H}

theorem Alone.trans (h : Alone driver others c caller c' caller')
    (h' : Alone driver others c' caller' c'' caller'') :
    Alone driver others c caller c'' caller'' := by
  induction h' with
  | refl => exact h
  | turn _ hturn ih => exact ih.turn hturn
  | rebuilds _ hwish halone ih => exact ih.rebuilds hwish halone

theorem Turns.alone (h : Turns driver c caller c' caller') :
    Alone driver others c caller c' caller' := by
  induction h with
  | refl => exact .refl
  | step _ hturn ih => exact ih.turn hturn

/-- What a caller does alone it also does among the others. -/
theorem Leads.alone {start : Shared W H} {history : List (Rebuild W H)}
    {before after : List (Caller H)}
    (h : Leads driver start history ⟨c, before ++ caller :: after⟩)
    (halone : Alone driver (before ++ after) c caller c' caller') :
    ∃ made, Leads driver start (history ++ made) ⟨c', before ++ caller' :: after⟩ := by
  induction halone with
  | refl => exact ⟨[], by rwa [List.append_nil]⟩
  | turn _ hturn ih =>
    obtain ⟨made, hleads⟩ := ih
    have hstep := hleads.step (.turn before after hturn)
    exact ⟨made, by rwa [List.append_nil] at hstep⟩
  | @rebuilds c' caller' wish _ hwish hothers ih =>
    obtain ⟨made, hleads⟩ := ih
    have hstep := hleads.step (.rebuilds c' before after hwish hothers)
    exact ⟨made ++ [⟨wish, c', (wish.grant driver c').2⟩], by rwa [List.append_assoc] at hstep⟩

end Shared

open Shared

/-! ### Requests -/

variable {W α : Type} {driver : Driver W Statement} {t : Tally driver} {size : Nat}
  {others : List (Caller Statement)} {c : Connection W Statement} {request : Request α}

/-- Nobody waits for a statement of a connection that has all of them. -/
theorem Tallied.acquire_ne_blocked (h : c.Tallied t size) (hsize : 0 < size) (query : Query)
    (live : Live Statement) (pool : Pool Statement) (hlive : c.live = some live)
    (hpool : live.pools.get? query = some pool) : pool.acquire ≠ .blocked := by
  rcases h.state with ⟨live', hholds⟩ | ⟨hnone, -⟩
  · obtain rfl := Option.some.inj (hlive.symm.trans hholds.live_eq)
    obtain ⟨pool', hpool', hfull⟩ := hholds.rested.get? query
    obtain rfl := Option.some.inj (hpool.symm.trans hpool')
    obtain ⟨handle, rest, hacquire, -⟩ := hfull.acquire (h.poolSize_eq ▸ hsize)
    rw [hacquire]
    nofun
  · cases hlive.symm.trans hnone

/-- The caller gets this answer to its request if it is left alone. -/
def AnswersAlone (driver : Driver W Statement) (others : List (Caller Statement))
    (request : Request α) (c : Connection W Statement) (caller : Caller Statement)
    (outcome : Except Error α × Connection W Statement) : Prop :=
  ∃ left behind, Alone driver others c caller outcome.2
    (.answered ⟨α, request, left, behind⟩ outcome.1)

/-- An answer that a caller gets alone it also gets among the others, from where they stay. -/
theorem AnswersAlone.exists_leads {before after : List (Caller Statement)} {budget retries : Nat}
    {outcome : Except Error α × Connection W Statement}
    (h : AnswersAlone driver (before ++ after) request c (.calling ⟨α, request, budget, retries⟩)
      outcome)
    {start : Shared W Statement} {history : List (Rebuild W Statement)}
    (hleads : Leads driver start history ⟨c, before ++ .idle :: after⟩) :
    ∃ made left behind, Leads driver start (history ++ made)
      ⟨outcome.2, before ++ .answered ⟨α, request, left, behind⟩ outcome.1 :: after⟩ := by
  obtain ⟨left, behind, hanswers⟩ := h
  have hcalls : Alone driver (before ++ after) c .idle c (.calling ⟨α, request, budget, retries⟩) :=
    Alone.refl.turn (.calls _)
  obtain ⟨made, hmade⟩ := hleads.alone (hcalls.trans hanswers)
  exact ⟨made, left, behind, hmade⟩

/-- A caller whose wish has been granted goes on as its request does. -/
theorem answersAlone_resume {budget retries : Nat}
    (ih : ∀ {c : Connection W Statement}, c.Tallied t size →
      AnswersAlone driver others request c (.calling ⟨α, request, budget, retries⟩)
        (perform driver request budget retries c))
    {caller waiting : Caller Statement} {c' : Connection W Statement} {wish : Wish}
    (h : Alone driver others c caller c' waiting) (hwish : waiting.wish? = some wish)
    (halone : ∀ other ∈ others, other.isInside = false)
    (hafter : ∀ result : Except Error Unit, waiting.afterGrant result =
      match result with
      | .ok () => .calling ⟨α, request, budget, retries⟩
      | .error err => .answered ⟨α, request, budget, retries⟩ (.error err))
    (htallied : (wish.grant driver c').2.Tallied t size) :
    AnswersAlone driver others request c caller
      (resume driver request budget retries (wish.grant driver c')) := by
  have hgranted := h.rebuilds hwish halone
  rw [hafter] at hgranted
  generalize wish.grant driver c' = granted at hgranted htallied ⊢
  obtain ⟨err | _, renewed⟩ := granted
  · exact ⟨budget, retries, hgranted⟩
  · obtain ⟨left, behind, hanswered⟩ := ih htallied
    exact ⟨left, behind, hgranted.trans hanswered⟩

/-- A pass of a caller that is left alone: its call is answered, or it has failed. -/
theorem alone_attempt (h : c.Tallied t size) (hsize : 0 < size) (call : Call) :
    (∀ result c', attempt driver call.request c = .done result c' →
        Alone driver others c (.calling call) c' (.answered call result)) ∧
      ∀ generation step err c', attempt driver call.request c = .failed generation step err c' →
        Alone driver others c (.calling call) c' (.leaving call generation (.failed step err)) := by
  obtain ⟨hdone, hfailed⟩ := turns_attempt (h.acquire_ne_blocked hsize call.query)
  refine ⟨fun result c' hattempt ↦ ?_, fun generation step err c' hattempt ↦
    (hfailed generation step err c' hattempt).alone⟩
  obtain ⟨generation, hturns⟩ := hdone result c' hattempt
  exact hturns.alone.turn (.ends call generation result)

/-- A caller that is left alone gets the answer that performing its request has. -/
theorem alone_perform (halone : ∀ other ∈ others, other.isInside = false) (hsize : 0 < size)
    (request : Request α) (budget retries : Nat) (h : c.Tallied t size) :
    AnswersAlone driver others request c (.calling ⟨α, request, budget, retries⟩)
      (perform driver request budget retries c) := by
  induction budget generalizing c retries with
  | zero =>
    let call : Call := ⟨α, request, 0, retries⟩
    obtain ⟨hdone, hfailed⟩ := alone_attempt h hsize call
    cases hattempt : attempt driver request c with
    | done result c' =>
      rw [perform_of_done hattempt]
      exact ⟨0, retries, hdone result c' hattempt⟩
    | unconnected =>
      have hnone := live_eq_none_of_unconnected hattempt
      rw [perform_zero_of_closed hnone]
      exact ⟨0, retries, Alone.refl.turn (.refused call hnone rfl)⟩
    | failed generation step err c' =>
      rw [perform_of_final hattempt (.inl rfl)]
      exact ⟨0, retries, (hfailed generation step err c' hattempt).turn
        (.fails call generation step err (.inl rfl))⟩
  | succ budget ih =>
    let call : Call := ⟨α, request, budget + 1, retries⟩
    have hbudget : call.budget ≠ 0 := Nat.succ_ne_zero budget
    obtain ⟨hdone, hfailed⟩ := alone_attempt h hsize call
    cases hattempt : attempt driver request c with
    | done result c' =>
      rw [perform_of_done hattempt]
      exact ⟨budget + 1, retries, hdone result c' hattempt⟩
    | unconnected =>
      have hnone := live_eq_none_of_unconnected hattempt
      have hstranded : Alone driver others c (.calling call) _ (.stranded call.next) :=
        Alone.refl.turn (.strands call hnone hbudget)
      rw [perform_of_closed hnone]
      exact answersAlone_resume (ih (retries + 1)) hstranded rfl halone (fun _ ↦ rfl)
        (h.withLog _).reconnectIfDisconnected
    | failed generation step err c' =>
      have hpass := hfailed generation step err c' hattempt
      cases hlink : err.isLinkFailure with
      | false =>
        rw [perform_of_final hattempt (.inr hlink)]
        exact ⟨budget + 1, retries,
          hpass.turn (.fails call generation step err (.inr hlink))⟩
      | true =>
        have hafter := h.attempt hsize request
        rw [hattempt] at hafter
        have hbroken : Alone driver others c (.calling call) _ (.broken call.next generation) :=
          hpass.turn (.breaks call generation step err hbudget hlink)
        rw [perform_of_linkFailure hattempt hlink]
        exact answersAlone_resume (ih (retries + 1)) hbroken rfl halone (fun _ ↦ rfl)
          (Tallied.reconnectIfCurrent (Tallied.withLog hafter _) generation)

/-- A caller that is left alone and asks for a new connection gets it. -/
theorem alone_reconnect (halone : ∀ other ∈ others, other.isInside = false)
    (c : Connection W Statement) :
    Alone driver others c .idle (reconnect driver c).2 .idle := by
  let generation := (c.live.map (·.generation)).getD 0
  have hasks : Alone driver others c .idle c (.renewing generation) := Alone.refl.turn .asks
  have hwish : (Caller.renewing generation : Caller Statement).wish? = some (.current generation) :=
    rfl
  exact hasks.rebuilds hwish halone

/-- Nobody has to be waited for: as long as no caller is in a pass, a call gets its answer from its
own steps alone, and so does a caller that reconnects. -/
structure Unhindered (driver : Driver W Statement) (c : Connection W Statement) : Prop where
  performs : ∀ {α : Type} (request : Request α) (budget retries : Nat)
    (others : List (Caller Statement)), (∀ other ∈ others, other.isInside = false) →
    AnswersAlone driver others request c (.calling ⟨α, request, budget, retries⟩)
      (perform driver request budget retries c)
  reconnects : ∀ others : List (Caller Statement), (∀ other ∈ others, other.isInside = false) →
    Alone driver others c .idle (reconnect driver c).2 .idle
  /-- So the callers that share the connection can come to where the call is answered and none of
  the others has moved. -/
  nested : ∀ {α : Type} (request : Request α) (budget retries : Nat) {start : Shared W Statement}
    {history : List (Rebuild W Statement)} {before after : List (Caller Statement)},
    (∀ other ∈ before ++ after, other.isInside = false) →
    Leads driver start history ⟨c, before ++ .idle :: after⟩ →
    ∃ made left behind, Leads driver start (history ++ made)
      ⟨(perform driver request budget retries c).2, before ++
        .answered ⟨α, request, left, behind⟩ (perform driver request budget retries c).1 :: after⟩

theorem Tallied.unhindered (h : c.Tallied t size) (hsize : 0 < size) : Unhindered driver c where
  performs request budget retries _ halone := alone_perform halone hsize request budget retries h
  reconnects _ halone := alone_reconnect halone c
  nested request budget retries _ _ _ _ halone hleads :=
    (alone_perform halone hsize request budget retries h).exists_leads hleads

end Provenance.Connection
