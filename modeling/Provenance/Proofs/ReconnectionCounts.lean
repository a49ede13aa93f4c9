import Mathlib.Logic.Relation
import Provenance.Proofs.CallFrames
import Provenance.Proofs.Leaks

/-!
Generations and reconnections. Every attempt to connect again takes a generation number of its own,
one that fails as well as one that succeeds; only the latter counts as a reconnection. The calls of
the driver show both: an attempt asks for one connection, and fails because that is refused or
because a statement cannot be prepared (`Opens.build`). Nothing else a backend does touches either
count (`Numbered`), so the generation that is open is one more than the attempts since the backend
was made (`generation_counts_attempts`).
-/

set_option autoImplicit false
set_option relaxedAutoImplicit false

namespace Provenance

/-! ### Attempts in a log of calls -/

namespace CallLog

/-- How many connections have been asked for. -/
def connects (calls : CallLog) : Nat := calls.count (.connect, true) + calls.count (.connect, false)

/-- How many connections could not be opened: the connection was refused, or a statement was. -/
def failedOpenings (calls : CallLog) : Nat :=
  calls.count (.connect, false) + calls.count (.prepare, false)

theorem connects_append (calls more : CallLog) :
    CallLog.connects (calls ++ more) = calls.connects + more.connects := by
  simp only [connects, List.count_append]
  omega

theorem failedOpenings_append (calls more : CallLog) :
    CallLog.failedOpenings (calls ++ more) = calls.failedOpenings + more.failedOpenings := by
  simp only [failedOpenings, List.count_append]
  omega

end CallLog

/-- Between two worlds so many connections have been asked for, and so many could not be opened. -/
structure Opens {W : Type} (attempts failures : Nat) (w w' : Recorded W) : Prop where
  calls : ∃ since, w'.calls = w.calls ++ since ∧ since.connects = attempts ∧
    since.failedOpenings = failures

namespace Opens

variable {W H α : Type} {attempts failures attempts' failures' : Nat} {w w' w'' : Recorded W}

theorem refl (w : Recorded W) : Opens 0 0 w w := ⟨[], (List.append_nil _).symm, rfl, rfl⟩

theorem trans (h : Opens attempts failures w w') (h' : Opens attempts' failures' w' w'') :
    Opens (attempts + attempts') (failures + failures') w w'' := by
  obtain ⟨first, hfirst, rfl, rfl⟩ := h.calls
  obtain ⟨next, hnext, rfl, rfl⟩ := h'.calls
  refine ⟨first ++ next, ?_, first.connects_append next, first.failedOpenings_append next⟩
  rw [hnext, hfirst, List.append_assoc]

/-- One call of the driver. -/
theorem single (w : Recorded W) (world : W) (call : DriverCall) (ok : Bool) :
    Opens (CallLog.connects [(call, ok)]) (CallLog.failedOpenings [(call, ok)]) w
      ⟨world, w.calls ++ [(call, ok)]⟩ := ⟨_, rfl, rfl, rfl⟩

/-- A call that opens nothing counts for nothing. -/
theorem neutral {call : DriverCall} (hconnect : call ≠ .connect) (hprepare : call ≠ .prepare)
    (w : Recorded W) (world : W) (ok : Bool) :
    Opens 0 0 w ⟨world, w.calls ++ [(call, ok)]⟩ := by
  have hsingle := single w world call ok
  cases call <;> first | exact hsingle | contradiction

/-! ### Opening a connection -/

variable (inner : Driver W H)

theorem prepareHandles (query : Query) (size : Nat) (w : Recorded W) :
    Opens 0 (if (Live.prepareHandles (Recorded.driver inner) query size w).1.2.isSome then 1 else 0)
      w (Live.prepareHandles (Recorded.driver inner) query size w).2 := by
  induction size generalizing w with
  | zero => exact refl w
  | succ size ih =>
    have hprepare : (Recorded.driver inner).prepare query w =
        Recorded.note .prepare w.calls (inner.prepare query w.world) := rfl
    simp only [Live.prepareHandles, hprepare, Recorded.note]
    rcases inner.prepare query w.world with ⟨err | handle, world⟩
    · exact single w world .prepare false
    · have hrest := (single w world .prepare true).trans
        (ih ⟨world, w.calls ++ [(.prepare, true)]⟩)
      rwa [show CallLog.connects [(.prepare, true)] + 0 = 0 from rfl,
        show CallLog.failedOpenings [(.prepare, true)] = 0 from rfl, Nat.zero_add] at hrest

/-- How often a statement was refused while the pools were prepared. -/
def refusals : Live.Prepared H → Nat
  | .all _ => 0
  | .failed .. => 1

theorem preparePools (size : Nat) (queries : List Query) (w : Recorded W) :
    Opens 0 (refusals (Live.preparePools (Recorded.driver inner) size queries w).1) w
      (Live.preparePools (Recorded.driver inner) size queries w).2 := by
  induction queries generalizing w with
  | nil => exact refl w
  | cons query rest ih =>
    have hhandles := prepareHandles inner query size w
    rcases hprepared : Live.prepareHandles (Recorded.driver inner) query size w with
      ⟨⟨handles, _ | err⟩, w'⟩ <;> rw [hprepared] at hhandles
    · have hrest := hhandles.trans (ih w')
      rcases hpools : Live.preparePools (Recorded.driver inner) size rest w' with
        ⟨pools | ⟨query', err, more⟩, w''⟩ <;> rw [hpools] at hrest <;>
        simp only [Live.preparePools, hprepared, hpools] <;> exact hrest
    · simp only [Live.preparePools, hprepared]
      exact hhandles

theorem tearDown (generation : Nat) (handles : List H) (w : Recorded W) :
    Opens 0 0 w (Live.tearDown (Recorded.driver inner) generation handles w).1 := by
  have hemptied : ∀ w : Recorded W, Opens 0 0 w
      (handles.foldl (fun world handle ↦ (Recorded.driver inner).discard handle world) w) := by
    induction handles with
    | nil => exact refl
    | cons handle rest ih =>
      exact fun w ↦ (neutral (by decide) (by decide) w _ true).trans (ih _)
  have hdisconnect : ∀ w, (Recorded.driver inner).disconnect w =
      Recorded.note .disconnect w.calls (inner.disconnect w.world) := fun _ ↦ rfl
  have hfold := hemptied w
  simp only [Live.tearDown, hdisconnect, Recorded.note]
  generalize handles.foldl (fun world handle ↦ (Recorded.driver inner).discard handle world) w =
    emptied at hfold ⊢
  rcases inner.disconnect emptied.world with ⟨err | _, world⟩
  · exact hfold.trans (neutral (by decide) (by decide) emptied world false)
  · exact hfold.trans (neutral (by decide) (by decide) emptied world true)

/-- Building a connection asks for one, and fails once if it fails. -/
theorem build (target : String) (size generation : Nat) (w : Recorded W) :
    let built := Live.build (Recorded.driver inner) target size generation w
    Opens 1 (if built.1.isOk then 0 else 1) w built.2.1 := by
  have hconnect : (Recorded.driver inner).connect target w =
      Recorded.note .connect w.calls (inner.connect target w.world) := rfl
  simp only [Live.build, hconnect, Recorded.note]
  rcases inner.connect target w.world with ⟨err | _, world⟩
  · exact single w world .connect false
  · have hpools := (single w world .connect true).trans
      (preparePools inner size Query.all ⟨world, w.calls ++ [(.connect, true)]⟩)
    rcases hprepared : Live.preparePools (Recorded.driver inner) size Query.all
        ⟨world, w.calls ++ [(.connect, true)]⟩ with ⟨pools | ⟨query, err, handles⟩, w'⟩ <;>
      rw [hprepared] at hpools <;> simp only [Except.isOk, Except.toBool, hprepared]
    · exact hpools
    · exact hpools.trans (tearDown inner generation handles w')

end Opens

/-! ### The counts of a connection -/

namespace Connection

variable {W H α : Type} {inner : Driver W H} {start : Recorded W}
  {c c' : Connection (Recorded W) H}

/-- Since the first connection was made, in the world `start`, every attempt to connect again has
taken the next generation, and the successful ones have been counted as reconnections. -/
structure Numbered (start : Recorded W) (c : Connection (Recorded W) H) : Prop where
  attempts : ∃ attempts failures, Opens attempts failures start c.world ∧
    c.lastGeneration = 1 + attempts ∧ attempts = c.reconnects + failures
  live : ∀ live, c.live = some live → live.generation = c.lastGeneration

namespace Numbered

/-- Whatever opens no connection leaves the counts as they are. -/
theorem of_untouched (h : c.Numbered start) (hopens : Opens 0 0 c.world c'.world)
    (huntouched : Untouched c c') : c'.Numbered start := by
  obtain ⟨attempts, failures, hbefore, hlast, hcounts⟩ := h.attempts
  refine ⟨⟨attempts, failures, hbefore.trans hopens, ?_, ?_⟩, fun live' hlive' ↦ ?_⟩
  · rw [huntouched.lastGeneration, hlast]
  · rw [huntouched.reconnects, hcounts]
  · have hsame := huntouched.generation
    rw [hlive'] at hsame
    obtain ⟨live, hlive, hgeneration⟩ := Option.map_eq_some_iff.mp hsame.symm
    rw [huntouched.lastGeneration, ← h.live live hlive, hgeneration]

theorem withLog (h : c.Numbered start) (log : List Event) :
    Numbered start { c with log } := h.of_untouched (.refl _) ⟨rfl, rfl, rfl⟩

theorem disconnect (h : c.Numbered start) :
    (Connection.disconnect (Recorded.driver inner) c).Numbered start := by
  obtain ⟨attempts, failures, hbefore, hlast, hcounts⟩ := h.attempts
  unfold Connection.disconnect
  split
  · exact h
  · rename_i live hlive
    exact ⟨⟨attempts, failures,
      hbefore.trans (Opens.tearDown inner live.generation live.pools.handles c.world), hlast,
      hcounts⟩, nofun⟩

/-- An attempt to connect takes the next generation, and is a reconnection if it succeeds. -/
theorem openNext (h : c.Numbered start) :
    (Connection.openNext (Recorded.driver inner) c).2.Numbered start := by
  obtain ⟨attempts, failures, hbefore, hlast, hcounts⟩ := h.attempts
  have hbuild := Opens.build inner c.target c.poolSize (c.lastGeneration + 1) c.world
  obtain ⟨hnext, hlive⟩ := openNext_generation (Recorded.driver inner) c
  constructor
  · rw [hnext]
    unfold Connection.openNext
    dsimp only
    split
    · rename_i live w events hbuilt
      rw [hbuilt] at hbuild
      refine ⟨attempts + 1, failures, hbefore.trans hbuild, ?_, ?_⟩
      · rw [hlast, Nat.add_assoc]
      · change attempts + 1 = c.reconnects + 1 + failures
        omega
    · rename_i err w events hbuilt
      rw [hbuilt] at hbuild
      refine ⟨attempts + 1, failures + 1, hbefore.trans hbuild, ?_, ?_⟩
      · rw [hlast, Nat.add_assoc]
      · change attempts + 1 = c.reconnects + (failures + 1)
        omega
  · rw [hnext]
    exact hlive

theorem reconnectIfCurrent (h : c.Numbered start) (generation : Nat) :
    (Connection.reconnectIfCurrent (Recorded.driver inner) generation c).2.Numbered start := by
  unfold Connection.reconnectIfCurrent
  split
  · split
    · exact h.disconnect.openNext
    · exact h
  · exact h.openNext

theorem reconnectIfDisconnected (h : c.Numbered start) :
    (Connection.reconnectIfDisconnected (Recorded.driver inner) c).2.Numbered start := by
  unfold Connection.reconnectIfDisconnected
  split
  · exact h
  · exact h.openNext

/-- No call of a pass opens a connection. -/
theorem frame (inner : Driver W H) (request : Request α) :
    PassFrame (Recorded.driver inner) request (Opens 0 0) where
  refl := Opens.refl
  trans h h' := h.trans h'
  bind _ w := Opens.neutral (by decide) (by decide) w _ _
  execute _ w := Opens.neutral (by decide) (by decide) w _ _
  fetch _ w := Opens.neutral (by decide) (by decide) w _ _
  column _ _ w := Opens.neutral (by decide) (by decide) w _ _
  close _ w := Opens.neutral (by decide) (by decide) w _ _

theorem attempt (h : c.Numbered start) (request : Request α) :
    ((Connection.attempt (Recorded.driver inner) request c).after c).Numbered start :=
  h.of_untouched ((frame inner request).attempt c) (untouched_attempt _ _ _)

theorem outlasts (request : Request α) :
    Outlasts (Recorded.driver inner) request (Numbered start) where
  failed := by
    intro c c' generation step err h hattempt
    have hafter : ((Connection.attempt (Recorded.driver inner) request c).after c).Numbered start :=
      h.attempt request
    rwa [hattempt] at hafter
  logged log h := h.withLog log
  reconnected generation h := h.reconnectIfCurrent generation
  connected h := h.reconnectIfDisconnected

theorem perform (h : c.Numbered start) (request : Request α) (budget retries : Nat) :
    (Connection.perform (Recorded.driver inner) request budget retries c).2.Numbered start := by
  refine (outlasts request).perform ?_ h
  intro c c' result h hattempt
  have hafter : ((Connection.attempt (Recorded.driver inner) request c).after c).Numbered start :=
    h.attempt request
  rwa [hattempt] at hafter

end Numbered

/-- The first connection has the first generation. -/
theorem numbered_start {driver : Driver (Recorded W) H} {target : String} {size : Nat}
    (h : Connection.start driver target size start = (.ok (), c)) : c.Numbered c.world := by
  unfold Connection.start at h
  split at h
  · cases h
  · split at h
    · rename_i live w events hbuild
      cases h
      refine ⟨⟨0, 0, .refl _, rfl, rfl⟩, fun other hother ↦ ?_⟩
      rw [← Option.some.inj hother]
      exact generation_of_build hbuild
    · cases h

end Connection

/-! ### The life of a backend -/

namespace Watched

open Relational (Config)

variable {config : Config} {start backend backend' : Watcher}

/-- What can happen to a backend, as long as it is not dropped. -/
abbrev Leads (config : Config) : Watcher → Watcher → Prop :=
  Relation.ReflTransGen fun before after ↦ Step config (.opened before) (.opened after)

theorem numbered_of_step (hstep : Step config (.opened backend) (.opened backend'))
    {first : Watch} (h : backend.connection.Numbered first) :
    backend'.connection.Numbered first := by
  generalize hstate : State.opened backend = state at hstep
  generalize hstate' : State.opened backend' = state' at hstep
  cases hstep with
  | started | refused | dropped => cases hstate <;> cases hstate'
  | disconnected =>
    cases hstate
    cases hstate'
    have hafter : (Connection.disconnect (Recorded.driver (Relational.faulty config))
      backend.connection).Numbered first := h.disconnect
    exact hafter
  | called _ op =>
    cases hstate
    cases hstate'
    cases hrequest : op.form.request backend.reader with
    | error err =>
      rw [Backend.run_call_of_error hrequest]
      exact h
    | ok request =>
      rw [Backend.run_call_of_ok hrequest]
      exact h.perform request _ _
  | reconnected =>
    cases hstate
    cases hstate'
    exact h.reconnectIfCurrent _
  | planned | altered =>
    cases hstate
    cases hstate'
    exact h.of_untouched ⟨[], (List.append_nil _).symm, rfl, rfl⟩ ⟨rfl, rfl, rfl⟩

theorem numbered_of_leads {text : String} {options : Options} {zone : Zone} {w : Watch}
    (hstart : Backend.start (driver config) text options zone w = (.ok (), start))
    (hleads : Leads config start backend) :
    backend.connection.Numbered start.connection.world := by
  induction hleads with
  | refl =>
    obtain ⟨result, c, hc⟩ : ∃ result c,
        Connection.start (driver config) text options.poolSize w = (result, c) := ⟨_, _, rfl⟩
    rw [Backend.start, hc] at hstart
    cases hstart
    exact Connection.numbered_start hc
  | tail _ hstep ih => exact numbered_of_step hstep ih

/-- Whatever an operation and its callback do is what can happen to a backend, and so is whatever
the callback gets to see. -/
theorem leads_run {C : Type} {callback : Listed → Action (C × Watcher) Unit}
    (hcallback : ∀ row c seen, Leads config start seen →
      Leads config start ((callback row).run (c, seen)).2.2)
    (op : Operation) (c : C) (h : Leads config start backend) :
    (∀ seen ∈ handed config op callback c backend, Leads config start seen) ∧
      Leads config start ((op.run (driver config) callback).run (c, backend)).2.2 := by
  let noted (s : (C × List Watcher) × Watcher) : Prop :=
    (∀ seen ∈ s.1.2, Leads config start seen) ∧ Leads config start s.2
  have hnoted : noted ((op.run (driver config) (noting callback)).run ((c, []), backend)).2 := by
    refine op.keeps_run ?_ ?_ ⟨by simp, h⟩
    · exact fun _ backend hbefore ↦ ⟨hbefore.1, hbefore.2.tail (.called backend op)⟩
    · rintro row ⟨⟨c, seen⟩, backend⟩ ⟨hseen, hbackend⟩
      exact ⟨List.forall_mem_append.mpr ⟨hseen, List.forall_mem_singleton.mpr hbackend⟩,
        hcallback row c backend hbackend⟩
  refine ⟨hnoted.1, ?_⟩
  rw [← (forgets_run callback op c backend).2.2]
  exact hnoted.2

/-- Since a backend was made, it has been reconnected as often as an attempt to open a connection
succeeded, and the generation of the connection is one more than the attempts, those that failed
included: so it is one more than the reconnections if and only if none has failed. Between the rows
that an operation hands on, that holds as well, and of a callback that uses the backend. -/
theorem generation_counts_attempts {text : String} {options : Options} {zone : Zone} {w : Watch}
    (hstart : Backend.start (driver config) text options zone w = (.ok (), start))
    (hleads : Leads config start backend) :
    (∃ since, backend.connection.world.calls = start.connection.world.calls ++ since ∧
      since.connects = backend.connection.reconnects + since.failedOpenings ∧
      ∀ generation, backend.connection.generation = .ok generation →
        generation = 1 + since.connects ∧
        generation = 1 + backend.connection.reconnects + since.failedOpenings ∧
        (generation = 1 + backend.connection.reconnects ↔ since.failedOpenings = 0)) ∧
    ∀ (op : Operation) (C : Type) (callback : Listed → Action (C × Watcher) Unit) (c : C),
      (∀ row c seen, Leads config start seen →
        Leads config start ((callback row).run (c, seen)).2.2) →
      (∀ seen ∈ handed config op callback c backend, Leads config start seen) ∧
        Leads config start ((op.run (driver config) callback).run (c, backend)).2.2 := by
  have hnumbered := numbered_of_leads hstart hleads
  obtain ⟨attempts, failures, ⟨since, hcalls, rfl, rfl⟩, hlast, hcounts⟩ := hnumbered.attempts
  refine ⟨⟨since, hcalls, hcounts, fun generation hgeneration ↦ ?_⟩,
    fun op C callback c hcallback ↦ leads_run hcallback op c hleads⟩
  have hlatest : generation = 1 + since.connects := by
    cases hlive : backend.connection.live with
    | none =>
      rw [Connection.generation, hlive] at hgeneration
      cases hgeneration
    | some live =>
      rw [Connection.generation, hlive] at hgeneration
      cases hgeneration
      rw [hnumbered.live live hlive, hlast]
  omega

/-! ### A reconnection that fails -/

/-- The next connection is planned to be refused. -/
def refusing : FaultPoint → List DriverError :=
  fun point ↦ if point = .connect then [FaultPlan.linkFailure] else []

/-- The backend after it has been asked to reconnect. -/
def reconnected (config : Config) (backend : Watcher) : Watcher :=
  ((Backend.reconnect (driver config)).run backend).2

/-- The backend after it has been asked to reconnect twice, the first time in vain. -/
def reconnectedTwice (config : Config) (backend : Watcher) : Watcher :=
  reconnected config (reconnected config { backend with
    connection := { backend.connection with
      world := replan refusing backend.connection.world } })

theorem leads_reconnectedTwice (backend : Watcher) :
    Leads config backend (reconnectedTwice config backend) :=
  .tail (.tail (.tail .refl (.planned (.opened backend) refusing)) (.reconnected _))
    (.reconnected _)

/-- A first backend on that file. -/
def firstMade : Watcher := (make ⟨FileSite.untouched, []⟩).2

theorem started_firstMade :
    Backend.start (driver FileSite.named.config) FileSite.named.text {} ⟨0, none⟩
      ⟨FileSite.untouched, []⟩ = (.ok (), firstMade) := Prod.ext rfl rfl

/-- After two attempts, one of them in vain, the third generation is open. -/
theorem third_generation_after_failure :
    let backend := reconnectedTwice FileSite.named.config firstMade
    backend.connection.generation = .ok 3 ∧ backend.connection.reconnects = 1 ∧
      ∃ since, backend.connection.world.calls = firstMade.connection.world.calls ++ since ∧
        since.connects = 2 ∧ since.failedOpenings = 1 := by
  intro backend
  have hgeneration : backend.connection.generation = .ok 3 := rfl
  have hreconnects : backend.connection.reconnects = 1 := rfl
  obtain ⟨⟨since, hcalls, -, hcounts⟩, -⟩ :=
    generation_counts_attempts started_firstMade (leads_reconnectedTwice firstMade)
  obtain ⟨hconnects, hfailed, -⟩ := hcounts 3 hgeneration
  refine ⟨hgeneration, hreconnects, since, hcalls, ?_, ?_⟩
  · omega
  · rw [hreconnects] at hfailed
    omega

/-- The generation is not one more than the reconnections. -/
theorem generation_beyond_reconnects :
    ¬ ∀ (config : Config) (text : String) (options : Options) (zone : Zone) (w : Watch)
      (start backend : Watcher) (generation : Nat),
      Backend.start (driver config) text options zone w = (.ok (), start) →
      Leads config start backend → backend.connection.generation = .ok generation →
      generation = 1 + backend.connection.reconnects := by
  intro hclaim
  have hthree : (reconnectedTwice FileSite.named.config firstMade).connection.generation =
      .ok 3 := rfl
  have hone : (reconnectedTwice FileSite.named.config firstMade).connection.reconnects = 1 := rfl
  have hsame := hclaim _ _ _ _ _ _ _ 3 started_firstMade (leads_reconnectedTwice firstMade) hthree
  rw [hone] at hsame
  exact absurd hsame (by decide)

end Watched

end Provenance
