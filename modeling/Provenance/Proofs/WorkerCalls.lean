import Provenance.Proofs.KeptOpen
import Provenance.Proofs.LegibleStore
import Provenance.Proofs.Recovery
import Provenance.Simulation.Worker

/-!
Calls of a worker. Between calls its backend is at rest on a store that can be read, and has not
reconnected more often than failures were handed out and reconnections asked for
(`Backend.Ready`). A call then comes to what its request yields, or fails as a statement before the
store or after it (`call_of_yields`); an action of a worker that is made of such calls fails as a
statement at worst, and leaves one of the stores that are told for it (`Worker.Meets`). A read that
is repeated nine times gives up only when it has failed nine times (`persist_cases`).
-/

set_option autoImplicit false
set_option relaxedAutoImplicit false

namespace Provenance

open Relational (Statement World)

variable {σ α β : Type} {s s' : Store} {asked : Nat}

/-- Where a worker works: the site of its store, how its backend is tuned, and the session that owns
what it makes. Every name fits into what is read back. -/
structure Workplace where
  site : FileSite
  options : Options
  session : Nat
  session_pos : 0 < session
  session_le : session ≤ Limit.id
  space_le : Limit.space ≤ options.maxStringLength
  name_le : Limit.name ≤ options.maxStringLength

namespace Backend

variable {place : Workplace} {backend : FileBackend} {query : Query}
  {request : Reader → Except Error (Request α)} {result : Except Error α}

/-- What the backend of a worker is like between calls. -/
structure Ready (place : Workplace) (asked : Nat) (s : Store) (backend : FileBackend) : Prop where
  kept : backend.connection.IsKept place.site s
  legible : s.IsLegible place.session
  clock : backend.connection.world.world.now.IsClock
  options_eq : backend.options = place.options
  poolSize_eq : backend.connection.poolSize = place.options.poolSize
  reconnects_le : backend.connection.reconnects ≤ asked + backend.connection.world.plan.injected

/-- Failures of statements may be planned between calls. -/
theorem Ready.replan (h : backend.Ready place asked s)
    {queues : FaultPoint → List DriverError} (hconnects : queues .connect = [])
    (hprepares : queues .prepare = []) :
    (backend.mapWorld (Faulty.replan queues)).Ready place asked s := by
  obtain ⟨live, hopen⟩ := h.kept.isOpen
  exact ⟨⟨⟨live, (FileSite.steady_replan queues).isOpen hopen⟩, hconnects, hprepares⟩, h.legible,
    h.clock, h.options_eq, h.poolSize_eq, h.reconnects_le⟩

/-- The answer is the failure of a statement. -/
def GaveUp (answer : Except Error α) : Prop := ∃ query, answer = .error (.statement query)

/-- What the connection has spent on a call leaves the backend ready. -/
theorem Ready.spend (h : backend.Ready place asked s)
    {c' : Connection (Faulty World) Statement} (hspends : backend.connection.Spends c')
    (hkept : c'.IsKept place.site s') (hlegible : s'.IsLegible place.session) :
    Ready place asked s' { backend with connection := c' } := by
  have hpaid := hspends.reconnects_le
  have hbudget := h.reconnects_le
  refine ⟨hkept, hlegible, ?_, h.options_eq, hspends.poolSize_eq.trans h.poolSize_eq, ?_⟩
  · exact hspends.now_eq ▸ h.clock
  · change c'.reconnects ≤ asked + c'.world.plan.injected
    omega

/-- A call comes to what its request yields, or fails as a statement: then the request may have been
served all the same. -/
theorem call_of_yields (h : backend.Ready place asked s)
    (hyields : s.Yields backend.connection.world.world.now (request backend.reader) result s')
    (hlegible : s'.IsLegible place.session) :
    ∃ answer backend', (call place.site.driver request).run backend = (answer, backend') ∧
      (GaveUp answer ∧ backend'.Ready place asked s ∨
        (GaveUp answer ∨ answer = result) ∧ backend'.Ready place asked s') := by
  obtain ⟨valid, rows, hvalid, hreply, hread⟩ := hyields
  obtain ⟨answer, c', hperform, hanswered, hspends⟩ :=
    Connection.perform_answered valid backend.options.maxRetries 0 h.kept
  refine ⟨answer, { backend with connection := c' }, ?_, ?_⟩
  · rw [run_call_of_ok hvalid, hperform]
  · cases hanswered with
    | failed _ hkept => exact .inl ⟨⟨_, rfl⟩, h.spend hspends hkept h.legible⟩
    | served _ _ rows' t hserved hkept hanswer =>
      cases hreply.symm.trans hserved
      refine .inr ⟨?_, h.spend hspends hkept hlegible⟩
      rcases hanswer with hsame | hfailed
      · exact .inr (hsame.trans hread)
      · exact .inl ⟨_, hfailed⟩

/-- No failure is planned. -/
def IsQuiet (backend : FileBackend) : Prop :=
  ∀ point, backend.connection.world.plan.queues point = []

/-- With no failure planned a call on a connection that is kept comes to what its request yields. -/
theorem call_of_kept {site : FileSite} (request : Reader → Except Error (Request α))
    (h : backend.connection.IsKept site s) (hquiet : backend.IsQuiet)
    (hyields : s.Yields backend.connection.world.world.now (request backend.reader) result s') :
    ∃ c', (call site.driver request).run backend =
        (result, { backend with connection := c' }) ∧
      c'.IsKept site s' ∧ backend.connection.Spends c' ∧
      IsQuiet { backend with connection := c' } := by
  obtain ⟨valid, rows, hvalid, hreply, hread⟩ := hyields
  obtain ⟨answer, c', hperform, -, hspends⟩ :=
    Connection.perform_answered valid backend.options.maxRetries 0 h
  obtain ⟨live, hopen⟩ := h.isOpen
  obtain ⟨c'', hperform', hserved, -⟩ := Connection.perform_of_quiet hopen valid
    backend.options.maxRetries 0 (FaultPlan.due_eq_none_iff.mpr ⟨hquiet .bind, hquiet .execute⟩)
    (hquiet .fetch)
  obtain ⟨rfl, rfl⟩ := Prod.mk.inj (hperform'.symm.trans hperform)
  have hopen' := hserved.isOpen
  rw [Store.served_of_ok hreply] at hperform hopen'
  have hsame : ∀ point, c''.world.plan.queues point = [] := fun point ↦
    (congrFun hserved.queues point).trans (hquiet point)
  refine ⟨c'', ?_, ⟨hopen', hsame .connect, hsame .prepare⟩, hspends, hsame⟩
  rw [run_call_of_ok hvalid, hperform, hread]

/-- So it is between the calls of a worker. -/
theorem call_of_quiet (h : backend.Ready place asked s) (hquiet : backend.IsQuiet)
    (hyields : s.Yields backend.connection.world.world.now (request backend.reader) result s) :
    ∃ backend', (call place.site.driver request).run backend = (result, backend') ∧
      backend'.Ready place asked s ∧ backend'.IsQuiet := by
  obtain ⟨c', hcall, hkept, hspends, hquiet'⟩ := call_of_kept request h.kept hquiet hyields
  exact ⟨_, hcall, h.spend hspends hkept h.legible, hquiet'⟩

/-- Collecting the objects of a bundle is one call. -/
theorem collect_bundleObjects {W H : Type} (driver : Driver W H) (bundle : Nat) :
    collect (bundleObjects driver bundle) =
      call driver fun reader ↦ Request.bundleObjects reader bundle :=
  collect_each driver _

end Backend

/-- What a worker works with in its place. -/
def Workplace.tools (place : Workplace) (dice : Simulation.Dice σ) (config : Simulation.Config) :
    Simulation.Worker.Tools σ World Statement :=
  ⟨place.site.driver, dice, config, place.session⟩

/-! ### Actions of a worker -/

namespace Simulation.Worker

open Backend (Ready GaveUp)

variable {place : Workplace} {w w' : Worker σ World Statement} {ok : α → Store → Ledger → Prop}
  {failed : Store → Ledger → Prop}

/-- The outcome of an action of a worker: it fails as a statement at worst, its backend is at rest,
and what is told for a result or for a failure holds of the store and of the ledger. -/
inductive Meets (place : Workplace) (asked : Nat) (ok : α → Store → Ledger → Prop)
    (failed : Store → Ledger → Prop) : Except Error α × Worker σ World Statement → Prop
  | done {a : α} {w : Worker σ World Statement} {s : Store}
      (hready : w.backend.Ready place asked s) (h : ok a s w.ledger) :
      Meets place asked ok failed (.ok a, w)
  | failed {query : String} {w : Worker σ World Statement} {s : Store}
      (hready : w.backend.Ready place asked s) (h : failed s w.ledger) :
      Meets place asked ok failed (.error (.statement query), w)

theorem Meets.statement_of_error {outcome : Except Error α × Worker σ World Statement}
    (h : Meets place asked ok failed outcome) {err : Error} (herror : outcome.1 = .error err) :
    ∃ query, err = .statement query := by
  cases h with
  | done => cases herror
  | @failed query _ _ _ _ =>
    cases herror
    exact ⟨query, rfl⟩

/-- An action may go on as it likes after a call that yields a result. -/
theorem meets_bind_call {request : Reader → Except Error (Request β)} {b : β}
    {next : β → Action (Worker σ World Statement) α}
    (hready : w.backend.Ready place asked s)
    (hyields : s.Yields w.backend.connection.world.world.now (request w.backend.reader) (.ok b) s')
    (hlegible : s'.IsLegible place.session) (hbefore : failed s w.ledger)
    (hafter : failed s' w.ledger)
    (hnext : ∀ w', w'.backend.Ready place asked s' → w'.ledger = w.ledger →
      Meets place asked ok failed ((next b).run w')) :
    Meets place asked ok failed
      ((onBackend (Backend.call place.site.driver request) >>= next).run w) := by
  obtain ⟨answer, backend', hcall, hends⟩ := Backend.call_of_yields hready hyields hlegible
  have hrun : (onBackend (Backend.call place.site.driver request)).run w =
      (answer, { w with backend := backend' }) := by
    simp only [onBackend, Action.run] at hcall ⊢
    rw [hcall]
  rw [Action.run_bind, hrun]
  rcases hends with ⟨⟨query, rfl⟩, hready'⟩ | ⟨⟨query, rfl⟩ | rfl, hready'⟩
  · exact .failed hready' hbefore
  · exact .failed hready' hafter
  · exact hnext _ hready' rfl

/-! ### Reads that are repeated -/

section Persisting

/-- A read fails as a statement again and again, once more than the number says. -/
inductive Exhausted (read : Action (Worker σ World Statement) α) :
    Nat → Worker σ World Statement → Worker σ World Statement → Prop
  | last {query : String} {w w' : Worker σ World Statement}
      (h : read.run w = (.error (.statement query), w')) : Exhausted read 0 w w'
  | again {n : Nat} {query : String} {w w' w'' : Worker σ World Statement}
      (h : read.run w = (.error (.statement query), w')) (hrest : Exhausted read n w' w'') :
      Exhausted read (n + 1) w w''

variable {read : Action (Worker σ World Statement) α}

theorem persist_of_statement {budget : Nat} {query : String}
    (h : read.run w = (.error (.statement query), w')) :
    (persist read (budget + 1)).run w = (persist read budget).run w' := by
  simp only [Action.run] at h ⊢
  simp only [persist, h]

theorem persist_of_other {budget : Nat}
    (h : ∀ query, (read.run w).1 ≠ .error (.statement query)) :
    (persist read budget).run w = read.run w := by
  cases budget with
  | zero => rfl
  | succ budget =>
    simp only [Action.run] at h ⊢
    rw [persist]
    dsimp only
    split
    · rename_i query after hread
      exact absurd (congrArg Prod.fst hread) (h query)
    · rfl

/-- A read that is repeated fails as a statement only when it has failed so once more than it may be
repeated. Otherwise it ends as a read of a worker that is as the failed ones have left it. -/
theorem persist_cases (kept : Worker σ World Statement → Prop)
    (hfail : ∀ w query w', kept w → read.run w = (.error (.statement query), w') → kept w')
    (budget : Nat) (h : kept w) :
    (∃ query w', (persist read budget).run w = (.error (.statement query), w') ∧
        Exhausted read budget w w' ∧ kept w') ∨
      ∃ last, kept last ∧ (persist read budget).run w = read.run last ∧
        ∀ query, (read.run last).1 ≠ .error (.statement query) := by
  induction budget generalizing w with
  | zero =>
    by_cases hgaveUp : ∃ query w', read.run w = (.error (.statement query), w')
    · obtain ⟨query, w', hread⟩ := hgaveUp
      exact .inl ⟨query, w', hread, .last hread, hfail w query w' h hread⟩
    · refine .inr ⟨w, h, rfl, fun query hread ↦ hgaveUp ⟨query, (read.run w).2, ?_⟩⟩
      exact Prod.ext hread rfl
  | succ budget ih =>
    by_cases hgaveUp : ∃ query w', read.run w = (.error (.statement query), w')
    · obtain ⟨query, w', hread⟩ := hgaveUp
      rw [persist_of_statement hread]
      rcases ih (hfail w query w' h hread) with
        ⟨query', w'', hrun, hrest, hkept⟩ | hlast
      · exact .inl ⟨query', w'', hrun, .again hread hrest, hkept⟩
      · exact .inr hlast
    · have hother : ∀ query, (read.run w).1 ≠ .error (.statement query) := by
        intro query hread
        exact hgaveUp ⟨query, (read.run w).2, Prod.ext hread rfl⟩
      exact .inr ⟨w, h, persist_of_other hother, hother⟩

end Persisting

end Simulation.Worker

end Provenance
