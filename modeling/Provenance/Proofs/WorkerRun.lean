import Provenance.Proofs.WorkerOperations

/-!
Runs of a worker. After a failed operation on a bundle the worker looks at all its bundles again.
That succeeds, and its ledger follows the store, or one of its reads has failed nine times
(`reconcile_cases`). So a step ends with a ledger that follows the store or with such a read
(`step_cases`), and with it every run (`steps_cases`).
-/

set_option autoImplicit false
set_option relaxedAutoImplicit false

namespace Provenance

open Relational (Statement World)

namespace Simulation

/-! ### Computations that fail with a text -/

section Checking

variable {τ α β : Type}

theorem Checking.bind_eq (check : Checking τ α) (next : α → Checking τ β) (t : τ) :
    (check >>= next) t =
      match check t with
      | (.ok a, t) => next a t
      | (.error reason, t) => (.error reason, t) := by
  change ExceptT.bindCont next (check t).1 (check t).2 = _
  rcases check t with ⟨_ | a, t'⟩
  · rfl
  · rfl

/-- What passes as a whole passes in both parts. -/
theorem Checking.exists_of_bind_eq_ok {check : Checking τ α} {next : α → Checking τ β} {t t' : τ}
    {b : β} (h : (check >>= next) t = (.ok b, t')) :
    ∃ a between, check t = (.ok a, between) ∧ next a between = (.ok b, t') := by
  rw [Checking.bind_eq] at h
  rcases hcheck : check t with ⟨reason | a, between⟩
  · rw [hcheck] at h
    cases h
  · rw [hcheck] at h
    exact ⟨a, between, rfl, h⟩

theorem Checking.ofAction_eq (describe : Error → String) (action : Action τ α) (t : τ) :
    Checking.ofAction describe action t =
      match action.run t with
      | (.ok a, t) => (.ok a, t)
      | (.error err, t) => (.error (describe err), t) := rfl

theorem Checking.forM_cons_eq (a : α) (rest : List α) (check : α → Checking τ Unit) (t : τ) :
    ((a :: rest).forM check : Checking τ Unit) t =
      match check a t with
      | (.ok _, t) => (rest.forM check : Checking τ Unit) t
      | (.error reason, t) => (.error reason, t) := by
  change (check a >>= fun _ ↦ rest.forM check : Checking τ Unit) t = _
  rw [Checking.bind_eq]
  rcases check a t with ⟨_ | _, _⟩
  · rfl
  · rfl

end Checking

namespace Worker

open Ascending
open Backend (Ready GaveUp)

variable {σ α β : Type} {place : Workplace} {asked : Nat} {dice : Dice σ} {config : Config}
  {s s' : Store} {w w' : Worker σ World Statement} {bundle : Nat}

/-! ### Reads on one store -/

/-- The action only reads: it has a result of this kind and leaves the store and the ledger, or it
fails as a statement. -/
def OnlyReads (place : Workplace) (asked : Nat) (s : Store)
    (read : Action (Worker σ World Statement) α) (result : Except Error α → Prop) : Prop :=
  ∀ w, w.backend.Ready place asked s → ∃ answer w', read.run w = (answer, w') ∧
    w'.backend.Ready place asked s ∧ w'.ledger = w.ledger ∧ (GaveUp answer ∨ result answer)

theorem onlyReads_call {request : Reader → Except Error (Request α)}
    {result : Except Error α → Prop} (hlegible : s.IsLegible place.session)
    (hyields : ∀ now reader, ∃ answer, result answer ∧ s.Yields now (request reader) answer s) :
    OnlyReads place asked s
      (onBackend (Backend.call place.site.driver request) : Action (Worker σ World Statement) α)
      result := by
  intro w hready
  obtain ⟨answer, hresult, hanswer⟩ :=
    hyields w.backend.connection.world.world.now w.backend.reader
  obtain ⟨given, backend', hcall, hends⟩ := Backend.call_of_yields hready hanswer hlegible
  refine ⟨given, { w with backend := backend' }, ?_, ?_⟩
  · simp only [onBackend, Action.run] at hcall ⊢
    rw [hcall]
  · rcases hends with ⟨hgaveUp, hready'⟩ | ⟨hgaveUp | rfl, hready'⟩
    · exact ⟨hready', rfl, .inl hgaveUp⟩
    · exact ⟨hready', rfl, .inl hgaveUp⟩
    · exact ⟨hready', rfl, .inr hresult⟩

/-- What is made of a result reads no more. -/
theorem OnlyReads.map {read : Action (Worker σ World Statement) α} (result : α → Prop)
    {f : α → β} {result' : β → Prop}
    (h : OnlyReads place asked s read fun answer ↦ ∃ a, answer = .ok a ∧ result a)
    (hresult : ∀ a, result a → result' (f a)) :
    OnlyReads place asked s (read >>= fun a ↦ pure (f a)) fun answer ↦
      ∃ b, answer = .ok b ∧ result' b := by
  intro w hready
  obtain ⟨answer, w', hrun, hready', hledger, hends⟩ := h w hready
  rw [Action.run_bind, hrun]
  rcases hends with ⟨query, rfl⟩ | ⟨a, rfl, ha⟩
  · exact ⟨_, w', rfl, hready', hledger, .inl ⟨query, rfl⟩⟩
  · exact ⟨_, w', rfl, hready', hledger, .inr ⟨f a, rfl, hresult a ha⟩⟩

/-- A read that is repeated has its result at last, or has failed nine times. -/
theorem OnlyReads.persist {read : Action (Worker σ World Statement) α}
    {result : Except Error α → Prop} (h : OnlyReads place asked s read result)
    (hready : w.backend.Ready place asked s) :
    ∃ answer w', (persist read 8).run w = (answer, w') ∧ w'.backend.Ready place asked s ∧
      w'.ledger = w.ledger ∧ (GaveUp answer ∧ Exhausted read 8 w w' ∨ result answer) := by
  let kept : Worker σ World Statement → Prop := fun other ↦
    other.backend.Ready place asked s ∧ other.ledger = w.ledger
  have hfail : ∀ v query v', kept v → read.run v = (.error (.statement query), v') → kept v' := by
    intro v query v' hv hread
    obtain ⟨answer, last, hrun, hlast, hledger, -⟩ := h v hv.1
    obtain ⟨-, rfl⟩ := Prod.mk.inj (hread.symm.trans hrun)
    exact ⟨hlast, hledger.trans hv.2⟩
  rcases persist_cases kept hfail 8 ⟨hready, rfl⟩ with
    ⟨query, w', hrun, hexhausted, hw'⟩ | ⟨last, hlast, hrun, hother⟩
  · exact ⟨_, w', hrun, hw'.1, hw'.2, .inl ⟨⟨query, rfl⟩, hexhausted⟩⟩
  · obtain ⟨answer, w', hread, hready', hledger, hends⟩ := h last hlast.1
    refine ⟨answer, w', hrun.trans hread, hready', hledger.trans hlast.2, .inr ?_⟩
    refine hends.resolve_left ?_
    rintro ⟨query, rfl⟩
    exact hother query (congrArg Prod.fst hread)

/-- Listing a bundle reads its members. -/
theorem onlyReads_listed (hlegible : s.IsLegible place.session) (hwithin : s.lastObject ≤ Limit.id)
    (hpresent : s.hasObject bundle = true) :
    OnlyReads place asked s (listed (place.tools dice config) bundle) fun answer ↦
      ∃ seen, answer = .ok seen ∧ ∀ member, member ∈ seen ↔ member ∈ s.memberObjects bundle := by
  unfold listed
  refine OnlyReads.map (fun infos ↦ ∀ member, member ∈ infos.map (·.id) ↔
    member ∈ s.memberObjects bundle) ?_ fun infos hinfos member ↦ ?_
  · rw [Backend.collect_bundleObjects]
    refine onlyReads_call hlegible fun now reader ↦ ?_
    obtain ⟨infos, hyields, hlisted⟩ := hlegible.yields_bundleObjects hwithin reader hpresent
    exact ⟨_, ⟨infos, rfl, hlisted⟩, hyields⟩
  · rw [Ascending.mem_ofList, hinfos]

/-! ### One bundle -/

/-- One of the two reads about a bundle has failed nine times. -/
inductive Unread (tools : Tools σ World Statement) (bundle : Nat)
    (w w' : Worker σ World Statement) : Prop
  | info (h : Exhausted (onBackend (Backend.bundleInfo tools.driver bundle)) 8 w w')
  | members {info : BundleInfo} {between : Worker σ World Statement}
      (hinfo : (persist (onBackend (Backend.bundleInfo tools.driver bundle)) 8).run w =
        (.ok info, between))
      (h : Exhausted (listed tools bundle) 8 between w')

/-- What becomes of one bundle, read by read. -/
theorem reconcileBundle_eq (tools : Tools σ World Statement) (bundle : Nat)
    (w : Worker σ World Statement) :
    reconcileBundle tools bundle w =
      match (persist (onBackend (Backend.bundleInfo tools.driver bundle)) 8).run w with
      | (.error .notFound, w) => (.ok (), { w with ledger := w.ledger.deleteBundle bundle })
      | (.error err, w) => (.error s!"reconcile bundle {bundle}: {err.message}", w)
      | (.ok _, w) =>
        match (persist (listed tools bundle) 8).run w with
        | (.ok members, w) =>
          (.ok (), { w with
                     ledger := w.ledger.putBundle bundle (members.filter w.ledger.hasObject) })
        | (.error err, w) => (.error s!"reconcile bundle {bundle}: {err.message}", w) := by
  unfold reconcileBundle
  dsimp only
  rw [Checking.bind_eq, Checking.ofAction_eq]
  simp only [Action.attempt, Action.run]
  rcases persist (onBackend (Backend.bundleInfo tools.driver bundle)) 8 w with ⟨err | info, w'⟩
  · cases err <;> rfl
  · dsimp only
    rw [Checking.bind_eq, Checking.ofAction_eq]
    simp only [Action.run]
    rcases persist (listed tools bundle) 8 w' with ⟨_ | members, w''⟩
    · rfl
    · rfl

/-- A bundle that the store has, or that has gone from it, is brought in line unless a read about it
fails nine times. -/
theorem reconcileBundle_cases (hready : w.backend.Ready place asked s)
    (hwithin : s.lastObject ≤ Limit.id) (hbounds : 0 < bundle ∧ bundle ≤ s.lastObject)
    (hbundle : s.hasObject bundle = false ∨
      ∃ row ∈ s.objects, row.id = bundle ∧ row.isBundle = true) :
    (∃ w', reconcileBundle (place.tools dice config) bundle w = (.ok (), w') ∧
        w'.backend.Ready place asked s ∧ w.ledger.Settles s bundle w'.ledger) ∨
      ∃ reason w', reconcileBundle (place.tools dice config) bundle w = (.error reason, w') ∧
        Unread (place.tools dice config) bundle w w' := by
  have hlegible := hready.legible
  have hle := Nat.le_trans hbounds.2 hwithin
  rw [reconcileBundle_eq]
  rcases hbundle with habsent | ⟨row, hrow, rfl, hkind⟩
  · have hreads : OnlyReads place asked s
        (onBackend (Backend.bundleInfo (place.tools dice config).driver bundle) :
          Action (Worker σ World Statement) BundleInfo)
        fun answer ↦ answer = .error .notFound := by
      refine onlyReads_call hlegible fun now reader ↦ ⟨_, rfl, ?_⟩
      exact Store.yields_of_absent (.bundleInfo bundle) (by simp [Operation.seeking])
        hbounds.1 hle habsent reader
    obtain ⟨answer, w', hrun, hready', hledger, ⟨⟨query, rfl⟩, hexhausted⟩ | rfl⟩ :=
      hreads.persist hready
    · rw [hrun]
      exact .inr ⟨_, w', rfl, .info hexhausted⟩
    · rw [hrun]
      refine .inl ⟨_, rfl, hready', ?_⟩
      rw [← hledger]
      exact .gone habsent
  · have hreads : OnlyReads place asked s
        (onBackend (Backend.bundleInfo (place.tools dice config).driver row.id) :
          Action (Worker σ World Statement) BundleInfo)
        fun answer ↦ ∃ info, answer = .ok info := by
      refine onlyReads_call hlegible fun now reader ↦ ?_
      obtain ⟨info, hyields⟩ := hlegible.yields_bundleInfo hwithin reader hrow hkind
      exact ⟨_, ⟨info, rfl⟩, hyields⟩
    obtain ⟨answer, w', hrun, hready', hledger, ⟨⟨query, rfl⟩, hexhausted⟩ | ⟨info, rfl⟩⟩ :=
      hreads.persist hready
    · rw [hrun]
      exact .inr ⟨_, w', rfl, .info hexhausted⟩
    · rw [hrun]
      dsimp only
      obtain ⟨answer, w'', hrun', hready'', hledger', ⟨⟨query, rfl⟩, hexhausted⟩ |
        ⟨seen, rfl, hseen⟩⟩ := (onlyReads_listed hlegible hwithin
          (Store.hasObject_iff.mpr ⟨row, hrow, rfl⟩)).persist hready'
      · rw [hrun']
        exact .inr ⟨_, w'', rfl, .members hrun hexhausted⟩
      · rw [hrun']
        refine .inl ⟨_, rfl, hready'', ?_⟩
        rw [← hledger, ← hledger']
        refine .kept hrow rfl hkind _ fun member ↦ ?_
        rw [List.mem_filter, hseen]

/-! ### All bundles -/

/-- Bundles are looked at one after another until two reads about one of them have failed nine
times. -/
inductive Stuck (tools : Tools σ World Statement) :
    List (Nat × List Nat) → Worker σ World Statement → Worker σ World Statement → Prop
  | here {entry : Nat × List Nat} {rest : List (Nat × List Nat)}
      {w w' : Worker σ World Statement} (h : Unread tools entry.1 w w') :
      Stuck tools (entry :: rest) w w'
  | later {entry : Nat × List Nat} {rest : List (Nat × List Nat)}
      {w between w' : Worker σ World Statement}
      (hfirst : reconcileBundle tools entry.1 w = (.ok (), between))
      (h : Stuck tools rest between w') : Stuck tools (entry :: rest) w w'

/-- When all bundles have been looked at the ledger follows the store. -/
theorem forM_reconcileBundle_cases {entries : List (Nat × List Nat)} {lost : Nat}
    (hready : w.backend.Ready place asked s) (hwithin : s.lastObject ≤ Limit.id)
    (h : w.ledger.Reviewing (keys entries) s lost) :
    (∃ w', (entries.forM fun entry ↦ reconcileBundle (place.tools dice config) entry.1 :
          Checking (Worker σ World Statement) Unit) w = (.ok (), w') ∧
        w'.backend.Ready place asked s ∧ w'.ledger.Tracks [] s) ∨
      ∃ reason w', (entries.forM fun entry ↦ reconcileBundle (place.tools dice config) entry.1 :
          Checking (Worker σ World Statement) Unit) w = (.error reason, w') ∧
        Stuck (place.tools dice config) entries w w' := by
  induction entries generalizing w with
  | nil => exact .inl ⟨w, rfl, hready, h.tracks_of_nil⟩
  | cons entry rest ih =>
    rw [Checking.forM_cons_eq]
    have hbundle : s.hasObject entry.1 = false ∨
        ∃ row ∈ s.objects, row.id = entry.1 ∧ row.isBundle = true := by
      rcases h.listed entry.1 List.mem_cons_self with hlost | hkey
      · exact .inl (hlost ▸ h.absent)
      · exact .inr (h.tracks.exists_bundle hkey)
    rcases reconcileBundle_cases hready hwithin (h.bounds entry.1 List.mem_cons_self) hbundle with
      ⟨between, hfirst, hready', hsettles⟩ | ⟨reason, w', hfirst, hunread⟩
    · rw [hfirst]
      rcases ih hready' (h.settle hsettles) with
        ⟨w', hrest, hends⟩ | ⟨reason, w', hrest, hstuck⟩
      · exact .inl ⟨w', hrest, hends⟩
      · exact .inr ⟨reason, w', hrest, .later hfirst hstuck⟩
    · rw [hfirst]
      exact .inr ⟨reason, w', rfl, .here hunread⟩

/-- After a failed operation the ledger is brought in line, or one of the reads has failed nine
times. -/
theorem reconcile_cases (op : Op) {before : Store} (hready : w.backend.Ready place asked s)
    (hwithin : before.lastObject ≤ Limit.id) (hleaves : Leaves op before s w.ledger) :
    (∃ w', reconcile (place.tools dice config) op w = (.ok (), w') ∧
        w'.backend.Ready place asked s ∧ Follows before s w'.ledger) ∨
      ∃ reason w', reconcile (place.tools dice config) op w = (.error reason, w') ∧
        Stuck (place.tools dice config) w.ledger.bundles w w' := by
  cases op with
  | deleteBundle | addToBundle =>
    obtain ⟨⟨lost, hreviewing⟩, hlast⟩ := hleaves
    refine (forM_reconcileBundle_cases hready (Nat.le_trans hlast hwithin) hreviewing).imp_left ?_
    rintro ⟨w', hdone, hready', htracks⟩
    exact ⟨w', hdone, hready', htracks, Nat.le_succ_of_le hlast⟩
  | _ => exact .inl ⟨w, rfl, hready, hleaves⟩

/-! ### Steps -/

section Stepping

variable {tools : Tools σ World Statement} (number : Nat) (tally : Tally)

theorem step_of_run {outcome : Except Error String × Worker σ World Statement}
    (h : (apply tools (prepare tools w).1).run (prepare tools w).2 = outcome) :
    step tools number tally w = conclude tools number tally (prepare tools w).1 outcome := by
  subst h
  rfl

theorem reconnects_eq (op : Op) :
    (if op = .reconnect then tally.reconnects + 1 else tally.reconnects) =
      tally.reconnects + asks op := by
  rw [asks]
  split
  · rfl
  · rfl

/-- An operation that succeeds ends its step. -/
theorem step_of_ok {label : String}
    (h : (apply tools (prepare tools w).1).run (prepare tools w).2 = (.ok label, w')) :
    ∃ tally', step tools number tally w = (.ok tally', w') ∧
      tally'.reconnects = tally.reconnects + asks (prepare tools w).1 := by
  rw [step_of_run number tally h]
  exact ⟨_, rfl, reconnects_eq tally _⟩

section Statements

variable {query : String} {between : Worker σ World Statement}
  (h : (apply tools (prepare tools w).1).run (prepare tools w).2 =
    (.error (.statement query), between))

include h

/-- So does one that fails as a statement when the ledger has been brought in line. -/
theorem step_of_reconciled
    (hreconcile : reconcile tools (prepare tools w).1 between = (.ok (), w')) :
    ∃ tally', step tools number tally w = (.ok tally', w') ∧
      tally'.reconnects = tally.reconnects + asks (prepare tools w).1 := by
  rw [step_of_run number tally h, conclude]
  simp only [hreconcile]
  exact ⟨_, rfl, reconnects_eq tally _⟩

theorem step_of_unreconciled {reason : String}
    (hreconcile : reconcile tools (prepare tools w).1 between = (.error reason, w')) :
    ∃ tally', step tools number tally w = (.error (tally', reason), w') := by
  rw [step_of_run number tally h, conclude]
  simp only [hreconcile]
  exact ⟨_, rfl⟩

end Statements

end Stepping

theorem planFailure_cases (tools : Tools σ World Statement) (rate : Binary64)
    (point : FaultPoint) (w : Worker σ World Statement) :
    planFailure tools rate point w = { w with dice := (tools.dice.fraction w.dice).2 } ∨
      planFailure tools rate point w =
        { w with
          dice := (tools.dice.fraction w.dice).2
          backend := w.backend.mapWorld (Faulty.replan (w.backend.connection.world.plan.failNext
            point 1 FaultPlan.linkFailure).queues) } := by
  unfold planFailure
  dsimp only
  by_cases hrate : ((tools.dice.fraction w.dice).1.lt rate) = true
  · rw [if_pos hrate]
    exact .inr rfl
  · rw [if_neg hrate]
    exact .inl rfl

/-- Planning a failure of a statement disturbs nothing. -/
theorem ready_planFailure (tools : Tools σ World Statement) (rate : Binary64)
    {point : FaultPoint} (hpoint : point ≠ .connect ∧ point ≠ .prepare)
    (h : w.backend.Ready place asked s) :
    (planFailure tools rate point w).backend.Ready place asked s ∧
      (planFailure tools rate point w).ledger = w.ledger := by
  rcases planFailure_cases tools rate point w with hsame | hplanned
  · rw [hsame]
    exact ⟨h, rfl⟩
  · rw [hplanned]
    refine ⟨h.replan ?_ ?_, rfl⟩
    · rw [FaultPlan.failNext, FaultPlan.queues_setQueue, if_neg hpoint.1.symm, h.kept.connects]
    · rw [FaultPlan.failNext, FaultPlan.queues_setQueue, if_neg hpoint.2.symm, h.kept.prepares]

theorem InStep.planned (h : InStep place asked s w) (tools : Tools σ World Statement)
    (rate : Binary64) (point : FaultPoint) (hpoint : point ≠ .connect ∧ point ≠ .prepare) :
    InStep place asked s (planFailure tools rate point w) := by
  obtain ⟨hready, hledger⟩ := ready_planFailure tools rate hpoint h.ready
  exact ⟨hready, hledger ▸ h.tracks, h.within⟩

theorem InStep.withDice (h : InStep place asked s w) (d : σ) :
    InStep place asked s { w with dice := d } := ⟨h.ready, h.tracks, h.within⟩

theorem InStep.prepared (h : InStep place asked s w) (tools : Tools σ World Statement) :
    InStep place asked s (prepare tools w).2 := by
  have hplanned := (h.planned tools tools.config.linkFailureRate .execute (by decide)).planned
    tools tools.config.fetchFailureRate .fetch (by decide)
  -- Choosing the operation changes the dice only. The fraction that they give is not evaluated.
  exact hplanned.withDice _

/-- A step is given up: its operation has failed as a statement, and so have nine reads in a row
when the ledger was to be brought in line. -/
structure Abandoned (tools : Tools σ World Statement) (w w' : Worker σ World Statement) :
    Prop where
  given_up : ∃ query between reason,
    (apply tools (prepare tools w).1).run (prepare tools w).2 =
      (.error (.statement query), between) ∧
    reconcile tools (prepare tools w).1 between = (.error reason, w') ∧
    Stuck tools between.ledger.bundles between w'

/-- A step ends with a ledger that follows the store, or it is given up. -/
theorem InStep.step_cases (dice : Dice σ) (config : Config) {tally : Tally}
    (h : InStep place tally.reconnects s w) (number : Nat) :
    (∃ tally' w' s', step (place.tools dice config) number tally w = (.ok tally', w') ∧
        w'.backend.Ready place tally'.reconnects s' ∧ Follows s s' w'.ledger) ∨
      ∃ tally' reason w',
        step (place.tools dice config) number tally w = (.error (tally', reason), w') ∧
        Abandoned (place.tools dice config) w w' := by
  have hmeets : Meets place _ _ _
      ((apply (place.tools dice config) (prepare (place.tools dice config) w).1).run
        (prepare (place.tools dice config) w).2) :=
    (h.prepared (place.tools dice config)).meets_apply _
  generalize happly : (apply (place.tools dice config) (prepare (place.tools dice config) w).1).run
    (prepare (place.tools dice config) w).2 = outcome at hmeets
  cases hmeets with
  | @done label between s' hready hfollows =>
    obtain ⟨tally', hstep, hreconnects⟩ := step_of_ok number tally happly
    exact .inl ⟨tally', between, s', hstep, hreconnects ▸ hready, hfollows⟩
  | @failed query between s' hready hleaves =>
    rcases reconcile_cases _ hready h.within hleaves with
      ⟨w', hreconcile, hready', hfollows⟩ | ⟨reason, w', hreconcile, hstuck⟩
    · obtain ⟨tally', hstep, hreconnects⟩ := step_of_reconciled number tally happly hreconcile
      exact .inl ⟨tally', w', s', hstep, hreconnects ▸ hready', hfollows⟩
    · obtain ⟨tally', hstep⟩ := step_of_unreconciled number tally happly hreconcile
      exact .inr ⟨tally', reason, w', hstep, query, between, reason, happly, hreconcile, hstuck⟩

/-! ### Runs -/

section Running

variable {tools : Tools σ World Statement} {index count number : Nat} {tally tally' : Tally}

theorem steps_of_step_ok (h : step tools number tally w = (.ok tally', w')) (count : Nat) :
    steps tools index (count + 1) number tally w =
      steps tools index count (number + 1) tally' w' := by
  rw [steps, h, proceed]

theorem steps_of_step_error {reason : String}
    (h : step tools number tally w = (.error (tally', reason), w')) (count : Nat) :
    steps tools index (count + 1) number tally w = (.error (failure index tally' reason), w') := by
  rw [steps, h, proceed]

/-- The ids of all objects in the store are numbers that a column can hold, as those in a file
always are. -/
def NumbersFit (site : FileSite) (w : Worker σ World Statement) : Prop :=
  ∀ s, site.Keeps w.backend.connection.world.world s → s.lastObject ≤ Limit.id

theorem inStep_of_numbersFit (hready : w.backend.Ready place asked s)
    (htracks : w.ledger.Tracks [] s) (hfit : NumbersFit place.site w) :
    InStep place asked s w := by
  obtain ⟨live, hopen⟩ := hready.kept.isOpen
  exact ⟨hready, htracks, hfit s hopen.keeps⟩

/-- A run ends with a ledger that follows the store, or it stops at a step that is given up. -/
theorem steps_cases (hready : w.backend.Ready place tally.reconnects s)
    (htracks : w.ledger.Tracks [] s)
    (hfit : ∀ done ≤ count, ∀ tally' w',
      steps (place.tools dice config) index done number tally w = (.ok tally', w') →
        NumbersFit place.site w') :
    (∃ tally' w' s',
        steps (place.tools dice config) index count number tally w = (.ok tally', w') ∧
        InStep place tally'.reconnects s' w') ∨
      ∃ failure w',
        steps (place.tools dice config) index count number tally w = (.error failure, w') ∧
        ∃ done < count, ∃ tally' last,
          steps (place.tools dice config) index done number tally w = (.ok tally', last) ∧
          Abandoned (place.tools dice config) last w' := by
  have hbefore := hfit 0 (Nat.zero_le _) tally w rfl
  -- The induction is on the steps that are left: the first of them leaves a ledger that follows the
  -- store, and the ids last for the others as they do for all.
  induction count generalizing number tally w s with
  | zero => exact .inl ⟨tally, w, s, rfl, inStep_of_numbersFit hready htracks hbefore⟩
  | succ count ih =>
    have hstep := inStep_of_numbersFit hready htracks hbefore
    rcases hstep.step_cases dice config number with
      ⟨tally₁, w₁, s₁, hfirst, hready₁, hfollows⟩ | ⟨tally₁, reason, w', hfirst, habandoned⟩
    · have hfit₁ : ∀ done ≤ count, ∀ tally' w',
          steps (place.tools dice config) index done (number + 1) tally₁ w₁ = (.ok tally', w') →
            NumbersFit place.site w' := by
        intro done hdone tally' w' hrun
        refine hfit (done + 1) (Nat.succ_le_succ hdone) tally' w' ?_
        rw [steps_of_step_ok hfirst, hrun]
      rw [steps_of_step_ok hfirst]
      rcases ih hready₁ hfollows.1 hfit₁ (hfit₁ 0 (Nat.zero_le _) tally₁ w₁ rfl) with
        hends | ⟨failure, w', hrun, done, hdone, tally', last, hlast, habandoned⟩
      · exact .inl hends
      · refine .inr ⟨failure, w', hrun, done + 1, Nat.succ_lt_succ hdone, tally', last, ?_,
          habandoned⟩
        rw [steps_of_step_ok hfirst, hlast]
    · rw [steps_of_step_error hfirst]
      exact .inr ⟨_, w', rfl, 0, Nat.succ_pos _, tally, w, rfl, habandoned⟩

/-- A step hands out the id of one object at most, so the ids last as long as there are not more
steps than ids. -/
theorem numbersFit_of_le (hready : w.backend.Ready place tally.reconnects s)
    (htracks : w.ledger.Tracks [] s) (hcount : s.lastObject + count ≤ Limit.id)
    (hrun : steps (place.tools dice config) index count number tally w = (.ok tally', w')) :
    NumbersFit place.site w' := by
  induction count generalizing number tally w s with
  | zero =>
    cases hrun
    obtain ⟨live, hopen⟩ := hready.kept.isOpen
    intro t hkeeps
    obtain rfl := hopen.keeps.unique hkeeps
    exact hcount
  | succ count ih =>
    have hstep : InStep place tally.reconnects s w := ⟨hready, htracks, by omega⟩
    rcases hstep.step_cases dice config number with
      ⟨tally₁, w₁, s₁, hfirst, hready₁, hfollows⟩ | ⟨tally₁, reason, w', hfirst, habandoned⟩
    · rw [steps_of_step_ok hfirst] at hrun
      have hlast := hfollows.2
      exact ih hready₁ hfollows.1 (by omega) hrun
    · rw [steps_of_step_error hfirst] at hrun
      cases hrun

end Running

end Worker

end Simulation

end Provenance
