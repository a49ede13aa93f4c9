import Provenance.Proofs.CheckPasses
import Provenance.Proofs.KeptRows

/-!
Runs with one worker raise no false alarm. On a fresh file a run starts (`Run.exists_starts`),
whatever process it is of, as long as what is recorded of the process is within its limits. However
its choices fall and whatever failures are injected, the ledger is a true view of the store after
every step, no operation finds anything amiss, the run stops only where reading failed nine times in
a row, and the check passes on what a run reports (`no_false_alarm`).
-/

set_option autoImplicit false
set_option relaxedAutoImplicit false

namespace Provenance

open Relational (Statement World)

/-- A new connection has pools of the size that is asked for, and has not been rebuilt. -/
theorem Connection.of_start_ok {W H : Type} {driver : Driver W H} {target : String} {size : Nat}
    {w : W} {c : Connection W H} (h : Connection.start driver target size w = (.ok (), c)) :
    c.poolSize = size ∧ c.reconnects = 0 := by
  unfold Connection.start at h
  by_cases hzero : size = 0
  · rw [if_pos hzero] at h
    cases h
  · rw [if_neg hzero] at h
    generalize Live.build driver target size 1 w = built at h
    rcases built with ⟨_ | live, w', events⟩
    · cases h
    · cases h
      exact ⟨rfl, rfl⟩

namespace Simulation

variable {σ : Type} {site : FileSite} {world : World} {config : Config} {zone : Zone}
  {process : SessionDescriptor}

theorem Config.poolSize_pos (arguments : Arguments) : 0 < (ofArguments arguments).poolSize := by
  have hgiven : 0 < max arguments.poolSize 1 :=
    Nat.lt_of_lt_of_le Nat.one_pos (Nat.le_max_right _ _)
  unfold ofArguments
  cases arguments.stress with
  | true => exact Nat.succ_pos _
  | false =>
    cases arguments.quick with
    | true => exact Nat.succ_pos _
    | false => exact hgiven

namespace Run

/-! ### The start of a run -/

/-- Where the worker of a run works. The session of the run is the first one. -/
def place (site : FileSite) (config : Config) : Workplace where
  site := site
  options := options config
  session := 1
  session_pos := Nat.one_pos
  session_le := by decide
  space_le := by
    change Limit.space ≤ 4095
    decide
  name_le := by
    change Limit.name ≤ 4095
    decide

/-- What the worker of a run works with. -/
def tools (site : FileSite) (config : Config) (dice : Dice σ) :
    Worker.Tools σ World Statement := (place site config).tools dice config

/-- A backend has been connected to the file, and a session of the process recorded. -/
def Starts (site : FileSite) (config : Config) (process : SessionDescriptor) (zone : Zone)
    (world : World) (session : Nat) (backend : FileBackend) : Prop :=
  ∃ connected,
    Backend.start site.driver site.text (options config) zone ⟨.empty, world⟩ =
      (.ok (), connected) ∧
    (Backend.createSession site.driver process).run connected = (.ok session, backend)

theorem Starts.unique {session session' : Nat} {backend backend' : FileBackend}
    (h : Starts site config process zone world session backend)
    (h' : Starts site config process zone world session' backend') :
    session = session' ∧ backend = backend' := by
  obtain ⟨connected, hstart, hcreate⟩ := h
  obtain ⟨connected', hstart', hcreate'⟩ := h'
  obtain ⟨-, rfl⟩ := Prod.mk.inj (hstart.symm.trans hstart')
  obtain ⟨hsame, rfl⟩ := Prod.mk.inj (hcreate.symm.trans hcreate')
  cases hsame
  exact ⟨rfl, rfl⟩

/-- A session of the process on an empty store. -/
def recorded (process : SessionDescriptor) (now : Value) : Store :=
  { Store.empty with
    sessions :=
      [⟨1, .text process.macAddress, .text process.user, .int process.pid, .text process.program,
        .text process.commandLine, now.inNumericColumn⟩]
    lastSession := 1 }

theorem run_createSession (process : SessionDescriptor) {now : Value} (hnow : now.isNull = false) :
    Store.empty.run now .createSession
        [.text process.macAddress, .text process.user, .int process.pid, .text process.program,
          .text process.commandLine] =
      .ok (Store.returned 1, recorded process now) := by
  change Store.addSession now _ _ _ _ _ _ = _
  rw [Store.addSession, hnow]
  rfl

theorem yields_createSession {now : Value} (hnow : now.isNull = false)
    (hfits : ∀ operand ∈ (Operation.createSession process).operands, ¬ operand.Refused) :
    Store.empty.Yields now (Request.createSession process) (.ok 1) (recorded process now) := by
  obtain ⟨request, hrequest⟩ := Operation.exists_request ⟨0, .utc⟩ hfits
  obtain rfl := Request.ensures_createSession process request hrequest
  refine Store.yields_of_run _ hrequest ?_ (run_createSession process hnow)
    (Request.readOff_oneId _ _ _)
  simp [Request.IsPlain, Request.oneId]

theorem isLegible_recorded (process : SessionDescriptor) {now : Value} (hnow : now.isNull = false) :
    (recorded process now).IsLegible 1 := by
  have hchange := Store.Change.of_run (run_createSession process hnow)
  have hfollows := hchange.follows Store.anchored_empty .objects
  exact ⟨hchange.anchored Store.anchored_empty, hchange.numbered Store.numbered_empty,
    hfollows.counted (Store.Table.counted_empty _), fun _ hrow ↦ absurd hrow List.not_mem_nil,
    fun _ hrow ↦ absurd hrow List.not_mem_nil, rfl⟩

/-- A run on a fresh file starts, with a worker that is at rest. -/
theorem exists_starts (hfresh : site.Fresh ⟨.empty, world⟩) (hclock : world.now.IsClock)
    (hsize : 0 < config.poolSize)
    (hfits : ∀ operand ∈ (Operation.createSession process).operands, ¬ operand.Refused)
    (zone : Zone) :
    ∃ backend, Starts site config process zone world 1 backend ∧
      backend.Ready (place site config) 0 (recorded process world.now) := by
  have hnow := hclock.isNull
  rcases Connection.start_cases hsize hfresh.offers hfresh.unlinked
    hfresh.opened hfresh.handles with
    ⟨live, c, hstart, hopen, hrelinked⟩ | ⟨-, -, -, -, -, -, -, hconnect | hprepare⟩
  · obtain ⟨hpool, hreconnects⟩ := Connection.of_start_ok hstart
    have hnil : ∀ point, c.world.plan.queues point = [] := fun point ↦
      List.suffix_nil.mp (hrelinked.used point)
    let connected : FileBackend := ⟨options config, zone, c⟩
    have hconnected : Backend.start site.driver site.text (options config) zone ⟨.empty, world⟩ =
        (.ok (), connected) := by
      unfold Backend.start
      simp only [options, hstart, connected]
    have hclock' : c.world.world.now = world.now := hrelinked.now
    have hyields : Store.empty.Yields c.world.world.now (Request.createSession process) (.ok 1)
        (recorded process world.now) := by
      rw [hclock']
      exact yields_createSession hnow hfits
    have hkept₀ : connected.connection.IsKept site .empty :=
      ⟨⟨live, hopen⟩, hnil .connect, hnil .prepare⟩
    obtain ⟨c', hcall, hkept, hspends, -⟩ := Backend.call_of_kept
      (fun _ ↦ Request.createSession process) hkept₀ hnil hyields
    refine ⟨_, ⟨connected, hconnected, hcall⟩, hkept, isLegible_recorded process hnow, ?_, rfl, ?_,
      ?_⟩
    · exact (hspends.now_eq.trans hclock').symm ▸ hclock
    · exact hspends.poolSize_eq.trans hpool
    · have hpaid := hspends.reconnects_le
      change c'.reconnects ≤ 0 + c'.world.plan.injected
      have hnone : connected.connection.reconnects = 0 := hreconnects
      omega
  · exact absurd rfl hconnect
  · exact absurd rfl hprepare

end Run

/-! ### The steps of a run -/

namespace Worker

variable {dice : Dice σ} {seed : σ} {backend : FileBackend} {s : Store} {count : Nat}

/-- A worker that has recorded nothing tells nothing of any store. -/
theorem tracks_ofWorker (s : Store) : (Ledger.ofWorker 0).Tracks [] s where
  space := by decide
  latest _ _ h := absurd h List.not_mem_nil
  numbered _ _ h := absurd h List.not_mem_nil
  plain _ _ h := absurd h List.not_mem_nil
  relations _ _ h := absurd h List.not_mem_nil
  ends _ _ h := absurd h List.not_mem_nil
  kinds _ _ h := absurd h List.not_mem_nil
  bundles _ _ h := absurd h List.not_mem_nil
  members _ _ h := absurd h List.not_mem_nil
  known _ _ h := absurd h List.not_mem_nil
  gone _ h := h.elim (absurd · List.not_mem_nil) (absurd · List.not_mem_nil)
  objectKeys := .nil
  bundleKeys := .nil
  deletedObjects := .nil
  deletedBundles := .nil

/-- What the first worker has come to after so many steps. -/
def after (tools : Tools σ World Statement) (seed : σ) (backend : FileBackend) (done : Nat) :
    Except Failure Tally × Worker σ World Statement :=
  steps tools 0 done 0 (begin tools 0 seed backend).1 (begin tools 0 seed backend).2

theorem run_of_after_ok {tools : Tools σ World Statement} {tally : Tally}
    {w : Worker σ World Statement} (h : after tools seed backend count = (.ok tally, w)) :
    run tools 0 count seed backend =
      (.ok ⟨w.ledger, count, tally.gaveUp, tally.reconnects⟩, w.backend) := by
  rw [after] at h
  rw [run, h, reported]

theorem run_of_after_error {tools : Tools σ World Statement} {failure : Failure}
    {w : Worker σ World Statement} (h : after tools seed backend count = (.error failure, w)) :
    run tools 0 count seed backend = (.error failure, w.backend) := by
  rw [after] at h
  rw [run, h, reported]

/-- As long as a run of so many steps lasts, the store has ids for its objects. -/
def LastingIds (site : FileSite) (tools : Tools σ World Statement) (seed : σ)
    (backend : FileBackend) (count : Nat) : Prop :=
  ∀ done ≤ count, ∀ tally w, after tools seed backend done = (.ok tally, w) → NumbersFit site w

/-- Nothing in a run of so many steps is taken for an error of the backend that is none. -/
structure RaisesNoAlarm (site : FileSite) (tools : Tools σ World Statement) (seed : σ)
    (backend : FileBackend) (count : Nat) : Prop where
  /-- After every completed step the ledger is a true view of the store. -/
  view : ∀ done ≤ count, ∀ tally w, after tools seed backend done = (.ok tally, w) →
    ∃ s, site.Keeps w.backend.connection.world.world s ∧ w.ledger.TrueOf s
  /-- Whichever operation is run next, it fails as a statement if it fails. -/
  operations : ∀ done ≤ count, ∀ tally w, after tools seed backend done = (.ok tally, w) →
    ∀ op err, ((apply tools op).run (prepare tools w).2).1 = .error err →
      ∃ query, err = .statement query
  /-- A worker stops early only in a step that it has to give up. -/
  stops : ∀ failure stopped, run tools 0 count seed backend = (.error failure, stopped) →
    ∃ done < count, ∃ tally w w', after tools seed backend done = (.ok tally, w) ∧
      Abandoned tools w w' ∧ w'.backend = stopped
  /-- What it reports otherwise passes the check, once no failure is planned any more. -/
  passes : ∀ report ended, run tools 0 count seed backend = (.ok report, ended) →
    ∃ checked, Check.run tools.driver tools.config.poolSize [report] (Run.clearFaults ended) =
      (.ok (Check.totals [report]), checked)

section Lasting

variable (hready : backend.Ready (Run.place site config) 0 s)

include hready

/-- The worker is at rest before its first step. -/
theorem ready_begin (dice : Dice σ) (seed : σ) :
    (begin (Run.tools site config dice) 0 seed backend).2.backend.Ready (Run.place site config)
      (begin (Run.tools site config dice) 0 seed backend).1.reconnects s := hready

theorem lastingIds_of_le (hcount : s.lastObject + count ≤ Limit.id) :
    LastingIds site (Run.tools site config dice) seed backend count := by
  intro done hdone tally w hafter
  exact numbersFit_of_le (ready_begin hready dice seed) (tracks_ofWorker s) (by omega) hafter

/-- A worker ends in step with the store, or it stops at a step that it gives up. -/
theorem after_cases (done : Nat)
    (hlasting : LastingIds site (Run.tools site config dice) seed backend done) :
    (∃ tally w s, after (Run.tools site config dice) seed backend done = (.ok tally, w) ∧
        InStep (Run.place site config) tally.reconnects s w) ∨
      ∃ failure w', after (Run.tools site config dice) seed backend done = (.error failure, w') ∧
        ∃ before < done, ∃ tally last,
          after (Run.tools site config dice) seed backend before = (.ok tally, last) ∧
          Abandoned (Run.tools site config dice) last w' :=
  steps_cases (ready_begin hready dice seed) (tracks_ofWorker s) hlasting

theorem inStep_of_after {done : Nat} {tally : Tally} {w : Worker σ World Statement}
    (hlasting : LastingIds site (Run.tools site config dice) seed backend done)
    (hafter : after (Run.tools site config dice) seed backend done = (.ok tally, w)) :
    ∃ s, InStep (Run.place site config) tally.reconnects s w := by
  rcases after_cases hready done hlasting with ⟨tally', w', s', hdone, hstep⟩ | ⟨_, _, hfailed, -⟩
  · obtain ⟨hsame, rfl⟩ := Prod.mk.inj (hafter.symm.trans hdone)
    cases hsame
    exact ⟨s', hstep⟩
  · cases hafter.symm.trans hfailed

/-- The alarms that a run could raise, one after another. -/
theorem raisesNoAlarm
    (hlasting : LastingIds site (Run.tools site config dice) seed backend count) :
    RaisesNoAlarm site (Run.tools site config dice) seed backend count := by
  have hstep : ∀ done ≤ count, ∀ tally w,
      after (Run.tools site config dice) seed backend done = (.ok tally, w) →
        ∃ s, InStep (Run.place site config) tally.reconnects s w := by
    intro done hdone tally w hafter
    exact inStep_of_after hready (fun before hbefore ↦
      hlasting before (Nat.le_trans hbefore hdone)) hafter
  refine ⟨?_, ?_, ?_, ?_⟩
  · intro done hdone tally w hafter
    obtain ⟨s, hs⟩ := hstep done hdone tally w hafter
    obtain ⟨live, hopen⟩ := hs.ready.kept.isOpen
    exact ⟨s, hopen.keeps, hs.tracks.trueOf⟩
  · intro done hdone tally w hafter op err herror
    obtain ⟨s, hs⟩ := hstep done hdone tally w hafter
    exact ((hs.prepared (Run.tools site config dice)).meets_apply op).statement_of_error herror
  · intro failure stopped hrun
    rcases after_cases hready count hlasting with
      ⟨tally, w, s', hdone, -⟩ |
      ⟨failure', w', hfailed, before, hbefore, tally, last, hlast, habandoned⟩
    · rw [run_of_after_ok hdone] at hrun
      cases hrun
    · rw [run_of_after_error hfailed] at hrun
      obtain ⟨-, rfl⟩ := Prod.mk.inj hrun
      exact ⟨before, hbefore, tally, last, w', hlast, habandoned, rfl⟩
  · intro report ended hrun
    rcases after_cases hready count hlasting with
      ⟨tally, w, s', hdone, hs⟩ | ⟨failure', w', hfailed, -⟩
    · rw [run_of_after_ok hdone] at hrun
      cases hrun
      exact Check.run_eq_ok (hs.ready.replan rfl rfl) (fun _ ↦ rfl) hs.within hs.tracks
    · rw [run_of_after_error hfailed] at hrun
      cases hrun

end Lasting

end Worker

/-- A run with one worker on a fresh file raises no false alarm, whatever its process (of which what
is recorded is within its limits), its arguments, its choices and its length, as long as the store
has ids for its objects. -/
theorem no_false_alarm (hfresh : site.Fresh ⟨.empty, world⟩) (hclock : world.now.IsClock)
    (hfits : ∀ operand ∈ (Operation.createSession process).operands, ¬ operand.Refused)
    (arguments : Arguments) (zone : Zone) (dice : Dice σ) (seed : σ) :
    ∃ session backend,
      Run.Starts site (.ofArguments arguments) process zone world session backend ∧
      ∀ count, Worker.LastingIds site ⟨site.driver, dice, .ofArguments arguments, session⟩ seed
          backend count →
        Worker.RaisesNoAlarm site ⟨site.driver, dice, .ofArguments arguments, session⟩ seed
          backend count := by
  obtain ⟨backend, hstarts, hready⟩ :=
    Run.exists_starts hfresh hclock (Config.poolSize_pos arguments) hfits zone
  exact ⟨1, backend, hstarts, fun count hlasting ↦ Worker.raisesNoAlarm hready hlasting⟩

/-- The ids last for twenty thousand steps on a file that was not there before. -/
theorem long_run_raises_no_alarm :
    ∃ session backend,
      Run.Starts FileSite.named (.ofArguments { workers := 1 }) ⟨"", "user", 7, "simulator", ""⟩
        ⟨0, none⟩ FileSite.untouched.world session backend ∧
      Worker.RaisesNoAlarm FileSite.named
        ⟨FileSite.named.driver, ChaCha.dice, .ofArguments { workers := 1 }, session⟩ (.ofSeed 7)
        backend 20000 := by
  have hclock : FileSite.untouched.world.now.IsClock :=
    ⟨⟨2026, 1, 1, 0, 0, 0, 0⟩, by decide, by decide, by decide, rfl⟩
  have hfits : ∀ operand ∈ (Operation.createSession ⟨"", "user", 7, "simulator", ""⟩).operands,
      ¬ operand.Refused := by
    decide
  obtain ⟨session, backend, hstarts, hquiet⟩ := no_false_alarm FileSite.fresh_untouched hclock
    hfits { workers := 1 } ⟨0, none⟩ ChaCha.dice (.ofSeed 7)
  obtain ⟨started, hstarts', hready⟩ := Run.exists_starts FileSite.fresh_untouched hclock
    (Config.poolSize_pos { workers := 1 }) hfits ⟨0, none⟩
  obtain ⟨rfl, rfl⟩ := hstarts.unique hstarts'
  refine ⟨1, _, hstarts, hquiet 20000 (Worker.lastingIds_of_le hready ?_)⟩
  decide

end Simulation

end Provenance
