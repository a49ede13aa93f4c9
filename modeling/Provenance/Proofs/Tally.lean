import Provenance.Proofs.Performing

/-!
Counting the statements of a connection. A `Tally` of a driver says of a world that no connection is
open, or how many statements of the open one are alive, and what each call does to that number. The
relational driver has one, and so have a driver with planned failures and a driver whose calls are
recorded, if the driver in it has. Any driver with a tally leaves no more behind than it should:
between calls every statement is in its pool and nobody reads from it, or nothing is open
(`Connection.Tallied`).
-/

set_option autoImplicit false
set_option relaxedAutoImplicit false

namespace Provenance

open Relational (Statement World)
open FileSite (handleCount)

variable {W α : Type}

/-! ### Tallies -/

/-- The call keeps the number of statements that are alive, and what its handle stands for. -/
def Spares (alive : Nat → W → Prop)
    (call : Statement → W → Except DriverError α × Statement × W) : Prop :=
  ∀ count handle w, alive count w →
    alive count (call handle w).2.2 ∧ (call handle w).2.1.command = handle.command

/-- What is known of a world, call after call. -/
structure Tally (driver : Driver W Statement) where
  /-- No connection is open. -/
  shut : W → Prop
  /-- A connection is open, and as many of its statements are alive. -/
  alive : Nat → W → Prop
  connected : ∀ {target w w'}, shut w → driver.connect target w = (.ok (), w') → alive 0 w'
  refused : ∀ {target err w w'}, shut w → driver.connect target w = (.error err, w') → shut w'
  prepared : ∀ {query handle count w w'}, alive count w →
    driver.prepare query w = (.ok handle, w') → handle.IsIdle query ∧ alive (count + 1) w'
  unprepared : ∀ {query err count w w'}, alive count w →
    driver.prepare query w = (.error err, w') → alive count w'
  discarded : ∀ {handle count w}, alive (count + 1) w → alive count (driver.discard handle w)
  /-- A connection is closed only when none of its statements is alive. -/
  disconnected : ∀ {w}, alive 0 w → shut (driver.disconnect w).2
  bind : ∀ params, Spares alive (driver.bind params)
  execute : Spares alive driver.execute
  fetch : Spares alive driver.fetch
  column : ∀ index, Spares alive (driver.column index)
  close : Spares alive driver.close
  closed : ∀ handle w, (driver.close handle w).2.1.cursor = none

/-! ### The relational driver -/

namespace Relational

variable {config : Config} {w w' : World}

theorem isSome_link_write (w : World) {link : Link} (contents : Contents)
    (h : w.link.isSome = true) : (w.write link contents).link.isSome = true := by
  unfold World.write
  split
  · rfl
  · rw [World.link_putFile]
    exact h

theorem link_openMedium {location : Location} {result : Except DriverError Medium}
    (h : openMedium location w = (result, w')) : w'.link = w.link := by
  unfold openMedium at h
  split at h
  · cases h
    rfl
  · repeat' split at h
    all_goals cases h
    · rfl
    · rfl
    · exact World.link_putFile _ _ _
    · rfl

theorem isSome_link_makeTables {link : Link} (h : makeTables link w = .ok w')
    (hlink : w.link.isSome = true) : w'.link.isSome = true := by
  unfold makeTables at h
  split at h
  · cases h
  · split at h
    · cases h
    · split at h
      · cases h
      · cases h
        exact isSome_link_write w _ hlink
    · cases h
      exact hlink

/-- Connecting opens a connection, or leaves it at the one that is there. -/
theorem link_connect {text : String} {result : Except DriverError Unit}
    (h : connect config text w = (result, w')) :
    result.isOk = true ∧ w'.link.isSome = true ∨ result.isOk = false ∧ w'.link = w.link := by
  unfold connect at h
  split at h
  · cases h
    exact .inr ⟨rfl, rfl⟩
  split at h
  · cases h
    exact .inr ⟨rfl, rfl⟩
  split at h
  · cases h
    exact .inr ⟨rfl, rfl⟩
  split at h
  · rename_i hopen
    cases h
    exact .inr ⟨rfl, link_openMedium hopen⟩
  rename_i hopen
  dsimp only at h
  split at h
  · split at h
    · rename_i hmade
      cases h
      exact .inl ⟨rfl, isSome_link_makeTables hmade rfl⟩
    · cases h
      exact .inr ⟨rfl, link_openMedium hopen⟩
  · cases h
    exact .inl ⟨rfl, rfl⟩

theorem isIdle_prepare {query : Query} {handle : Statement}
    (h : prepare (.query query) w = (.ok handle, w')) : handle.IsIdle query := by
  unfold prepare at h
  split at h
  · cases h
  · dsimp only at h
    split at h <;> cases h <;> exact ⟨rfl, rfl⟩

theorem isSome_link_prepare {command : Command} {result : Except DriverError Statement}
    (h : prepare command w = (result, w')) (hlink : w.link.isSome = true) :
    w'.link.isSome = true := by
  unfold prepare at h
  split at h
  · cases h
    exact hlink
  · dsimp only at h
    repeat' split at h
    all_goals cases h
    all_goals first
      | exact hlink
      | rfl

theorem isSome_link_runCommand {command : Command} {params : List Value} {link : Link}
    {rows : List Row} (h : runCommand command params link w = .ok (rows, w'))
    (hlink : w.link.isSome = true) : w'.link.isSome = true := by
  unfold runCommand at h
  split at h
  · unfold runQuery at h
    repeat' split at h
    all_goals cases h
    all_goals first
      | exact hlink
      | exact isSome_link_write w _ hlink
  all_goals
    cases h
    try exact hlink

/-- A connection is open; how many statements it has is not known. -/
def Connected (_ : Nat) (w : World) : Prop := w.link.isSome = true

theorem spares_bind (params : List Value) : Spares Connected (bind params) := by
  intro count handle w h
  unfold bind
  split <;> exact ⟨h, rfl⟩

theorem spares_execute : Spares Connected execute := by
  intro count handle w h
  unfold execute
  split
  · exact ⟨h, rfl⟩
  · split
    · exact ⟨h, rfl⟩
    · split
      · exact ⟨h, rfl⟩
      · rename_i hrun
        exact ⟨isSome_link_runCommand hrun h, rfl⟩

theorem spares_fetch : Spares Connected fetch := by
  intro count handle w h
  unfold fetch
  split <;> exact ⟨h, rfl⟩

theorem spares_column (index : Nat) : Spares Connected (column index) := by
  intro count handle w h
  unfold column
  split
  · exact ⟨h, rfl⟩
  · split <;> exact ⟨h, rfl⟩

/-- The relational driver knows of its connection only. -/
def tally (config : Config) : Tally (driver config) where
  shut w := w.link = none
  alive := Connected
  connected _ h := by
    rcases link_connect h with ⟨-, hlink⟩ | ⟨hfailed, -⟩
    · exact hlink
    · cases hfailed
  refused hshut h := by
    rcases link_connect h with ⟨hconnected, -⟩ | ⟨-, hlink⟩
    · cases hconnected
    · exact hlink.trans hshut
  prepared {query _ _ _ _} hlink h :=
    have hprepare : prepare (.query query) _ = _ := h
    ⟨isIdle_prepare hprepare, isSome_link_prepare hprepare hlink⟩
  unprepared {query _ _ _ _} hlink h :=
    have hprepare : prepare (.query query) _ = _ := h
    isSome_link_prepare hprepare hlink
  discarded hlink := hlink
  disconnected _ := rfl
  bind := spares_bind
  execute := spares_execute
  fetch := spares_fetch
  column := spares_column
  close _ _ _ hlink := ⟨hlink, rfl⟩
  closed _ _ := rfl

end Relational

/-! ### Planned failures -/

namespace Faulty

variable {inner : Driver W Statement} (t : Tally inner) {w w' : Faulty W}

/-- The plan says that nothing is open. -/
structure Shut (t : Tally inner) (w : Faulty W) : Prop where
  world : t.shut w.world
  opened : w.plan.opened = 0
  live : w.plan.live = 0

/-- The plan says how many statements are alive. -/
structure Alive (t : Tally inner) (count : Nat) (w : Faulty W) : Prop where
  world : t.alive count w.world
  opened : w.plan.opened = 1
  live : w.plan.live = count

theorem Shut.after (h : Shut t w) (point : FaultPoint) : Shut t ⟨w.plan.after point, w.world⟩ :=
  ⟨h.world, (FaultPlan.opened_after _ _).trans h.opened, (FaultPlan.live_after _ _).trans h.live⟩

theorem Alive.after {count : Nat} (h : Alive t count w) (point : FaultPoint) :
    Alive t count ⟨w.plan.after point, w.world⟩ :=
  ⟨h.world, (FaultPlan.opened_after _ _).trans h.opened, (FaultPlan.live_after _ _).trans h.live⟩

theorem spares_guardedOn (point : FaultPoint)
    {call : Statement → W → Except DriverError α × Statement × W} (h : Spares t.alive call) :
    Spares (Alive t) (guardedOn point call) := by
  intro count handle w hw
  cases hqueue : w.plan.queues point with
  | nil =>
    rw [guardedOn_of_nil call handle hqueue]
    obtain ⟨halive, hcommand⟩ := h count handle w.world hw.world
    exact ⟨⟨halive, hw.opened, hw.live⟩, hcommand⟩
  | cons err rest =>
    rw [guardedOn_of_cons call handle hqueue]
    exact ⟨hw.after t point, rfl⟩

/-- What a call comes to that the plan counts: its failure is planned, or the inner call fails, or
it succeeds and is counted. -/
theorem count_cases (change : FaultPlan → FaultPlan) (point : FaultPoint)
    (call : W → Except DriverError α × W) (w : Faulty W) :
    (∃ err, count change (guarded point call w) =
        (.error err, ⟨w.plan.after point, w.world⟩)) ∨
      (∃ err world, call w.world = (.error err, world) ∧
        count change (guarded point call w) = (.error err, ⟨w.plan, world⟩)) ∨
      ∃ a world, call w.world = (.ok a, world) ∧
        count change (guarded point call w) = (.ok a, ⟨change w.plan, world⟩) := by
  cases hqueue : w.plan.queues point with
  | nil =>
    rw [guarded_of_nil call hqueue]
    rcases hcall : call w.world with ⟨err | a, world⟩
    · exact .inr (.inl ⟨err, world, rfl, rfl⟩)
    · exact .inr (.inr ⟨a, world, rfl, rfl⟩)
  | cons err rest =>
    rw [guarded_of_cons call hqueue]
    exact .inl ⟨err, rfl⟩

theorem connect_eq (inner : Driver W Statement) (target : String) (w : Faulty W) :
    (driver inner).connect target w =
      count (fun plan ↦ { plan with connects := plan.connects + 1, opened := plan.opened + 1 })
        (guarded .connect (inner.connect target) w) := rfl

theorem prepare_eq (inner : Driver W Statement) (query : Query) (w : Faulty W) :
    (driver inner).prepare query w =
      count (fun plan ↦ { plan with live := plan.live + 1 })
        (guarded .prepare (inner.prepare query) w) := rfl

/-- The plan counts connections and statements where the inner driver has them. -/
def tally : Tally (driver inner) where
  shut := Shut t
  alive := Alive t
  connected {target w w'} hshut h := by
    rw [connect_eq] at h
    rcases count_cases _ .connect (inner.connect target) w with
      ⟨err, hcall⟩ | ⟨err, world, -, hcall⟩ | ⟨_, world, hinner, hcall⟩
    · cases hcall.symm.trans h
    · cases hcall.symm.trans h
    · cases hcall.symm.trans h
      exact ⟨t.connected hshut.world hinner, congrArg (· + 1) hshut.opened, hshut.live⟩
  refused {target err w w'} hshut h := by
    rw [connect_eq] at h
    rcases count_cases _ .connect (inner.connect target) w with
      ⟨err, hcall⟩ | ⟨err, world, hinner, hcall⟩ | ⟨_, world, -, hcall⟩
    · cases hcall.symm.trans h
      exact hshut.after t .connect
    · cases hcall.symm.trans h
      exact ⟨t.refused hshut.world hinner, hshut.opened, hshut.live⟩
    · cases hcall.symm.trans h
  prepared {query handle number w w'} halive h := by
    rw [prepare_eq] at h
    rcases count_cases _ .prepare (inner.prepare query) w with
      ⟨err, hcall⟩ | ⟨err, world, -, hcall⟩ | ⟨_, world, hinner, hcall⟩
    · cases hcall.symm.trans h
    · cases hcall.symm.trans h
    · cases hcall.symm.trans h
      obtain ⟨hidle, hworld⟩ := t.prepared halive.world hinner
      exact ⟨hidle, hworld, halive.opened, congrArg (· + 1) halive.live⟩
  unprepared {query err number w w'} halive h := by
    rw [prepare_eq] at h
    rcases count_cases _ .prepare (inner.prepare query) w with
      ⟨err, hcall⟩ | ⟨err, world, hinner, hcall⟩ | ⟨_, world, -, hcall⟩
    · cases hcall.symm.trans h
      exact halive.after t .prepare
    · cases hcall.symm.trans h
      exact ⟨t.unprepared halive.world hinner, halive.opened, halive.live⟩
    · cases hcall.symm.trans h
  discarded {handle number w} h := by
    refine ⟨t.discarded h.world, h.opened, ?_⟩
    change w.plan.live - 1 = number
    rw [h.live, Nat.add_sub_cancel]
  disconnected {w} h := by
    refine ⟨t.disconnected h.world, ?_, h.live⟩
    change w.plan.opened - 1 = 0
    rw [h.opened]
  bind params := spares_guardedOn t .bind (t.bind params)
  execute := spares_guardedOn t .execute t.execute
  fetch := spares_guardedOn t .fetch t.fetch
  column index number handle w h := by
    obtain ⟨hworld, hcommand⟩ := t.column index number handle w.world h.world
    exact ⟨⟨hworld, h.opened, h.live⟩, hcommand⟩
  close number handle w h := by
    obtain ⟨hworld, hcommand⟩ := t.close number handle w.world h.world
    exact ⟨⟨hworld, h.opened, h.live⟩, hcommand⟩
  closed handle w := t.closed handle w.world

end Faulty

/-! ### Recorded calls -/

namespace CallLog

/-- How many statements have been prepared. -/
def prepared (calls : CallLog) : Nat := calls.count (.prepare, true)

/-- How many statements have been given up. -/
def discarded (calls : CallLog) : Nat := calls.count (.discard, true)

/-- Whenever a connection was closed, every statement that had been prepared was given up. -/
def PartsBare (calls : CallLog) : Prop :=
  ∀ before ok, before ++ [(.disconnect, ok)] <+: calls → prepared before = discarded before

variable {calls : CallLog}

theorem PartsBare.nil : PartsBare [] := by
  intro before ok h
  simp at h

/-- A call keeps to that if it closes no connection, or all statements have been given up. -/
theorem PartsBare.concat (h : calls.PartsBare) (call : DriverCall) (ok : Bool)
    (hcall : call = .disconnect → prepared calls = discarded calls) :
    PartsBare (calls ++ [(call, ok)]) := by
  intro before ok' hprefix
  rcases List.prefix_concat_iff.mp hprefix with hlast | hearlier
  · obtain ⟨rfl, hsame⟩ := List.append_inj' hlast rfl
    obtain ⟨rfl, -⟩ := Prod.mk.inj (List.singleton_inj.mp hsame)
    exact hcall rfl
  · exact h before ok' hearlier

theorem prepared_concat (calls : CallLog) (entry : DriverCall × Bool) :
    prepared (calls ++ [entry]) = prepared calls + if entry = (.prepare, true) then 1 else 0 := by
  rw [prepared, List.count_append, List.count_singleton]
  simp only [beq_iff_eq, prepared]

theorem discarded_concat (calls : CallLog) (entry : DriverCall × Bool) :
    discarded (calls ++ [entry]) =
      discarded calls + if entry = (.discard, true) then 1 else 0 := by
  rw [discarded, List.count_append, List.count_singleton]
  simp only [beq_iff_eq, discarded]

end CallLog

namespace Recorded

variable {inner : Driver W Statement} (t : Tally inner) {w w' : Recorded W}

/-- As many statements have been given up as prepared. -/
structure Shut (t : Tally inner) (w : Recorded W) : Prop where
  world : t.shut w.world
  bare : w.calls.PartsBare
  even : w.calls.prepared = w.calls.discarded

/-- So many statements have been prepared and not given up. -/
structure Alive (t : Tally inner) (count : Nat) (w : Recorded W) : Prop where
  world : t.alive count w.world
  bare : w.calls.PartsBare
  even : w.calls.prepared = w.calls.discarded + count

/-- A call that neither makes nor gives up a statement and closes no connection. -/
structure Neutral (call : DriverCall) : Prop where
  prepare : call ≠ .prepare
  discard : call ≠ .discard
  disconnect : call ≠ .disconnect

theorem Neutral.concat {call : DriverCall} (h : Neutral call) {calls : CallLog} (ok : Bool)
    (hbare : calls.PartsBare) :
    CallLog.PartsBare (calls ++ [(call, ok)]) ∧
      CallLog.prepared (calls ++ [(call, ok)]) = calls.prepared ∧
      CallLog.discarded (calls ++ [(call, ok)]) = calls.discarded := by
  refine ⟨hbare.concat call ok fun hdisconnect ↦ absurd hdisconnect h.disconnect, ?_, ?_⟩
  · rw [CallLog.prepared_concat, if_neg fun hsame ↦ h.prepare (congrArg Prod.fst hsame),
      Nat.add_zero]
  · rw [CallLog.discarded_concat, if_neg fun hsame ↦ h.discard (congrArg Prod.fst hsame),
      Nat.add_zero]

theorem spares_noteOn {call : DriverCall} (hneutral : Neutral call)
    {inside : Statement → W → Except DriverError α × Statement × W} (h : Spares t.alive inside) :
    Spares (Alive t) fun handle w ↦ noteOn call w.calls (inside handle w.world) := by
  intro count handle w hw
  obtain ⟨halive, hcommand⟩ := h count handle w.world hw.world
  obtain ⟨hbare, hprepared, hdiscarded⟩ :=
    hneutral.concat (inside handle w.world).1.isOk hw.bare
  exact ⟨⟨halive, hbare, hprepared.trans (hw.even.trans (congrArg (· + count) hdiscarded.symm))⟩,
    hcommand⟩

theorem note_inj {call : DriverCall} {calls : CallLog} {outcome : Except DriverError α × W}
    {result : Except DriverError α} (h : note call calls outcome = (result, w')) :
    outcome = (result, w'.world) ∧ w'.calls = calls ++ [(call, result.isOk)] := by
  cases h
  exact ⟨rfl, rfl⟩

theorem neutral_connect : Neutral .connect := ⟨by decide, by decide, by decide⟩

/-- The calls tell how many statements are alive. -/
def tally : Tally (driver inner) where
  shut := Shut t
  alive := Alive t
  connected {target w w'} hshut h := by
    obtain ⟨hinner, hcalls⟩ := note_inj h
    obtain ⟨hbare, hprepared, hdiscarded⟩ := neutral_connect.concat true hshut.bare
    refine ⟨t.connected hshut.world hinner, hcalls ▸ hbare, ?_⟩
    rw [hcalls]
    exact hprepared.trans (hshut.even.trans hdiscarded.symm)
  refused {target err w w'} hshut h := by
    obtain ⟨hinner, hcalls⟩ := note_inj h
    obtain ⟨hbare, hprepared, hdiscarded⟩ := neutral_connect.concat false hshut.bare
    refine ⟨t.refused hshut.world hinner, hcalls ▸ hbare, ?_⟩
    rw [hcalls]
    exact hprepared.trans (hshut.even.trans hdiscarded.symm)
  prepared {query handle count w w'} halive h := by
    obtain ⟨hinner, hcalls⟩ := note_inj h
    obtain ⟨hidle, hworld⟩ := t.prepared halive.world hinner
    have hbare := halive.bare.concat .prepare true nofun
    refine ⟨hidle, hworld, hcalls ▸ hbare, ?_⟩
    rw [hcalls, CallLog.prepared_concat, CallLog.discarded_concat, halive.even]
    rfl
  unprepared {query err count w w'} halive h := by
    obtain ⟨hinner, hcalls⟩ := note_inj h
    have hbare := halive.bare.concat .prepare false nofun
    refine ⟨t.unprepared halive.world hinner, hcalls ▸ hbare, ?_⟩
    rw [hcalls, CallLog.prepared_concat, CallLog.discarded_concat, halive.even]
    rfl
  discarded {handle count w} h := by
    have hbare := h.bare.concat .discard true nofun
    refine ⟨t.discarded h.world, hbare, ?_⟩
    change CallLog.prepared (w.calls ++ [(.discard, true)]) =
      CallLog.discarded (w.calls ++ [(.discard, true)]) + count
    rw [CallLog.prepared_concat, CallLog.discarded_concat, h.even, if_pos rfl, if_neg (by decide)]
    omega
  disconnected {w} h := by
    have hbare := h.bare.concat .disconnect (inner.disconnect w.world).1.isOk fun _ ↦ h.even
    refine ⟨t.disconnected h.world, hbare, ?_⟩
    change CallLog.prepared (w.calls ++ [(.disconnect, _)]) =
      CallLog.discarded (w.calls ++ [(.disconnect, _)])
    rw [CallLog.prepared_concat, CallLog.discarded_concat, if_neg (by simp), if_neg (by simp)]
    exact h.even
  bind params := spares_noteOn t ⟨by decide, by decide, by decide⟩ (t.bind params)
  execute := spares_noteOn t ⟨by decide, by decide, by decide⟩ t.execute
  fetch := spares_noteOn t ⟨by decide, by decide, by decide⟩ t.fetch
  column index := spares_noteOn t ⟨by decide, by decide, by decide⟩ (t.column index)
  close := spares_noteOn t ⟨by decide, by decide, by decide⟩ t.close
  closed handle w := t.closed handle w.world

end Recorded

/-! ### Making and breaking connections -/

namespace Tally

variable {driver : Driver W Statement} (t : Tally driver) {w : W}

theorem prepareHandles_cases (query : Query) (size : Nat) {count : Nat} (h : t.alive count w) :
    ∃ handles failure w', Live.prepareHandles driver query size w = ((handles, failure), w') ∧
      t.alive (count + handles.length) w' ∧ (∀ handle ∈ handles, handle.IsIdle query) ∧
      (failure = none → handles.length = size) := by
  induction size generalizing w count with
  | zero => exact ⟨[], none, w, rfl, h, by simp, fun _ ↦ rfl⟩
  | succ size ih =>
    rcases hprepare : driver.prepare query w with ⟨err | handle, w₁⟩
    · refine ⟨[], some err, w₁, ?_, t.unprepared h hprepare, by simp, nofun⟩
      simp only [Live.prepareHandles, hprepare]
    · obtain ⟨hidle, halive⟩ := t.prepared h hprepare
      obtain ⟨handles, failure, w₂, hrest, halive', hidles, hlength⟩ := ih halive
      refine ⟨handle :: handles, failure, w₂, ?_, ?_, ?_, fun hnone ↦ ?_⟩
      · simp only [Live.prepareHandles, hprepare, hrest]
      · rw [List.length_cons, Nat.add_comm handles.length, ← Nat.add_assoc]
        exact halive'
      · rw [List.forall_mem_cons]
        exact ⟨hidle, hidles⟩
      · rw [List.length_cons, hlength hnone]

/-- Either every pool is full, or the handles that have been prepared are known. -/
theorem preparePools_cases (size : Nat) (queries : List Query) {count : Nat}
    (h : t.alive count w) :
    (∃ pools w', Live.preparePools driver size queries w = (.all pools, w') ∧
        t.alive (count + queries.length * size) w' ∧ pools.map (·.1) = queries ∧
        ∀ entry ∈ pools, entry.2.IsFull entry.1 size) ∨
      ∃ query err handles w',
        Live.preparePools driver size queries w = (.failed query err handles, w') ∧
          t.alive (count + handles.length) w' := by
  induction queries generalizing w count with
  | nil => exact .inl ⟨[], w, rfl, by simpa using h, rfl, by simp⟩
  | cons query rest ih =>
    obtain ⟨handles, failure, w₁, hhandles, halive, hidles, hlength⟩ :=
      t.prepareHandles_cases query size h
    cases failure with
    | some err =>
      refine .inr ⟨query, err, handles, w₁, ?_, halive⟩
      simp only [Live.preparePools, hhandles]
    | none =>
      have hsize := hlength rfl
      rcases ih halive with ⟨pools, w₂, hpools, halive', hkeys, hfull⟩ |
        ⟨failed, err, more, w₂, hpools, halive'⟩
      · refine .inl ⟨(query, .ofHandles query.name handles) :: pools, w₂, ?_, ?_, ?_, ?_⟩
        · simp only [Live.preparePools, hhandles, hpools]
        · rw [hsize] at halive'
          rw [List.length_cons, Nat.succ_mul, Nat.add_comm (rest.length * size), ← Nat.add_assoc]
          exact halive'
        · rw [List.map_cons, hkeys]
        · rw [List.forall_mem_cons]
          exact ⟨⟨handles, rfl, hsize, hidles⟩, hfull⟩
      · refine .inr ⟨failed, err, handles ++ more, w₂, ?_, ?_⟩
        · simp only [Live.preparePools, hhandles, hpools]
        · rw [List.length_append, ← Nat.add_assoc]
          exact halive'

theorem alive_discardAll (handles : List Statement) (h : t.alive handles.length w) :
    t.alive 0 (handles.foldl (fun w handle ↦ driver.discard handle w) w) := by
  induction handles generalizing w with
  | nil => exact h
  | cons handle rest ih => exact ih (t.discarded h)

/-- A connection is closed after all of its statements have been given up. -/
theorem shut_tearDown (generation : Nat) (handles : List Statement)
    (h : t.alive handles.length w) :
    t.shut (Live.tearDown driver generation handles w).1 := by
  have hshut := t.disconnected (t.alive_discardAll handles h)
  unfold Live.tearDown
  dsimp only
  split
  · rename_i hdisconnect
    rw [hdisconnect] at hshut
    exact hshut
  · rename_i hdisconnect
    rw [hdisconnect] at hshut
    exact hshut

/-- A connection is built with every handle, or nothing is left open. -/
theorem build_cases (target : String) (size generation : Nat) (h : t.shut w) :
    (∃ live w' events, Live.build driver target size generation w = (.ok live, w', events) ∧
        live.IsRested size ∧ t.alive (handleCount size) w') ∨
      ∃ err w' events, Live.build driver target size generation w = (.error err, w', events) ∧
        t.shut w' := by
  rcases hconnect : driver.connect target w with ⟨err | ⟨⟩, w₁⟩
  · refine .inr ⟨.connection (driver.name ++ " driver could not connect"), w₁,
      Event.ofError "connect" err, ?_, t.refused h hconnect⟩
    simp only [Live.build, hconnect]
  · rcases t.preparePools_cases size Query.all (t.connected h hconnect) with
      ⟨pools, w₂, hpools, halive, hkeys, hfull⟩ | ⟨query, err, handles, w₂, hpools, halive⟩
    · rw [Nat.zero_add] at halive
      refine .inl ⟨⟨⟨pools⟩, generation⟩, w₂, [], ?_, ⟨hkeys, hfull⟩, halive⟩
      simp only [Live.build, hconnect, hpools]
    · rw [Nat.zero_add] at halive
      refine .inr ⟨.prepare query.name, (Live.tearDown driver generation handles w₂).1,
        Event.ofError query.name err ++ (Live.tearDown driver generation handles w₂).2, ?_,
        t.shut_tearDown generation handles halive⟩
      simp only [Live.build, hconnect, hpools]

end Tally

/-! ### Connections between calls -/

namespace Connection

variable {driver : Driver W Statement}

/-- Every statement of the connection is in its pool and nobody reads from it. -/
structure Holds (t : Tally driver) (c : Connection W Statement) (live : Live Statement) : Prop where
  live_eq : c.live = some live
  rested : live.IsRested c.poolSize
  alive : t.alive (handleCount c.poolSize) c.world

/-- A connection has all of its statements, or there is none. -/
structure Tallied (t : Tally driver) (size : Nat) (c : Connection W Statement) : Prop where
  poolSize_eq : c.poolSize = size
  state : (∃ live, c.Holds t live) ∨ c.live = none ∧ t.shut c.world

variable {t : Tally driver} {c : Connection W Statement} {size : Nat}

theorem Tallied.withLog (h : c.Tallied t size) (log : List Event) :
    Tallied t size { c with log } := by
  refine ⟨h.poolSize_eq, ?_⟩
  rcases h.state with ⟨live, hholds⟩ | hclosed
  · exact .inl ⟨live, hholds.live_eq, hholds.rested, hholds.alive⟩
  · exact .inr hclosed

theorem Tallied.disconnect (h : c.Tallied t size) :
    (c.disconnect driver).poolSize = size ∧ (c.disconnect driver).live = none ∧
      t.shut (c.disconnect driver).world := by
  unfold Connection.disconnect
  split
  · rename_i hnone
    rcases h.state with ⟨live, hholds⟩ | ⟨-, hshut⟩
    · cases hholds.live_eq.symm.trans hnone
    · exact ⟨h.poolSize_eq, hnone, hshut⟩
  · rename_i live hlive
    rcases h.state with ⟨live', hholds⟩ | ⟨hnone, -⟩
    · obtain rfl := Option.some.inj (hlive.symm.trans hholds.live_eq)
      have halive : t.alive live.pools.handles.length c.world := by
        rw [hholds.rested.length_handles]
        exact hholds.alive
      exact ⟨h.poolSize_eq, rfl, t.shut_tearDown live.generation live.pools.handles halive⟩
    · cases hlive.symm.trans hnone

theorem tallied_openNext (hsize : c.poolSize = size) (hshut : t.shut c.world) :
    (c.openNext driver).2.Tallied t size := by
  rcases t.build_cases c.target c.poolSize (c.lastGeneration + 1) hshut with
    ⟨live, w, events, hbuild, hrested, halive⟩ | ⟨err, w, events, hbuild, hshut'⟩
  · simp only [openNext, hbuild]
    exact ⟨hsize, .inl ⟨live, rfl, hrested, halive⟩⟩
  · simp only [openNext, hbuild]
    exact ⟨hsize, .inr ⟨rfl, hshut'⟩⟩

theorem Tallied.reconnectIfCurrent (h : c.Tallied t size) (generation : Nat) :
    (c.reconnectIfCurrent driver generation).2.Tallied t size := by
  unfold Connection.reconnectIfCurrent
  split
  · split
    · obtain ⟨hsize, -, hshut⟩ := h.disconnect
      exact tallied_openNext hsize hshut
    · exact h
  · rename_i hnone
    rcases h.state with ⟨live, hholds⟩ | ⟨-, hshut⟩
    · cases hholds.live_eq.symm.trans hnone
    · exact tallied_openNext h.poolSize_eq hshut

theorem Tallied.reconnectIfDisconnected (h : c.Tallied t size) :
    (c.reconnectIfDisconnected driver).2.Tallied t size := by
  unfold Connection.reconnectIfDisconnected
  split
  · exact h
  · rename_i hnone
    rcases h.state with ⟨live, hholds⟩ | ⟨-, hshut⟩
    · cases hholds.live_eq.symm.trans hnone
    · exact tallied_openNext h.poolSize_eq hshut

theorem Tallied.reconnect (h : c.Tallied t size) :
    (c.reconnect driver).2.Tallied t size := h.reconnectIfCurrent _

end Connection

/-! ### Reading -/

namespace Opened

variable {driver : Driver W Statement} (t : Tally driver) {query : Query}
  {opened : Opened W Statement} {count : Nat}

/-- A statement of the query is in use, and none has been lost. -/
structure InUse (t : Tally driver) (query : Query) (count : Nat) (opened : Opened W Statement) :
    Prop where
  alive : t.alive count opened.world
  command : opened.handle.command = .query query

theorem InUse.call (h : opened.InUse t query count)
    {call : Statement → W → Except DriverError α × Statement × W} (hcall : Spares t.alive call)
    {result : Except DriverError α} {handle : Statement} {w : W}
    (heq : call opened.handle opened.world = (result, handle, w)) (log : List Event) :
    InUse t query count ⟨handle, w, log⟩ := by
  obtain ⟨halive, hcommand⟩ := hcall count opened.handle opened.world h.alive
  rw [heq] at halive hcommand
  exact ⟨halive, hcommand.trans h.command⟩

/-- Closing the cursor leaves the statement idle. -/
theorem InUse.closeQuietly (h : opened.InUse t query count) :
    (opened.closeQuietly driver query).InUse t query count ∧
      (opened.closeQuietly driver query).handle.IsIdle query := by
  have hclosed := t.closed opened.handle opened.world
  unfold Opened.closeQuietly
  split
  · rename_i heq
    rw [heq] at hclosed
    have hafter := h.call t t.close heq opened.log
    exact ⟨hafter, hafter.command, hclosed⟩
  · rename_i err handle w heq
    rw [heq] at hclosed
    have hafter := h.call t t.close heq (opened.log ++ [.closeFailed query.name err])
    exact ⟨hafter, hafter.command, hclosed⟩

/-- Whatever is read, and whatever fails meanwhile, the statement is not lost. -/
theorem InUse.run (reading : Reading α) (h : opened.InUse t query count) :
    (reading.run driver query opened).2.InUse t query count := by
  induction reading generalizing opened with
  | stop result => exact h
  | fetch next ih =>
    unfold Reading.run
    split
    · rename_i heq
      exact ih _ (h.call t t.fetch heq opened.log)
    · rename_i err handle w heq
      have hlogged := h.call t t.fetch heq (opened.log ++ Event.ofError query.name err)
      exact (hlogged.closeQuietly t).1
  | column index next ih =>
    unfold Reading.run
    split
    · rename_i heq
      exact ih _ (h.call t (t.column index) heq opened.log)
    · rename_i err handle w heq
      have hlogged := h.call t (t.column index) heq (opened.log ++ Event.ofError query.name err)
      exact (hlogged.closeQuietly t).1
  | close next ih => exact ih (h.closeQuietly t).1

end Opened

/-! ### One request -/

namespace Connection

variable {driver : Driver W Statement} {t : Tally driver} {c : Connection W Statement} {size : Nat}
  {live : Live Statement}

/-- A pass that has taken a handle puts it back into its pool. -/
theorem Holds.putBack (h : c.Holds t live) {query : Query} {pool : Pool Statement}
    (hfull : ∀ back : Statement, back.IsIdle query → (pool.release back).IsFull query c.poolSize)
    {opened : Opened W Statement} (hopened : opened.InUse t query (handleCount c.poolSize)) :
    ∃ live', (c.putBack live query pool (opened.closeQuietly driver query)).Holds t live' := by
  obtain ⟨hused, hidle⟩ := hopened.closeQuietly t
  exact ⟨_, rfl, h.rested.insert (hfull _ hidle), hused.alive⟩

/-- What a pass leaves. -/
def Attempt.Tallied (t : Tally driver) (size : Nat) : Attempt W Statement α → Prop
  | .done _ c => c.Tallied t size
  | .failed _ _ _ c => c.Tallied t size
  | .unconnected => True

/-- A pass leaves the connection with all of its statements, wherever it fails. -/
theorem Tallied.attempt (h : c.Tallied t size) (hsize : 0 < size) (request : Request α) :
    (c.attempt driver request).Tallied t size := by
  rcases h.state with ⟨live, hholds⟩ | ⟨hnone, -⟩
  · obtain ⟨pool, hpool, hfull⟩ := hholds.rested.get? request.query
    obtain ⟨handle, rest, hacquire, hidle, hback⟩ := hfull.acquire (h.poolSize_eq ▸ hsize)
    have htaken : Opened.InUse t request.query (handleCount c.poolSize)
        ⟨handle, c.world, c.log⟩ := ⟨hholds.alive, hidle.command⟩
    -- However the pass ends, its handle goes back.
    have hends : ∀ {opened : Opened W Statement},
        opened.InUse t request.query (handleCount c.poolSize) →
        (c.putBack live request.query rest
          (opened.closeQuietly driver request.query)).Tallied t size :=
      fun hopened ↦ ⟨h.poolSize_eq, .inl (hholds.putBack hback hopened)⟩
    simp only [Connection.attempt, hholds.live_eq, hpool, hacquire]
    split
    · rename_i hbind
      exact hends (htaken.call t (t.bind _) hbind c.log)
    · rename_i hbind
      have hbound := htaken.call t (t.bind _) hbind c.log
      split
      · rename_i hexecute
        exact hends (hbound.call t t.execute hexecute c.log)
      · rename_i hexecute
        exact hends ((hbound.call t t.execute hexecute c.log).run t _)
  · simp only [Connection.attempt, hnone]
    trivial

theorem live_eq_none_of_unconnected {request : Request α}
    (h : c.attempt driver request = .unconnected) : c.live = none := by
  cases hlive : c.live with
  | none => rfl
  | some live =>
    simp only [Connection.attempt, hlive] at h
    repeat' split at h
    all_goals cases h

theorem tallied_resume {request : Request α} {budget retries : Nat}
    (ih : ∀ {c : Connection W Statement}, c.Tallied t size →
      (c.perform driver request budget retries).2.Tallied t size)
    {outcome : Except Error Unit × Connection W Statement} (h : outcome.2.Tallied t size) :
    (resume driver request budget retries outcome).2.Tallied t size := by
  rcases outcome with ⟨_ | _, c⟩
  · exact h
  · exact ih h

/-- Whatever is performed leaves the connection with all of its statements, or leaves none open. -/
theorem Tallied.perform (h : c.Tallied t size) (hsize : 0 < size) (request : Request α)
    (budget retries : Nat) :
    (c.perform driver request budget retries).2.Tallied t size := by
  induction budget generalizing c retries with
  | zero =>
    have hafter := h.attempt hsize request
    cases hattempt : c.attempt driver request with
    | done result c' =>
      rw [hattempt] at hafter
      rw [perform_of_done hattempt]
      exact hafter
    | unconnected =>
      rw [perform_zero_of_closed (live_eq_none_of_unconnected hattempt)]
      exact h
    | failed generation step err c' =>
      rw [hattempt] at hafter
      rw [perform_of_final hattempt (.inl rfl)]
      exact hafter.withLog _
  | succ budget ih =>
    have hafter := h.attempt hsize request
    cases hattempt : c.attempt driver request with
    | done result c' =>
      rw [hattempt] at hafter
      rw [perform_of_done hattempt]
      exact hafter
    | unconnected =>
      rw [perform_of_closed (live_eq_none_of_unconnected hattempt)]
      exact tallied_resume (fun hc ↦ ih hc (retries + 1))
        (h.withLog _).reconnectIfDisconnected
    | failed generation step err c' =>
      rw [hattempt] at hafter
      cases hlink : err.isLinkFailure with
      | false =>
        rw [perform_of_final hattempt (.inr hlink)]
        exact hafter.withLog _
      | true =>
        rw [perform_of_linkFailure hattempt hlink]
        exact tallied_resume (fun hc ↦ ih hc (retries + 1))
          (Tallied.reconnectIfCurrent (Tallied.withLog hafter _) generation)

end Connection

end Provenance
