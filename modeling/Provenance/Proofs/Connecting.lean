import Provenance.Connection
import Provenance.Proofs.FileStore

/-!
Making and breaking connections to a file site. Between calls a connection is open and every pool
has all its handles (`Connection.IsOpen`), or nothing is open at all (`Connection.IsClosed`); the
counters of the plan say the same. Building a connection leads to the one or, if a connect or a
prepare was planned to fail, to the other, and neither it nor tearing down touches the store or the
failures planned for statements (`Relinked`).
-/

set_option autoImplicit false
set_option relaxedAutoImplicit false

namespace Provenance

open Relational (Link Statement World)

/-! ### Pools at rest -/

/-- A handle of the query that nobody reads from. -/
structure Relational.Statement.IsIdle (query : Query) (handle : Statement) : Prop where
  command : handle.command = .query query
  cursor : handle.cursor = none

/-- The pool has `size` handles of the query, and all of them are in it. -/
def Pool.IsFull (query : Query) (size : Nat) (pool : Pool Statement) : Prop :=
  ∃ handles, pool = .ofHandles query.name handles ∧ handles.length = size ∧
    ∀ handle ∈ handles, handle.IsIdle query

/-- Every query has its pool, and every pool its handles. -/
structure Live.IsRested (size : Nat) (live : Live Statement) : Prop where
  keys : live.pools.entries.map (·.1) = Query.all
  full : ∀ entry ∈ live.pools.entries, entry.2.IsFull entry.1 size

theorem Query.mem_all (query : Query) : query ∈ Query.all := by
  cases query <;> decide

variable {query : Query} {size : Nat}

/-- A handle can be taken, and any idle one put back in its place. -/
theorem Pool.IsFull.acquire {pool : Pool Statement} (h : pool.IsFull query size)
    (hsize : 0 < size) :
    ∃ handle rest, pool.acquire = .taken handle rest ∧ handle.IsIdle query ∧
      ∀ back : Statement, back.IsIdle query → (rest.release back).IsFull query size := by
  obtain ⟨handles, rfl, hlength, hidle⟩ := h
  cases handles with
  | nil =>
    rw [List.length_nil] at hlength
    exact absurd hlength (Nat.ne_of_lt hsize)
  | cons handle rest =>
    rw [List.forall_mem_cons] at hidle
    refine ⟨handle, ⟨query.name, none :: rest.map some, ⟨rest.length⟩⟩, rfl, hidle.1, ?_⟩
    intro back hback
    refine ⟨back :: rest, rfl, by simpa using hlength, ?_⟩
    rw [List.forall_mem_cons]
    exact ⟨hback, hidle.2⟩

namespace Pools

variable {K H : Type} [DecidableEq K] {key : K} {pool : Pool H}

theorem map_fst_put {entries : List (K × Pool H)} (h : key ∈ entries.map (·.1)) :
    (put key pool entries).map (·.1) = entries.map (·.1) := by
  induction entries with
  | nil => cases h
  | cons entry rest ih =>
    unfold put
    by_cases hkey : entry.1 = key
    · rw [if_pos hkey, List.map_cons, List.map_cons, hkey]
    · have hrest : key ∈ rest.map (·.1) := by
        rw [List.map_cons, List.mem_cons] at h
        exact h.resolve_left fun heq ↦ hkey heq.symm
      rw [if_neg hkey, List.map_cons, List.map_cons, ih hrest]

theorem eq_or_mem_of_mem_put {entry : K × Pool H} {entries : List (K × Pool H)}
    (h : entry ∈ put key pool entries) : entry = (key, pool) ∨ entry ∈ entries := by
  induction entries with
  | nil => exact .inl (List.mem_singleton.mp h)
  | cons first rest ih =>
    unfold put at h
    by_cases hkey : first.1 = key
    · rw [if_pos hkey] at h
      rcases List.mem_cons.mp h with heq | hrest
      · exact .inl heq
      · exact .inr (List.mem_cons_of_mem _ hrest)
    · rw [if_neg hkey] at h
      rcases List.mem_cons.mp h with heq | hput
      · exact .inr (heq ▸ List.mem_cons_self)
      · exact (ih hput).imp_right (List.mem_cons_of_mem _)

end Pools

namespace Live.IsRested

variable {live : Live Statement}

theorem get? (h : live.IsRested size) (query : Query) :
    ∃ pool, live.pools.get? query = some pool ∧ pool.IsFull query size := by
  have hkey : query ∈ live.pools.entries.map (·.1) := h.keys ▸ Query.mem_all query
  obtain ⟨entry, hentry, hquery⟩ := List.mem_map.mp hkey
  have hsome : (live.pools.entries.find? fun entry ↦ entry.1 == query).isSome := by
    rw [List.find?_isSome]
    exact ⟨entry, hentry, beq_iff_eq.mpr hquery⟩
  obtain ⟨found, hfound⟩ := Option.isSome_iff_exists.mp hsome
  refine ⟨found.2, by rw [Pools.get?, hfound]; rfl, ?_⟩
  have hfull := h.full found (List.mem_of_find?_eq_some hfound)
  have hkey : found.1 = query := by simpa using List.find?_some hfound
  rwa [hkey] at hfull

theorem insert (h : live.IsRested size) {pool : Pool Statement} (hpool : pool.IsFull query size) :
    Live.IsRested size { live with pools := live.pools.insert query pool } := by
  refine ⟨?_, fun entry hentry ↦ ?_⟩
  · exact (Pools.map_fst_put (h.keys ▸ Query.mem_all query)).trans h.keys
  · rcases Pools.eq_or_mem_of_mem_put hentry with rfl | hold
    · exact hpool
    · exact h.full entry hold

theorem length_handles (h : live.IsRested size) :
    live.pools.handles.length = Query.all.length * size := by
  have hentry : ∀ entry ∈ live.pools.entries, entry.2.handles.length = size := by
    intro entry hentry
    obtain ⟨handles, hpool, hlength, -⟩ := h.full entry hentry
    rw [hpool, Pool.handles_ofHandles, hlength]
  rw [Pools.handles, List.length_flatMap, List.map_congr_left hentry, ← h.keys, List.length_map,
    List.map_const', List.sum_replicate_nat]

end Live.IsRested

/-! ### What changes -/

namespace FileSite

/-- What making and breaking connections may change: planned failures of connecting and preparing
are used up, a file that had no tables gets them, and the connection is another. -/
structure Relinked (site : FileSite) (s : Store) (w w' : Faulty World) : Prop where
  offers : site.Offers w'.world s
  now : w'.world.now = w.world.now
  world : site.Keeps w.world s → World.Agree w.world w'.world
  used : ∀ point, w'.plan.queues point <:+ w.plan.queues point
  kept : ∀ point, point ≠ .connect → point ≠ .prepare → w'.plan.queues point = w.plan.queues point

/-- As `Relinked`, where handles have been prepared on an open connection. -/
structure Prepares (site : FileSite) (s : Store) (w w' : Faulty World) (count : Nat) : Prop
    extends Relinked site s w w' where
  keeps : site.Keeps w'.world s
  linked : site.Linked w'.world
  opened : w'.plan.opened = w.plan.opened
  live : w'.plan.live = w.plan.live + count

variable {site : FileSite} {s : Store} {w w' w'' : Faulty World}

theorem Relinked.refl (h : site.Offers w.world s) : site.Relinked s w w :=
  ⟨h, rfl, fun _ ↦ rfl, fun _ ↦ List.suffix_refl _, fun _ _ _ ↦ rfl⟩

theorem Relinked.keeps (h : site.Relinked s w w') (hkeeps : site.Keeps w.world s) :
    site.Keeps w'.world s := hkeeps.of_agree (h.world hkeeps)

theorem Relinked.trans (h : site.Relinked s w w') (h' : site.Relinked s w' w'') :
    site.Relinked s w w'' := by
  refine ⟨h'.offers, h'.now.trans h.now, fun hkeeps ↦ ?_, fun point ↦ ?_, fun point hc hp ↦ ?_⟩
  · exact (h.world hkeeps).trans (h'.world (h.keeps hkeeps))
  · exact (h'.used point).trans (h.used point)
  · rw [h'.kept point hc hp, h.kept point hc hp]

theorem Relinked.ne_nil (h : site.Relinked s w w') {point : FaultPoint}
    (hpoint : w'.plan.queues point ≠ []) : w.plan.queues point ≠ [] := by
  intro hnil
  have hsuffix := h.used point
  rw [hnil, List.suffix_nil] at hsuffix
  exact hpoint hsuffix

theorem Prepares.trans {m n : Nat} (h : site.Prepares s w w' m) (h' : site.Prepares s w' w'' n) :
    site.Prepares s w w'' (m + n) :=
  ⟨h.toRelinked.trans h'.toRelinked, h'.keeps, h'.linked, h'.opened.trans h.opened, by
    rw [h'.live, h.live, Nat.add_assoc]⟩

theorem Prepares.refl (hkeeps : site.Keeps w.world s) (hlinked : site.Linked w.world) :
    site.Prepares s w w 0 := ⟨.refl hkeeps.offers, hkeeps, hlinked, rfl, rfl⟩

/-- Using up a failure that was planned for connecting or preparing. -/
theorem Relinked.after (h : site.Offers w.world s) {point : FaultPoint}
    (hpoint : point = .connect ∨ point = .prepare) :
    site.Relinked s w ⟨w.plan.after point, w.world⟩ := by
  refine ⟨h, rfl, fun _ ↦ rfl, fun other ↦ ?_, fun other hconnect hprepare ↦ ?_⟩
  · rw [FaultPlan.queues_after]
    split
    · rename_i heq
      exact heq ▸ List.tail_suffix _
    · exact List.suffix_refl _
  · rw [FaultPlan.queues_after, if_neg]
    rcases hpoint with rfl | rfl <;> assumption

/-! ### Preparing -/

theorem prepare_faulty (query : Query) (w : Faulty World) :
    site.driver.prepare query w =
      Faulty.count (fun plan ↦ { plan with live := plan.live + 1 })
        (Faulty.guarded .prepare (Relational.prepare (.query query)) w) := rfl

/-- Preparing a handle gives an idle one, unless it was planned to fail. -/
theorem prepare_cases (hkeeps : site.Keeps w.world s) (hlinked : site.Linked w.world)
    (query : Query) :
    (∃ handle w', site.driver.prepare query w = (.ok handle, w') ∧
        handle.IsIdle query ∧ site.Prepares s w w' 1) ∨
      ∃ err w', site.driver.prepare query w = (.error err, w') ∧ site.Prepares s w w' 0 ∧
        w.plan.queues .prepare ≠ [] := by
  cases hqueue : w.plan.queues .prepare with
  | nil =>
    left
    have hworld : site.Keeps { w.world with link := some (site.link true) } s :=
      hkeeps.of_agree (.relink _ _)
    refine ⟨⟨.query query, [], none⟩, ⟨{ w.plan with live := w.plan.live + 1 },
      { w.world with link := some (site.link true) }⟩, ?_, ⟨rfl, rfl⟩, ?_⟩
    · rw [prepare_faulty, Faulty.guarded_of_nil _ hqueue, prepare_of_keeps hlinked hkeeps]
      rfl
    · exact ⟨⟨hworld.offers, rfl, fun _ ↦ rfl, fun _ ↦ List.suffix_refl _,
        fun _ _ _ ↦ rfl⟩, hworld, ⟨true, rfl⟩, rfl, rfl⟩
  | cons err rest =>
    right
    refine ⟨err, ⟨w.plan.after .prepare, w.world⟩, ?_, ?_, List.cons_ne_nil _ _⟩
    · rw [prepare_faulty, Faulty.guarded_of_cons _ hqueue]
      rfl
    · exact ⟨.after hkeeps.offers (.inr rfl), hkeeps, hlinked, FaultPlan.opened_after _ _,
        FaultPlan.live_after _ _⟩

theorem prepareHandles_cases (query : Query) (count : Nat) (hkeeps : site.Keeps w.world s)
    (hlinked : site.Linked w.world) :
    ∃ handles failure w', Live.prepareHandles site.driver query count w = ((handles, failure), w') ∧
      site.Prepares s w w' handles.length ∧ (∀ handle ∈ handles, handle.IsIdle query) ∧
      (failure = none ∧ handles.length = count ∨
        failure ≠ none ∧ w.plan.queues .prepare ≠ []) := by
  induction count generalizing w with
  | zero => exact ⟨[], none, w, rfl, .refl hkeeps hlinked, by simp, .inl ⟨rfl, rfl⟩⟩
  | succ count ih =>
    rcases prepare_cases hkeeps hlinked query with
      ⟨handle, w₁, hprepare, hidle, hw₁⟩ | ⟨err, w₁, hprepare, hw₁, hqueue⟩
    · obtain ⟨handles, failure, w₂, hrest, hw₂, hidles, hfailure⟩ := ih hw₁.keeps hw₁.linked
      refine ⟨handle :: handles, failure, w₂, ?_, ?_, ?_, ?_⟩
      · simp only [Live.prepareHandles, hprepare, hrest]
      · rw [List.length_cons, Nat.add_comm]
        exact hw₁.trans hw₂
      · rw [List.forall_mem_cons]
        exact ⟨hidle, hidles⟩
      · rcases hfailure with ⟨hnone, hlength⟩ | ⟨hsome, hqueue⟩
        · exact .inl ⟨hnone, by rw [List.length_cons, hlength]⟩
        · exact .inr ⟨hsome, hw₁.ne_nil hqueue⟩
    · refine ⟨[], some err, w₁, ?_, hw₁, by simp, .inr ⟨by simp, hqueue⟩⟩
      simp only [Live.prepareHandles, hprepare]

theorem preparePools_cases (size : Nat) (queries : List Query) (hkeeps : site.Keeps w.world s)
    (hlinked : site.Linked w.world) :
    (∃ pools w', Live.preparePools site.driver size queries w = (.all pools, w') ∧
        site.Prepares s w w' (queries.length * size) ∧ pools.map (·.1) = queries ∧
        ∀ entry ∈ pools, entry.2.IsFull entry.1 size) ∨
      ∃ query err handles w',
        Live.preparePools site.driver size queries w = (.failed query err handles, w') ∧
          site.Prepares s w w' handles.length ∧ w.plan.queues .prepare ≠ [] := by
  induction queries generalizing w with
  | nil =>
    refine .inl ⟨[], w, rfl, ?_, rfl, by simp⟩
    rw [List.length_nil, Nat.zero_mul]
    exact .refl hkeeps hlinked
  | cons query rest ih =>
    obtain ⟨handles, failure, w₁, hhandles, hw₁, hidles, ⟨rfl, hlength⟩ | ⟨hsome, hqueue⟩⟩ :=
      prepareHandles_cases query size hkeeps hlinked
    · rcases ih hw₁.keeps hw₁.linked with
        ⟨pools, w₂, hpools, hw₂, hkeys, hfull⟩ | ⟨failed, err, more, w₂, hpools, hw₂, hqueue⟩
      · refine .inl ⟨(query, .ofHandles query.name handles) :: pools, w₂, ?_, ?_, ?_, ?_⟩
        · simp only [Live.preparePools, hhandles, hpools]
        · have hcount : (query :: rest).length * size = handles.length + rest.length * size := by
            rw [List.length_cons, Nat.succ_mul, hlength, Nat.add_comm]
          rw [hcount]
          exact hw₁.trans hw₂
        · rw [List.map_cons, hkeys]
        · rw [List.forall_mem_cons]
          exact ⟨⟨handles, rfl, hlength, hidles⟩, hfull⟩
      · refine .inr ⟨failed, err, handles ++ more, w₂, ?_, ?_, hw₁.ne_nil hqueue⟩
        · simp only [Live.preparePools, hhandles, hpools]
        · rw [List.length_append]
          exact hw₁.trans hw₂
    · obtain ⟨err, rfl⟩ := Option.ne_none_iff_exists'.mp hsome
      refine .inr ⟨query, err, handles, w₁, ?_, hw₁, hqueue⟩
      simp only [Live.preparePools, hhandles]

/-! ### Building and tearing down -/

/-- The world after handles have been given up and the connection has been closed. -/
def parted (count : Nat) (w : Faulty World) : Faulty World :=
  ⟨{ w.plan with live := w.plan.live - count, opened := w.plan.opened - 1 },
    { w.world with link := none }⟩

theorem foldl_discard (handles : List Statement) (w : Faulty World) :
    handles.foldl (fun w handle ↦ site.driver.discard handle w) w =
      ⟨{ w.plan with live := w.plan.live - handles.length }, w.world⟩ := by
  induction handles generalizing w with
  | nil => rfl
  | cons handle rest ih =>
    rw [List.foldl_cons, ih, List.length_cons, Nat.add_comm, ← Nat.sub_sub]
    rfl

theorem tearDown_eq (generation : Nat) (handles : List Statement) (w : Faulty World) :
    Live.tearDown site.driver generation handles w = (parted handles.length w, []) := by
  unfold Live.tearDown
  rw [foldl_discard]
  rfl

theorem relinked_parted (h : site.Keeps w.world s) (count : Nat) :
    site.Relinked s w (parted count w) :=
  ⟨(h.of_agree (.relink _ none)).offers, rfl, fun _ ↦ rfl, fun _ ↦ List.suffix_refl _,
    fun _ _ _ ↦ rfl⟩

/-- How many handles an open connection has. -/
abbrev handleCount (size : Nat) : Nat := Query.all.length * size

/-- Connecting opens the store, unless it was planned to fail. -/
theorem connect_cases (h : site.Offers w.world s) :
    (∃ w', site.driver.connect site.text w = (.ok (), w') ∧ site.Relinked s w w' ∧
        site.Keeps w'.world s ∧ site.Linked w'.world ∧ w'.plan.opened = w.plan.opened + 1 ∧
        w'.plan.live = w.plan.live) ∨
      ∃ err, site.driver.connect site.text w = (.error err, ⟨w.plan.after .connect, w.world⟩) ∧
        w.plan.queues .connect ≠ [] := by
  have hconnect : site.driver.connect site.text w =
      Faulty.count
        (fun plan ↦ { plan with connects := plan.connects + 1, opened := plan.opened + 1 })
        (Faulty.guarded .connect (Relational.connect site.config site.text) w) := rfl
  rw [hconnect]
  cases hqueue : w.plan.queues .connect with
  | nil =>
    obtain ⟨opened, hopened, hlinked, hkeeps, hnow⟩ := connect_of_offers h
    rw [Faulty.guarded_of_nil _ hqueue, hopened]
    refine .inl ⟨_, rfl, ⟨hkeeps.offers, hnow, fun hold ↦ ?_, fun _ ↦ List.suffix_refl _,
      fun _ _ _ ↦ rfl⟩, hkeeps, hlinked, rfl, rfl⟩
    rw [connect_of_keeps hold] at hopened
    exact congrArg Prod.snd hopened ▸ rfl
  | cons err rest =>
    rw [Faulty.guarded_of_cons _ hqueue]
    exact .inr ⟨err, rfl, List.cons_ne_nil _ _⟩

/-- Building a connection opens it with every handle, unless a connect or a prepare was planned to
fail: then nothing is left open. -/
theorem build_cases (size generation : Nat) (h : site.Offers w.world s)
    (hlink : w.world.link = none) :
    (∃ live w' events, Live.build site.driver site.text size generation w = (.ok live, w', events) ∧
        live.IsRested size ∧ live.generation = generation ∧ site.Relinked s w w' ∧
        site.Keeps w'.world s ∧ site.Linked w'.world ∧ w'.plan.opened = w.plan.opened + 1 ∧
        w'.plan.live = w.plan.live + handleCount size) ∨
      ∃ err w' events, Live.build site.driver site.text size generation w =
          (.error err, w', events) ∧
        site.Relinked s w w' ∧ w'.world.link = none ∧ w'.plan.opened = w.plan.opened ∧
        w'.plan.live = w.plan.live ∧
        (w.plan.queues .connect ≠ [] ∨ w.plan.queues .prepare ≠ []) := by
  rcases connect_cases h with ⟨w₁, hconnect, hw₁, hkeeps, hlinked, hopened, hlive⟩ |
    ⟨err, hconnect, hqueue⟩
  · rcases preparePools_cases size Query.all hkeeps hlinked with
      ⟨pools, w₂, hpools, hw₂, hkeys, hfull⟩ | ⟨query, err, handles, w₂, hpools, hw₂, hqueue⟩
    · refine .inl ⟨⟨⟨pools⟩, generation⟩, w₂, [], ?_, ⟨hkeys, hfull⟩, rfl, hw₁.trans hw₂.toRelinked,
        hw₂.keeps, hw₂.linked, hw₂.opened.trans hopened, ?_⟩
      · simp only [Live.build, hconnect, hpools]
      · rw [hw₂.live, hlive]
    · refine .inr ⟨.prepare query.name, parted handles.length w₂,
        Event.ofError query.name err ++ [], ?_,
        (hw₁.trans hw₂.toRelinked).trans (relinked_parted hw₂.keeps _), rfl, ?_, ?_,
        .inr (hw₁.ne_nil hqueue)⟩
      · simp only [Live.build, hconnect, hpools, tearDown_eq]
      · change w₂.plan.opened - 1 = w.plan.opened
        rw [hw₂.opened, hopened, Nat.add_sub_cancel]
      · change w₂.plan.live - handles.length = w.plan.live
        rw [hw₂.live, hlive, Nat.add_sub_cancel]
  · refine .inr ⟨.connection (site.driver.name ++ " driver could not connect"), _,
      Event.ofError "connect" err, ?_, .after h (.inl rfl), hlink, FaultPlan.opened_after _ _,
      FaultPlan.live_after _ _, .inl hqueue⟩
    simp only [Live.build, hconnect]

end FileSite

/-! ### Connections between calls -/

namespace Connection

open FileSite (handleCount)

/-- The connection is open on the store, and nobody uses it. -/
structure IsOpen (site : FileSite) (s : Store) (c : Connection (Faulty World) Statement)
    (live : Live Statement) : Prop where
  live_eq : c.live = some live
  target_eq : c.target = site.text
  sized : 0 < c.poolSize
  keeps : site.Keeps c.world.world s
  linked : site.Linked c.world.world
  rested : live.IsRested c.poolSize
  opened : c.world.plan.opened = 1
  handles : c.world.plan.live = handleCount c.poolSize

/-- No connection is open. -/
structure IsClosed (site : FileSite) (s : Store) (c : Connection (Faulty World) Statement) :
    Prop where
  live_eq : c.live = none
  target_eq : c.target = site.text
  sized : 0 < c.poolSize
  keeps : site.Keeps c.world.world s
  unlinked : c.world.world.link = none
  opened : c.world.plan.opened = 0
  handles : c.world.plan.live = 0

/-- What a connection to the site is between calls. -/
def Settled (site : FileSite) (s : Store) (c : Connection (Faulty World) Statement) : Prop :=
  (∃ live, IsOpen site s c live) ∨ IsClosed site s c

variable {site : FileSite} {s : Store} {c : Connection (Faulty World) Statement}
  {live : Live Statement}

theorem Settled.keeps (h : Settled site s c) : site.Keeps c.world.world s := by
  rcases h with ⟨live, hopen⟩ | hclosed
  · exact hopen.keeps
  · exact hclosed.keeps

theorem disconnect_of_isOpen (h : IsOpen site s c live) :
    disconnect site.driver c =
      { c with live := none, world := FileSite.parted (handleCount c.poolSize) c.world } := by
  simp only [disconnect, h.live_eq, FileSite.tearDown_eq, h.rested.length_handles, List.append_nil]

theorem isClosed_disconnect (h : IsOpen site s c live) :
    IsClosed site s (disconnect site.driver c) ∧
      site.Relinked s c.world (disconnect site.driver c).world := by
  rw [disconnect_of_isOpen h]
  refine ⟨⟨rfl, h.target_eq, h.sized, h.keeps.of_agree (.relink _ none), rfl, ?_, ?_⟩,
    FileSite.relinked_parted h.keeps _⟩
  · change c.world.plan.opened - 1 = 0
    rw [h.opened]
  · change c.world.plan.live - handleCount c.poolSize = 0
    rw [h.handles, Nat.sub_self]

/-- A connection that is rebuilt is open in the end, unless a connect or a prepare was planned to
fail. -/
structure Rebuilt (site : FileSite) (s : Store) (c c' : Connection (Faulty World) Statement)
    (result : Except Error Unit) : Prop where
  relinked : site.Relinked s c.world c'.world
  poolSize_eq : c'.poolSize = c.poolSize
  outcome : (result = .ok () ∧ (∃ live, IsOpen site s c' live) ∧ c'.reconnects = c.reconnects + 1) ∨
    (∃ err, result = .error err) ∧ IsClosed site s c' ∧ c'.reconnects = c.reconnects ∧
      (c.world.plan.queues .connect ≠ [] ∨ c.world.plan.queues .prepare ≠ [])

theorem rebuilt_openNext (h : IsClosed site s c) :
    Rebuilt site s c (openNext site.driver c).2 (openNext site.driver c).1 := by
  rcases FileSite.build_cases c.poolSize (c.lastGeneration + 1) h.keeps.offers h.unlinked with
    ⟨live, w, events, hbuild, hrested, -, hw, hkeeps, hlinked, hopened, hlive⟩ |
    ⟨err, w, events, hbuild, hw, hlink, hopened, hlive, hqueue⟩
  · simp only [openNext, h.target_eq, hbuild]
    refine ⟨hw, rfl, .inl ⟨rfl, ⟨live, rfl, rfl, h.sized, hkeeps, hlinked, hrested, ?_, ?_⟩,
      rfl⟩⟩
    · exact hopened.trans (congrArg (· + 1) h.opened)
    · exact hlive.trans (by rw [h.handles, Nat.zero_add])
  · simp only [openNext, h.target_eq, hbuild]
    exact ⟨hw, rfl, .inr ⟨⟨err, rfl⟩, ⟨rfl, rfl, h.sized, hw.keeps h.keeps, hlink,
      hopened.trans h.opened, hlive.trans h.handles⟩, rfl, hqueue⟩⟩

theorem rebuilt_reconnectIfCurrent (h : IsOpen site s c live) :
    Rebuilt site s c (reconnectIfCurrent site.driver live.generation c).2
      (reconnectIfCurrent site.driver live.generation c).1 := by
  have hreconnect : reconnectIfCurrent site.driver live.generation c =
      openNext site.driver (disconnect site.driver c) := by
    simp only [reconnectIfCurrent, h.live_eq, if_true]
  obtain ⟨hclosed, hparted⟩ := isClosed_disconnect h
  have hrebuilt := rebuilt_openNext hclosed
  rw [hreconnect]
  refine ⟨hparted.trans hrebuilt.relinked, ?_, ?_⟩
  · rw [hrebuilt.poolSize_eq, disconnect_of_isOpen h]
  · have hcount : (disconnect site.driver c).reconnects = c.reconnects := by
      rw [disconnect_of_isOpen h]
    rcases hrebuilt.outcome with ⟨hok, hopen, hreconnects⟩ | ⟨herr, hclosed', hreconnects, hqueue⟩
    · exact .inl ⟨hok, hopen, by rw [hreconnects, hcount]⟩
    · exact .inr ⟨herr, hclosed', by rw [hreconnects, hcount],
        hqueue.imp hparted.ne_nil hparted.ne_nil⟩

theorem rebuilt_reconnectIfDisconnected (h : IsClosed site s c) :
    Rebuilt site s c (reconnectIfDisconnected site.driver c).2
      (reconnectIfDisconnected site.driver c).1 := by
  have hreconnect : reconnectIfDisconnected site.driver c = openNext site.driver c := by
    simp only [reconnectIfDisconnected, h.live_eq]
  rw [hreconnect]
  exact rebuilt_openNext h

theorem rebuilt_reconnect (h : Settled site s c) :
    Rebuilt site s c (reconnect site.driver c).2 (reconnect site.driver c).1 := by
  rcases h with ⟨live, hopen⟩ | hclosed
  · have hgeneration : (c.live.map (·.generation)).getD 0 = live.generation := by
      rw [hopen.live_eq]
      rfl
    rw [reconnect, hgeneration]
    exact rebuilt_reconnectIfCurrent hopen
  · have hreconnect : reconnect site.driver c = openNext site.driver c := by
      simp only [reconnect, reconnectIfCurrent, hclosed.live_eq]
    rw [hreconnect]
    exact rebuilt_openNext hclosed

theorem Rebuilt.settled {c' : Connection (Faulty World) Statement} {result : Except Error Unit}
    (h : Rebuilt site s c c' result) : Settled site s c' := by
  rcases h.outcome with ⟨-, hopen, -⟩ | ⟨-, hclosed, -, -⟩
  · exact .inl hopen
  · exact .inr hclosed

/-- The first connection to a store that the site offers is open on it, unless a connect or a
prepare was planned to fail. -/
theorem start_cases {w : Faulty World} {size : Nat} (hsize : 0 < size) (h : site.Offers w.world s)
    (hlink : w.world.link = none) (hopened : w.plan.opened = 0) (hlive : w.plan.live = 0) :
    (∃ live c, start site.driver site.text size w = (.ok (), c) ∧ IsOpen site s c live ∧
        site.Relinked s w c.world) ∨
      ∃ err c, start site.driver site.text size w = (.error err, c) ∧
        site.Relinked s w c.world ∧ c.world.world.link = none ∧ c.world.plan.opened = 0 ∧
        c.world.plan.live = 0 ∧
        (w.plan.queues .connect ≠ [] ∨ w.plan.queues .prepare ≠ []) := by
  have hzero : size ≠ 0 := Nat.ne_of_gt hsize
  rcases FileSite.build_cases size 1 h hlink with
    ⟨live, w', events, hbuild, hrested, -, hw, hkeeps, hlinked, hopened', hlive'⟩ |
    ⟨err, w', events, hbuild, hw, hlink', hopened', hlive', hqueue⟩
  · simp only [start, if_neg hzero, hbuild]
    refine .inl ⟨live, _, rfl, ⟨rfl, rfl, hsize, hkeeps, hlinked, hrested, ?_, ?_⟩, hw⟩
    · exact hopened'.trans (by rw [hopened])
    · exact hlive'.trans (by rw [hlive, Nat.zero_add])
  · simp only [start, if_neg hzero, hbuild]
    exact .inr ⟨err, _, rfl, hw, hlink', hopened'.trans hopened, hlive'.trans hlive, hqueue⟩

end Connection

end Provenance
