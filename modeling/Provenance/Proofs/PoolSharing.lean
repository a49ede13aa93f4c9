import Mathlib.Algebra.Ring.Nat
import Provenance.Pool

/-!
A pool that many callers share. Its permits and its slots have a lock each, so what a caller does
between two locks is a step of its own, and the steps of all callers interleave (`Sharing.Step`). No
handle is lost or doubled on the way, and the permits that are not free are those of the callers
(`Accounted`). So a handle that is given back finds a vacant slot, a caller with a permit finds a
handle unless the pool has been drained, and callers are kept waiting only while all permits are
held.
-/

set_option autoImplicit false
set_option relaxedAutoImplicit false

namespace Provenance.Pool

variable {V : Type}

/-! ### Handles that can be told apart -/

/-- A handle that stays known by its number, whatever is done to it. -/
structure Tracked (V : Type) where
  number : Nat
  value : V

/-- The handles that these values are made into. -/
def tracked (values : List V) : List (Tracked V) :=
  values.zipIdx.map fun entry ↦ ⟨entry.2, entry.1⟩

/-- What the holder of a handle has done to it. -/
structure Change (V : Type) where
  number : Nat
  apply : V → V

/-- A handle after a change, if it is the one that was changed. -/
def Change.on (change : Change V) (handle : Tracked V) : Tracked V :=
  if handle.number = change.number then ⟨handle.number, change.apply handle.value⟩ else handle

/-- A handle after all the changes that were made to it. -/
def replay (changes : List (Change V)) (handle : Tracked V) : Tracked V :=
  changes.foldl (fun handle change ↦ change.on handle) handle

section Changes

variable {change : Change V} {changes : List (Change V)} {handle : Tracked V}
  {handles : List (Tracked V)}

theorem length_tracked (values : List V) : (tracked values).length = values.length := by
  simp [tracked]

theorem nodup_tracked (values : List V) : ((tracked values).map (·.number)).Nodup := by
  have hnumbers : (tracked values).map (·.number) = List.range' 0 values.length := by
    rw [tracked, List.map_map, ← List.zipIdx_map_snd 0 values]
    rfl
  rw [hnumbers]
  exact List.nodup_range' 1

@[simp] theorem number_on (change : Change V) (handle : Tracked V) :
    (change.on handle).number = handle.number := by
  unfold Change.on
  split <;> rfl

theorem on_of_ne (h : handle.number ≠ change.number) : change.on handle = handle := if_neg h

theorem map_number_on (change : Change V) (handles : List (Tracked V)) :
    (handles.map change.on).map (·.number) = handles.map (·.number) := by
  rw [List.map_map]
  exact List.map_congr_left fun handle _ ↦ number_on change handle

@[simp] theorem number_replay (changes : List (Change V)) (handle : Tracked V) :
    (replay changes handle).number = handle.number := by
  induction changes generalizing handle with
  | nil => rfl
  | cons change rest ih => exact (ih (change.on handle)).trans (number_on change handle)

theorem map_number_replay (changes : List (Change V)) (handles : List (Tracked V)) :
    (handles.map (replay changes)).map (·.number) = handles.map (·.number) := by
  rw [List.map_map]
  exact List.map_congr_left fun handle _ ↦ number_replay changes handle

theorem map_replay_concat (changes : List (Change V)) (change : Change V)
    (handles : List (Tracked V)) :
    handles.map (replay (changes ++ [change])) = (handles.map (replay changes)).map change.on := by
  rw [List.map_map]
  refine List.map_congr_left fun handle _ ↦ ?_
  rw [replay, List.foldl_append]
  rfl

/-- A change leaves alone the handles of other numbers. -/
theorem map_on_of_notMem (h : change.number ∉ handles.map (·.number)) :
    handles.map change.on = handles := by
  have hsame : ∀ other ∈ handles, change.on other = id other := fun other hother ↦
    on_of_ne fun hnumber ↦ h (hnumber ▸ List.mem_map_of_mem hother)
  rw [List.map_congr_left hsame, List.map_id]

section Weights

variable {weight : V → Nat}

theorem sum_on (hraises : ∀ v, weight (change.apply v) = weight v + 1)
    (hnodup : (handles.map (·.number)).Nodup) (hnumber : change.number ∈ handles.map (·.number)) :
    ((handles.map change.on).map fun handle ↦ weight handle.value).sum =
      (handles.map fun handle ↦ weight handle.value).sum + 1 := by
  induction handles with
  | nil => cases hnumber
  | cons handle rest ih =>
    obtain ⟨hnotMem, hrest⟩ := List.nodup_cons.mp hnodup
    simp only [List.map_cons, List.sum_cons]
    by_cases hself : handle.number = change.number
    · rw [map_on_of_notMem (hself ▸ hnotMem), Change.on, if_pos hself, hraises]
      omega
    · have hrestNumber := (List.mem_cons.mp hnumber).resolve_left fun h ↦ hself h.symm
      rw [on_of_ne hself, ih hrest hrestNumber]
      omega

/-- Changes that raise a weight by one raise its sum by as many as there are. -/
theorem sum_replay (hraises : ∀ change ∈ changes, ∀ v, weight (change.apply v) = weight v + 1)
    (hnodup : (handles.map (·.number)).Nodup)
    (hnumbers : ∀ change ∈ changes, change.number ∈ handles.map (·.number)) :
    ((handles.map (replay changes)).map fun handle ↦ weight handle.value).sum =
      (handles.map fun handle ↦ weight handle.value).sum + changes.length := by
  induction changes generalizing handles with
  | nil =>
    rw [show handles.map (replay []) = handles from List.map_id _, List.length_nil, Nat.add_zero]
  | cons change rest ih =>
    have hmap : handles.map (replay (change :: rest)) =
        (handles.map change.on).map (replay rest) := by
      rw [List.map_map]
      rfl
    have hsame := map_number_on change handles
    have hfirst := sum_on (hraises change List.mem_cons_self) hnodup
      (hnumbers change List.mem_cons_self)
    rw [hmap, ih (fun other hother ↦ hraises other (List.mem_cons_of_mem _ hother))
      (hsame ▸ hnodup) fun other hother ↦ hsame ▸ hnumbers other (List.mem_cons_of_mem _ hother),
      hfirst, List.length_cons]
    omega

end Weights

end Changes

/-! ### Callers and their steps -/

/-- How far a caller has got. -/
inductive Caller (V : Type) where
  | idle
  /-- It is about to look for a permit. -/
  | waiting
  /-- It has found none and sleeps until it is woken. -/
  | asleep
  /-- It has a permit and no handle yet. -/
  | permitted
  /-- It has found no handle for its permit, which it is about to post again. -/
  | missed
  /-- It has been told so. -/
  | failed
  | holding (handle : Tracked V)
  /-- It has put its handle back and is about to post its permit. -/
  | returned

namespace Caller

/-- The caller has taken a permit that it has not posted again. -/
def hasPermit : Caller V → Bool
  | permitted | missed | holding _ | returned => true
  | _ => false

/-- The handle that a caller holds. -/
def held : Caller V → List (Tracked V)
  | holding handle => [handle]
  | _ => []

/-- The caller can take a permit as soon as there is one. -/
def isAwake : Caller V → Bool
  | waiting => true
  | _ => false

/-- What comes after a post. -/
def afterPost? : Caller V → Option (Caller V)
  | missed => some failed
  | returned => some idle
  | _ => none

end Caller

/-- A pool, its callers, the handles that have been drained from it and the changes that have been
made to handles. -/
structure Sharing (V : Type) where
  pool : Pool (Tracked V)
  callers : List (Caller V)
  drained : List (Tracked V)
  changes : List (Change V)

/-- A step of one caller, on the semaphore or on the slots. -/
inductive Turn (pool : Pool (Tracked V)) : Caller V → Pool (Tracked V) → Caller V → Prop
  | asks : Turn pool .idle pool .waiting
  | permits {semaphore : Semaphore} (h : pool.semaphore.take? = some semaphore) :
      Turn pool .waiting { pool with semaphore } .permitted
  | sleeps (h : pool.semaphore.take? = none) : Turn pool .waiting pool .asleep
  | wakes : Turn pool .asleep pool .waiting
  | tries {semaphore : Semaphore} (h : pool.semaphore.take? = some semaphore) :
      Turn pool .idle { pool with semaphore } .permitted
  | triesInVain (h : pool.semaphore.take? = none) : Turn pool .idle pool .idle
  | takes {handle : Tracked V} {slots : List (Option (Tracked V))}
      (h : takeFirst pool.slots = some (handle, slots)) :
      Turn pool .permitted { pool with slots } (.holding handle)
  | misses (h : takeFirst pool.slots = none) : Turn pool .permitted pool .missed
  | puts {handle : Tracked V} {slots : List (Option (Tracked V))}
      (h : putFirst handle pool.slots = some slots) :
      Turn pool (.holding handle) { pool with slots } .returned
  | asksAgain : Turn pool .failed pool .idle

/-- A sleeping caller is woken, if there is one. -/
inductive Woken : List (Caller V) → List (Caller V) → Prop
  | one (before after : List (Caller V)) :
      Woken (before ++ .asleep :: after) (before ++ .waiting :: after)
  | none {callers : List (Caller V)} (h : Caller.asleep ∉ callers) : Woken callers callers

namespace Sharing

/-- A step of any caller, or of whoever drains the pool. -/
inductive Step : Sharing V → Sharing V → Prop
  | turn {pool pool' : Pool (Tracked V)} {caller caller' : Caller V}
      (before after : List (Caller V)) (drained : List (Tracked V)) (changes : List (Change V))
      (h : Turn pool caller pool' caller') :
      Step ⟨pool, before ++ caller :: after, drained, changes⟩
        ⟨pool', before ++ caller' :: after, drained, changes⟩
  | changed (pool : Pool (Tracked V)) (before after : List (Caller V)) (drained : List (Tracked V))
      (changes : List (Change V)) (handle : Tracked V) (apply : V → V) :
      Step ⟨pool, before ++ .holding handle :: after, drained, changes⟩
        ⟨pool, before ++ .holding ⟨handle.number, apply handle.value⟩ :: after, drained,
          changes ++ [⟨handle.number, apply⟩]⟩
  | posts {caller caller' : Caller V} {callers : List (Caller V)} (pool : Pool (Tracked V))
      (before after : List (Caller V)) (drained : List (Tracked V)) (changes : List (Change V))
      (h : caller.afterPost? = some caller') (hwoken : Woken (before ++ caller' :: after) callers) :
      Step ⟨pool, before ++ caller :: after, drained, changes⟩
        ⟨{ pool with semaphore := pool.semaphore.post }, callers, drained, changes⟩
  /-- A pool without a vacant slot drops the handle and keeps its permits. -/
  | overflows (pool : Pool (Tracked V)) (before after : List (Caller V))
      (drained : List (Tracked V)) (changes : List (Change V)) (handle : Tracked V)
      (h : putFirst handle pool.slots = none) :
      Step ⟨pool, before ++ .holding handle :: after, drained, changes⟩
        ⟨pool, before ++ .idle :: after, drained, changes⟩
  | drains (pool : Pool (Tracked V)) (callers : List (Caller V)) (drained : List (Tracked V))
      (changes : List (Change V)) :
      Step ⟨pool, callers, drained, changes⟩
        ⟨pool.drain.2, callers, drained ++ pool.drain.1, changes⟩

/-- Steps lead from one state to another. -/
inductive Leads (start : Sharing V) : Sharing V → Prop
  | refl : Leads start start
  | step {s s' : Sharing V} (h : Leads start s) (hstep : s.Step s') : Leads start s'

/-- A pool of handles that nobody has asked for yet. -/
def start (name : String) (values : List V) (callers : Nat) : Sharing V :=
  ⟨.ofHandles name (tracked values), .replicate callers .idle, [], []⟩

/-- The handles that callers hold. -/
def held (s : Sharing V) : List (Tracked V) := s.callers.flatMap Caller.held

/-- The handles, wherever they are. -/
def handles (s : Sharing V) : List (Tracked V) := s.pool.handles ++ (s.held ++ s.drained)

/-- The number of callers that have a permit. -/
def permitted (s : Sharing V) : Nat := s.callers.countP Caller.hasPermit

/-- The number of callers that can take a permit as soon as there is one. -/
def awake (s : Sharing V) : Nat := s.callers.countP Caller.isAwake

/-- Somebody waits, awake or asleep, and there is no permit to take. -/
def Blocked (s : Sharing V) : Prop :=
  (.waiting ∈ s.callers ∨ .asleep ∈ s.callers) ∧ s.pool.semaphore.take? = none

end Sharing

/-! ### One step -/

section Turns

variable {pool pool' : Pool (Tracked V)} {caller caller' : Caller V}

theorem permits_of_take? {semaphore : Semaphore} (h : semaphore.take? = none) :
    semaphore.permits = 0 := by
  cases hpermits : semaphore.permits with
  | zero => rfl
  | succ left => simp [Semaphore.take?, hpermits] at h

theorem length_of_putFirst {H : Type} {slots slots' : List (Option H)} {handle : H}
    (h : putFirst handle slots = some slots') : slots'.length = slots.length := by
  induction slots generalizing slots' with
  | nil => cases h
  | cons slot rest ih =>
    cases slot with
    | none =>
      obtain rfl := Option.some.inj h
      rfl
    | some other =>
      obtain ⟨filled, hrest, rfl⟩ := Option.map_eq_some_iff.mp h
      rw [List.length_cons, List.length_cons, ih hrest]

theorem length_of_full {H : Type} {slots : List (Option H)} {handle : H}
    (h : putFirst handle slots = none) : (slots.filterMap id).length = slots.length := by
  induction slots with
  | nil => rfl
  | cons slot rest ih =>
    cases slot with
    | none => cases h
    | some other =>
      have hrest := ih (Option.map_eq_none_iff.mp h)
      exact congrArg (· + 1) hrest

/-- Nothing gets lost between a caller and the pool. -/
structure Turn.Balanced (pool pool' : Pool (Tracked V)) (caller caller' : Caller V) : Prop where
  size : pool'.size = pool.size
  permits : pool'.semaphore.permits + caller'.hasPermit.toNat =
    pool.semaphore.permits + caller.hasPermit.toNat
  handles : (pool'.handles ++ caller'.held).Perm (pool.handles ++ caller.held)

theorem Turn.balanced (h : Turn pool caller pool' caller') :
    Turn.Balanced pool pool' caller caller' := by
  cases h with
  | permits h | tries h =>
    rw [Semaphore.take?_eq_some_iff] at h
    exact ⟨rfl, by rw [h]; rfl, .refl _⟩
  | @takes handle slots h =>
    refine ⟨length_of_takeFirst h, rfl, ?_⟩
    change (slots.filterMap id ++ [handle]).Perm (pool.slots.filterMap id ++ [])
    rw [filterMap_of_takeFirst h, List.append_nil]
    exact List.perm_append_comm
  | @puts handle slots h =>
    refine ⟨length_of_putFirst h, rfl, ?_⟩
    change (slots.filterMap id ++ []).Perm (pool.slots.filterMap id ++ [handle])
    rw [List.append_nil]
    exact (filterMap_of_putFirst h).trans (List.perm_append_singleton handle _).symm
  | asks | sleeps | wakes | triesInVain | misses | asksAgain => exact ⟨rfl, rfl, .refl _⟩

/-- A caller falls asleep only if no permit is free. In any other step it leaves as many permits as
before to each caller that is awake. -/
theorem Turn.asleep_or (h : Turn pool caller pool' caller') :
    pool'.semaphore.permits = 0 ∨ caller' ≠ .asleep ∧
      pool'.semaphore.permits + caller.isAwake.toNat ≤
        pool.semaphore.permits + caller'.isAwake.toNat := by
  cases h with
  | sleeps h => exact .inl (permits_of_take? h)
  | permits h | tries h =>
    rw [Semaphore.take?_eq_some_iff] at h
    refine .inr ⟨by simp, ?_⟩
    rw [h]
    simp [Caller.isAwake, Semaphore.post]
  | asks | wakes | triesInVain | takes h | misses h | puts h | asksAgain =>
    exact .inr ⟨by simp, by simp [Caller.isAwake]⟩

/-- The caller that posts has a permit before, and not after. -/
theorem Caller.of_afterPost? (h : caller.afterPost? = some caller') :
    caller.hasPermit = true ∧ caller'.hasPermit = false ∧ caller'.held = caller.held ∧
      caller'.isAwake = caller.isAwake := by
  cases caller with
  | missed | returned =>
    obtain rfl := Option.some.inj h
    exact ⟨rfl, rfl, rfl, rfl⟩
  | _ => cases h

end Turns

/-! ### All steps -/

theorem countP_caller (test : Caller V → Bool) (before after : List (Caller V))
    (caller : Caller V) :
    (before ++ caller :: after).countP test =
      (before ++ after).countP test + (test caller).toNat := by
  rw [List.countP_append, List.countP_append, List.countP_cons, Nat.add_assoc]
  cases test caller <;> rfl

namespace Woken

variable {callers callers' : List (Caller V)} (h : Woken callers callers')

include h

theorem countP_hasPermit : callers'.countP Caller.hasPermit = callers.countP Caller.hasPermit := by
  cases h with
  | one before after => rw [countP_caller, countP_caller]; rfl
  | none => rfl

theorem flatMap_held : callers'.flatMap Caller.held = callers.flatMap Caller.held := by
  cases h with
  | one before after => rw [List.flatMap_append, List.flatMap_append]; rfl
  | none => rfl

theorem mem_of_ne {caller : Caller V} (hmem : caller ∈ callers') (hne : caller ≠ .waiting) :
    caller ∈ callers := by
  cases h with
  | one before after =>
    simp only [List.mem_append, List.mem_cons] at hmem ⊢
    exact hmem.imp_right fun hrest ↦ .inr (hrest.resolve_left hne)
  | none => exact hmem

/-- If somebody is still asleep, then somebody has been woken. -/
theorem countP_isAwake (hasleep : .asleep ∈ callers') :
    callers'.countP Caller.isAwake = callers.countP Caller.isAwake + 1 := by
  cases h with
  | one before after => rw [countP_caller, countP_caller]; rfl
  | none hnone => exact absurd hasleep hnone

end Woken

theorem length_held_le (callers : List (Caller V)) :
    (callers.flatMap Caller.held).length ≤ callers.countP Caller.hasPermit := by
  induction callers with
  | nil => exact Nat.le_refl 0
  | cons caller rest ih =>
    rw [List.flatMap_cons, List.length_append, List.countP_cons]
    have hcaller : caller.held.length ≤ if caller.hasPermit = true then 1 else 0 := by
      cases caller <;> simp [Caller.held, Caller.hasPermit]
    omega

namespace Sharing

variable {pool : Pool (Tracked V)} {before after : List (Caller V)} {caller : Caller V}
  {drained : List (Tracked V)} {changes : List (Change V)} {values : List V} {s s' : Sharing V}

/-- The handles of a pool and of one caller before those of the others. -/
theorem handles_perm :
    (handles ⟨pool, before ++ caller :: after, drained, changes⟩).Perm
      ((pool.handles ++ caller.held) ++ ((before ++ after).flatMap Caller.held ++ drained)) := by
  simp only [handles, held, List.flatMap_append, List.flatMap_cons, List.append_assoc]
  refine List.Perm.append_left _ ?_
  rw [← List.append_assoc, ← List.append_assoc caller.held]
  exact List.Perm.append_right _ List.perm_append_comm

/-- The handle of one caller before all others. -/
theorem handles_perm_of_holding {handle : Tracked V} :
    (handles ⟨pool, before ++ .holding handle :: after, drained, changes⟩).Perm
      (handle :: (pool.handles ++ ((before ++ after).flatMap Caller.held ++ drained))) := by
  refine handles_perm.trans ?_
  rw [List.append_assoc]
  exact List.perm_middle

theorem permitted_eq : permitted ⟨pool, before ++ caller :: after, drained, changes⟩ =
    (before ++ after).countP Caller.hasPermit + caller.hasPermit.toNat :=
  countP_caller _ _ _ _

theorem awake_eq : awake ⟨pool, before ++ caller :: after, drained, changes⟩ =
    (before ++ after).countP Caller.isAwake + caller.isAwake.toNat :=
  countP_caller _ _ _ _

/-- The other callers are those of before. -/
theorem mem_of_ne {caller' other : Caller V} (h : other ∈ before ++ caller' :: after)
    (hne : other ≠ caller') : other ∈ before ++ caller :: after := by
  simp only [List.mem_append, List.mem_cons] at h ⊢
  rcases h with hbefore | hself | hafter
  · exact .inl hbefore
  · exact absurd hself hne
  · exact .inr (.inr hafter)

/-! ### Callers that nobody interrupts -/

section Uninterrupted

variable {pool' : Pool (Tracked V)} {handle : Tracked V} {callers : List (Caller V)}

/-- A caller that takes a handle in one go does so step by step. -/
theorem leads_acquire (before after : List (Caller V)) (drained : List (Tracked V))
    (changes : List (Change V)) (h : pool.acquire = .taken handle pool') :
    Leads ⟨pool, before ++ .idle :: after, drained, changes⟩
      ⟨pool', before ++ .holding handle :: after, drained, changes⟩ := by
  unfold acquire at h
  split at h
  · cases h
  · rename_i semaphore hpermit
    split at h
    · rename_i taken slots htake
      obtain ⟨rfl, rfl⟩ := Grant.taken.inj h
      have htaken : Turn { pool with semaphore } .permitted _ (.holding taken) := .takes htake
      exact ((Leads.refl.step (.turn before after drained changes .asks)).step
        (.turn before after drained changes (.permits hpermit))).step
          (.turn before after drained changes htaken)
    · cases h

/-- A caller that is refused one in one go has posted its permit again. -/
theorem leads_acquire_refused (h : pool.acquire = .refused pool')
    (hwoken : Woken (before ++ .failed :: after) callers) :
    Leads ⟨pool, before ++ .idle :: after, drained, changes⟩
      ⟨pool', callers, drained, changes⟩ := by
  unfold acquire at h
  split at h
  · cases h
  · rename_i semaphore hpermit
    split at h
    · cases h
    · rename_i hmiss
      obtain rfl := Grant.refused.inj h
      have hmissed : Turn { pool with semaphore } .permitted _ .missed := .misses hmiss
      have hpost : (Caller.missed : Caller V).afterPost? = some .failed := rfl
      exact (((Leads.refl.step (.turn before after drained changes .asks)).step
        (.turn before after drained changes (.permits hpermit))).step
          (.turn before after drained changes hmissed)).step
            (.posts _ before after drained changes hpost hwoken)

/-- A caller that gives its handle back in one go does so step by step. -/
theorem leads_release (hvacant : ∃ slots, putFirst handle pool.slots = some slots)
    (hwoken : Woken (before ++ .idle :: after) callers) :
    Leads ⟨pool, before ++ .holding handle :: after, drained, changes⟩
      ⟨pool.release handle, callers, drained, changes⟩ := by
  obtain ⟨slots, hput⟩ := hvacant
  have hpost : (Caller.returned : Caller V).afterPost? = some .idle := rfl
  simp only [release, hput]
  exact (Leads.refl.step (.turn before after drained changes (.puts hput))).step
    (.posts _ before after drained changes hpost hwoken)

end Uninterrupted

/-- The handles and the permits are all accounted for. -/
structure Accounted (values : List V) (s : Sharing V) : Prop where
  size : s.pool.size = values.length
  permits : s.pool.semaphore.permits + s.permitted = values.length
  handles : s.handles.Perm ((tracked values).map (replay s.changes))
  numbers : ∀ change ∈ s.changes, change.number ∈ (tracked values).map (·.number)
  awake : .asleep ∈ s.callers → s.pool.semaphore.permits ≤ s.awake
  failed : .missed ∈ s.callers ∨ .failed ∈ s.callers → s.drained ≠ []

namespace Accounted

theorem start (name : String) (values : List V) (callers : Nat) :
    (start name values callers).Accounted values := by
  have hidle : ∀ caller ∈ (Sharing.start name values callers).callers, caller = .idle :=
    fun caller hcaller ↦ List.eq_of_mem_replicate hcaller
  have hpermitted : (Sharing.start name values callers).permitted = 0 := by
    refine List.countP_eq_zero.mpr fun caller hcaller ↦ ?_
    rw [hidle caller hcaller]
    exact Bool.false_ne_true
  have hheld : (Sharing.start name values callers).held = [] := by
    refine List.flatMap_eq_nil_iff.mpr fun caller hcaller ↦ ?_
    rw [hidle caller hcaller]
    rfl
  constructor
  · exact (size_ofHandles name _).trans (length_tracked values)
  · rw [hpermitted]
    exact length_tracked values
  · rw [Sharing.handles, hheld]
    change ((ofHandles name (tracked values)).handles ++ ([] ++ [])).Perm
      ((tracked values).map (replay []))
    rw [handles_ofHandles, List.append_nil, List.append_nil,
      show (tracked values).map (replay []) = tracked values from List.map_id _]
  · exact fun change hchange ↦ absurd hchange List.not_mem_nil
  · intro hasleep
    cases hidle _ hasleep
  · rintro (hmissed | hfailed)
    · cases hidle _ hmissed
    · cases hidle _ hfailed

theorem length_handles (h : s.Accounted values) :
    s.pool.handles.length + (s.held.length + s.drained.length) = values.length := by
  have hlength := h.handles.length_eq
  rw [Sharing.handles, List.length_append, List.length_append, List.length_map,
    length_tracked] at hlength
  exact hlength

/-- A handle that is given back finds a vacant slot. -/
theorem vacant (h : s.Accounted values) {handle : Tracked V}
    (hholds : .holding handle ∈ s.callers) :
    ∃ slots, putFirst handle s.pool.slots = some slots := by
  cases hput : putFirst handle s.pool.slots with
  | some slots => exact ⟨slots, rfl⟩
  | none =>
    have hfull : s.pool.handles.length = s.pool.size := length_of_full hput
    have hheld : 0 < s.held.length :=
      List.length_pos_of_mem (List.mem_flatMap.mpr ⟨_, hholds, List.mem_singleton_self handle⟩)
    have hlength := h.length_handles
    rw [hfull, h.size] at hlength
    omega

/-- A caller with a permit finds a handle, unless some have been drained. -/
theorem drained_of_missed (h : s.Accounted values) (hpermitted : .permitted ∈ s.callers)
    (htake : takeFirst s.pool.slots = none) : s.drained ≠ [] := by
  obtain ⟨before, after, hcallers⟩ := List.append_of_mem hpermitted
  have hempty : s.pool.handles = [] := takeFirst_eq_none_iff.mp htake
  have hheld : s.held.length < s.permitted := by
    have hothers := length_held_le (before ++ after)
    rw [List.flatMap_append, List.length_append] at hothers
    rw [held, permitted, hcallers, countP_caller, List.flatMap_append, List.flatMap_cons,
      List.length_append, List.length_append]
    change _ + (0 + _) < _ + 1
    omega
  have hlength := h.length_handles
  have hpermits := h.permits
  intro hdrained
  rw [hempty, hdrained, List.length_nil] at hlength
  omega

theorem turn {pool' : Pool (Tracked V)} {caller' : Caller V}
    (h : Accounted values ⟨pool, before ++ caller :: after, drained, changes⟩)
    (hturn : Turn pool caller pool' caller') :
    Accounted values ⟨pool', before ++ caller' :: after, drained, changes⟩ := by
  have hbalanced := hturn.balanced
  constructor
  · exact hbalanced.size.trans h.size
  · have hpermits := h.permits
    have hturned := hbalanced.permits
    rw [permitted_eq] at hpermits ⊢
    dsimp only at hpermits ⊢
    omega
  · have hothers :=
      hbalanced.handles.append_right ((before ++ after).flatMap Caller.held ++ drained)
    exact handles_perm.trans (hothers.trans (handles_perm.symm.trans h.handles))
  · exact h.numbers
  · intro hasleep
    rcases hturn.asleep_or with hnone | ⟨hne, hturned⟩
    · change pool'.semaphore.permits ≤ _
      rw [hnone]
      exact Nat.zero_le _
    · have hawake := h.awake (mem_of_ne hasleep hne.symm)
      rw [awake_eq] at hawake ⊢
      dsimp only at hawake ⊢
      omega
  · intro hfailed
    by_cases hmissed : caller' = .missed
    · subst hmissed
      cases hturn with
      | misses htake =>
        exact h.drained_of_missed (List.mem_append_right before List.mem_cons_self) htake
    · have hne : caller' ≠ .failed := by
        rintro rfl
        cases hturn
      exact h.failed (hfailed.imp (mem_of_ne · (Ne.symm hmissed)) (mem_of_ne · hne.symm))

theorem nodup_numbers (h : s.Accounted values) : (s.handles.map (·.number)).Nodup := by
  rw [(h.handles.map _).nodup_iff, map_number_replay]
  exact nodup_tracked values

theorem changed (handle : Tracked V) (apply : V → V)
    (h : Accounted values ⟨pool, before ++ .holding handle :: after, drained, changes⟩) :
    Accounted values
      ⟨pool, before ++ .holding ⟨handle.number, apply handle.value⟩ :: after, drained,
        changes ++ [⟨handle.number, apply⟩]⟩ := by
  let change : Change V := ⟨handle.number, apply⟩
  let others := pool.handles ++ ((before ++ after).flatMap Caller.held ++ drained)
  have hholding : (handle :: others).Perm ((tracked values).map (replay changes)) :=
    handles_perm_of_holding.symm.trans h.handles
  constructor
  · exact h.size
  · have hpermits := h.permits
    rw [permitted_eq] at hpermits ⊢
    exact hpermits
  · -- No other handle has the number of the one that is changed.
    have hnumbers := ((handles_perm_of_holding.map (·.number)).nodup_iff).mp h.nodup_numbers
    have hothers : others.map change.on = others :=
      map_on_of_notMem (List.nodup_cons.mp hnumbers).1
    have hself : change.on handle = ⟨handle.number, apply handle.value⟩ := if_pos rfl
    have hmap := hholding.map change.on
    rw [← map_replay_concat, List.map_cons, hself, hothers] at hmap
    exact handles_perm_of_holding.trans hmap
  · intro other hother
    rcases List.mem_append.mp hother with hbefore | hlast
    · exact h.numbers other hbefore
    · rw [List.mem_singleton.mp hlast, ← map_number_replay changes]
      exact (hholding.map (·.number)).subset List.mem_cons_self
  · intro hasleep
    have hawake := h.awake (mem_of_ne hasleep nofun)
    rw [awake_eq] at hawake ⊢
    exact hawake
  · rintro (hmissed | hfailed)
    · exact h.failed (.inl (mem_of_ne hmissed nofun))
    · exact h.failed (.inr (mem_of_ne hfailed nofun))

theorem posts {caller' : Caller V} {callers : List (Caller V)}
    (h : Accounted values ⟨pool, before ++ caller :: after, drained, changes⟩)
    (hpost : caller.afterPost? = some caller')
    (hwoken : Woken (before ++ caller' :: after) callers) :
    Accounted values
      ⟨{ pool with semaphore := pool.semaphore.post }, callers, drained, changes⟩ := by
  obtain ⟨hpermit, hpermit', hheld, hawake⟩ := caller.of_afterPost? hpost
  constructor
  · exact h.size
  · have hpermits := h.permits
    rw [permitted_eq, hpermit] at hpermits
    change pool.semaphore.permits + 1 + callers.countP Caller.hasPermit = _
    rw [hwoken.countP_hasPermit, countP_caller, hpermit']
    dsimp only [Bool.toNat_true, Bool.toNat_false] at hpermits ⊢
    omega
  · refine List.Perm.trans ?_ h.handles
    change (pool.handles ++ (callers.flatMap Caller.held ++ drained)).Perm _
    rw [hwoken.flatMap_held, List.flatMap_append, List.flatMap_cons, hheld, ← List.flatMap_cons,
      ← List.flatMap_append]
    exact .refl _
  · exact h.numbers
  · intro hasleep
    have hbefore := h.awake (mem_of_ne (hwoken.mem_of_ne hasleep nofun) ?_)
    · rw [awake_eq] at hbefore
      change pool.semaphore.permits + 1 ≤ callers.countP Caller.isAwake
      rw [hwoken.countP_isAwake hasleep, countP_caller, hawake]
      exact Nat.succ_le_succ hbefore
    · rintro rfl
      cases caller <;> cases hpost
  · intro hfailed
    cases caller with
    | missed => exact h.failed (.inl (List.mem_append_right before List.mem_cons_self))
    | returned =>
      obtain rfl := Option.some.inj hpost
      rcases hfailed with hmissed | hfailed
      · exact h.failed (.inl (mem_of_ne (hwoken.mem_of_ne hmissed nofun) nofun))
      · exact h.failed (.inr (mem_of_ne (hwoken.mem_of_ne hfailed nofun) nofun))
    | _ => cases hpost

theorem drains {callers : List (Caller V)}
    (h : Accounted values ⟨pool, callers, drained, changes⟩) :
    Accounted values ⟨pool.drain.2, callers, drained ++ pool.drain.1, changes⟩ := by
  constructor
  · exact (List.length_map _).trans h.size
  · exact h.permits
  · refine List.Perm.trans ?_ h.handles
    change (pool.drain.2.handles ++ (_ ++ (drained ++ pool.handles))).Perm
      (pool.handles ++ (_ ++ drained))
    rw [handles_drain, List.nil_append, ← List.append_assoc]
    exact List.perm_append_comm
  · exact h.numbers
  · exact h.awake
  · intro hfailed hnone
    exact h.failed hfailed (List.append_eq_nil_iff.mp hnone).1

theorem step (h : s.Accounted values) (hstep : s.Step s') : s'.Accounted values := by
  cases hstep with
  | turn before after drained changes hturn => exact h.turn hturn
  | changed pool before after drained changes handle apply => exact h.changed handle apply
  | posts pool before after drained changes hpost hwoken => exact h.posts hpost hwoken
  | overflows pool before after drained changes handle hfull =>
    obtain ⟨slots, hvacant⟩ := h.vacant (List.mem_append_right before List.mem_cons_self)
    cases hvacant.symm.trans hfull
  | drains pool callers drained changes => exact h.drains

theorem leads (h : s.Accounted values) (hleads : s.Leads s') : s'.Accounted values := by
  induction hleads with
  | refl => exact h
  | step _ hstep ih => exact ih.step hstep

/-- Nobody is blocked unless all permits are held. -/
theorem permitted_of_blocked (h : s.Accounted values) (hblocked : s.Blocked) :
    s.permitted = values.length := by
  have hnone := permits_of_take? hblocked.2
  have hpermits := h.permits
  omega

/-- Nobody sleeps unless every permit is held or has a caller awake to take it. -/
theorem le_permitted_add_awake (h : s.Accounted values) (hasleep : .asleep ∈ s.callers) :
    values.length ≤ s.permitted + s.awake := by
  have hawake := h.awake hasleep
  have hpermits := h.permits
  omega

theorem sum_handles (h : s.Accounted values) {weight : V → Nat}
    (hraises : ∀ change ∈ s.changes, ∀ v, weight (change.apply v) = weight v + 1) :
    (s.handles.map fun handle ↦ weight handle.value).sum =
      (values.map weight).sum + s.changes.length := by
  have hvalues : (tracked values).map (fun handle ↦ weight handle.value) = values.map weight := by
    rw [tracked, List.map_map, ← List.zipIdx_map_fst 0 values, List.map_map, List.zipIdx_map_fst]
    rfl
  rw [(h.handles.map _).sum_nat, sum_replay hraises (nodup_tracked values) h.numbers, hvalues]

end Accounted

/-- Whatever callers do with a pool, in whatever order their steps come and whenever it is drained:
every handle is in one place, as its holders have left it; the permits that are not free are those
of the callers; a handle that is given back finds a vacant slot; a caller fails to get one for its
permit only if some have been drained; nobody is blocked unless all permits are held by others; and
nobody sleeps through a post, so that every permit is held or has a caller awake to take it. -/
theorem accounted_of_leads {name : String} {callers : Nat}
    (h : (start name values callers).Leads s) :
    s.handles.Perm ((tracked values).map (replay s.changes)) ∧
      (s.handles.map (·.number)).Nodup ∧
      (∀ weight : V → Nat,
        (∀ change ∈ s.changes, ∀ v, weight (change.apply v) = weight v + 1) →
        (s.handles.map fun handle ↦ weight handle.value).sum =
          (values.map weight).sum + s.changes.length) ∧
      s.pool.semaphore.permits + s.permitted = values.length ∧
      (∀ handle, .holding handle ∈ s.callers →
        ∃ slots, putFirst handle s.pool.slots = some slots) ∧
      (.missed ∈ s.callers ∨ .failed ∈ s.callers → s.drained ≠ []) ∧
      (s.Blocked → s.permitted = values.length) ∧
      (.asleep ∈ s.callers → values.length ≤ s.permitted + s.awake) := by
  have haccounted : s.Accounted values := (Accounted.start name values callers).leads h
  exact ⟨haccounted.handles, haccounted.nodup_numbers, fun weight ↦ haccounted.sum_handles,
    haccounted.permits, fun handle ↦ haccounted.vacant, haccounted.failed,
    haccounted.permitted_of_blocked, haccounted.le_permitted_add_awake⟩

/-- One of two callers has the only handle and has added one to it; the other one sleeps. -/
def oneWaits : Sharing Nat :=
  ⟨⟨"pool", [none], ⟨0⟩⟩, [.holding ⟨0, 8⟩, .asleep], [], [⟨0, (· + 1)⟩]⟩

theorem leads_oneWaits : (start "pool" [7] 2).Leads oneWaits := by
  have hacquired : (start "pool" [7] 2).Leads
      ⟨⟨"pool", [none], ⟨0⟩⟩, [.holding ⟨0, 7⟩, .idle], [], []⟩ :=
    leads_acquire [] [.idle] [] [] rfl
  have hchanged := hacquired.step (.changed _ [] [.idle] [] [] ⟨0, 7⟩ (· + 1))
  have hasks := hchanged.step (.turn [.holding ⟨0, 8⟩] [] [] [⟨0, (· + 1)⟩] .asks)
  exact hasks.step (.turn [.holding ⟨0, 8⟩] [] [] _ (.sleeps rfl))

/-- The one that sleeps is blocked because the other one has the permit, and what that one has added
is in the sum. -/
theorem oneWaits_accounted :
    oneWaits.Blocked ∧ oneWaits.permitted = 1 ∧
      (oneWaits.handles.map (·.value)).sum = 7 + 1 ∧
      ∃ slots, putFirst ⟨0, 8⟩ oneWaits.pool.slots = some slots := by
  have hblocked : oneWaits.Blocked := ⟨.inr (List.mem_cons_of_mem _ List.mem_cons_self), rfl⟩
  obtain ⟨-, -, hsum, -, hvacant, -, hheld, -⟩ := accounted_of_leads leads_oneWaits
  refine ⟨hblocked, hheld hblocked, ?_, hvacant _ List.mem_cons_self⟩
  refine hsum id fun change hchange v ↦ ?_
  obtain rfl := List.mem_singleton.mp hchange
  rfl

end Sharing

end Provenance.Pool
