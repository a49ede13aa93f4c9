import Provenance.Text.Quoted

/-!
A pool holds a fixed number of interchangeable handles in slots. A counting semaphore bounds how
many callers hold one at a time: a caller takes a permit, then the handle of the first occupied
slot; to give it back it fills the first vacant slot, then posts the permit.
-/

set_option autoImplicit false
set_option relaxedAutoImplicit false

namespace Provenance

/-- Permits that callers take and post. A caller that finds none waits. -/
structure Semaphore where
  permits : Nat
deriving DecidableEq, Repr

namespace Semaphore

/-- One permit less, if there is one. -/
def take? (s : Semaphore) : Option Semaphore :=
  match s.permits with
  | 0 => none
  | permits + 1 => some ⟨permits⟩

def post (s : Semaphore) : Semaphore := ⟨s.permits + 1⟩

theorem take?_eq_some_iff {s t : Semaphore} : s.take? = some t ↔ s = t.post := by
  obtain ⟨permits⟩ := s
  obtain ⟨left⟩ := t
  cases permits <;> simp [take?, post]

end Semaphore

structure Pool (H : Type) where
  name : String
  slots : List (Option H)
  semaphore : Semaphore
deriving Repr

namespace Pool

variable {H : Type}

/-- A pool whose size is the number of handles. -/
def ofHandles (name : String) (handles : List H) : Pool H :=
  ⟨name, handles.map some, ⟨handles.length⟩⟩

def size (pool : Pool H) : Nat := pool.slots.length

/-- The handles in the pool, in slot order. -/
def handles (pool : Pool H) : List H := pool.slots.filterMap id

def available (pool : Pool H) : Nat := pool.handles.length

/-- The handle of the first occupied slot, and the slots without it. -/
def takeFirst : List (Option H) → Option (H × List (Option H))
  | [] => none
  | some handle :: rest => some (handle, none :: rest)
  | none :: rest => (takeFirst rest).map fun (handle, rest) ↦ (handle, none :: rest)

/-- The slots with a handle in the first vacant one, if there is one. -/
def putFirst (handle : H) : List (Option H) → Option (List (Option H))
  | [] => none
  | none :: rest => some (some handle :: rest)
  | some other :: rest => (putFirst handle rest).map (some other :: ·)

/-- What a caller that asks for a handle gets. -/
inductive Grant (H : Type) where
  /-- No permit is free. -/
  | blocked
  | taken (handle : H) (pool : Pool H)
  /-- A permit was free but no slot was occupied; the permit has been posted again. -/
  | refused (pool : Pool H)

def acquire (pool : Pool H) : Grant H :=
  match pool.semaphore.take? with
  | none => .blocked
  | some semaphore =>
    match takeFirst pool.slots with
    | some (handle, slots) => .taken handle { pool with slots, semaphore }
    | none => .refused { pool with semaphore := semaphore.post }

/-- A pool without a vacant slot keeps its permits and drops the handle. -/
def release (pool : Pool H) (handle : H) : Pool H :=
  match putFirst handle pool.slots with
  | some slots => { pool with slots, semaphore := pool.semaphore.post }
  | none => pool

/-- The handles in the pool, and the pool with every slot vacant. The permits stay. -/
def drain (pool : Pool H) : List H × Pool H :=
  (pool.handles, { pool with slots := pool.slots.map fun _ ↦ none })

/-! ## The handles in a pool -/

@[simp] theorem handles_ofHandles (name : String) (handles : List H) :
    (ofHandles name handles).handles = handles := by
  simp [ofHandles, Pool.handles, List.filterMap_map]

@[simp] theorem size_ofHandles (name : String) (handles : List H) :
    (ofHandles name handles).size = handles.length := by
  simp [ofHandles, size]

theorem takeFirst_eq_none_iff {slots : List (Option H)} :
    takeFirst slots = none ↔ slots.filterMap id = [] := by
  induction slots with
  | nil => simp [takeFirst]
  | cons slot rest ih => cases slot <;> simp_all [takeFirst]

theorem filterMap_of_takeFirst {slots slots' : List (Option H)} {handle : H}
    (h : takeFirst slots = some (handle, slots')) :
    slots.filterMap id = handle :: slots'.filterMap id := by
  induction slots generalizing slots' with
  | nil => simp [takeFirst] at h
  | cons slot rest ih =>
    cases slot with
    | some other =>
      simp only [takeFirst, Option.some.injEq, Prod.mk.injEq] at h
      obtain ⟨rfl, rfl⟩ := h
      simp
    | none =>
      simp only [takeFirst, Option.map_eq_some_iff, Prod.mk.injEq, Prod.exists] at h
      obtain ⟨_, left, hrest, rfl, rfl⟩ := h
      simpa using ih hrest

theorem length_of_takeFirst {slots slots' : List (Option H)} {handle : H}
    (h : takeFirst slots = some (handle, slots')) : slots'.length = slots.length := by
  induction slots generalizing slots' with
  | nil => simp [takeFirst] at h
  | cons slot rest ih =>
    cases slot with
    | some other =>
      simp only [takeFirst, Option.some.injEq, Prod.mk.injEq] at h
      obtain ⟨rfl, rfl⟩ := h
      simp
    | none =>
      simp only [takeFirst, Option.map_eq_some_iff, Prod.mk.injEq, Prod.exists] at h
      obtain ⟨_, left, hrest, rfl, rfl⟩ := h
      simp [ih hrest]

theorem filterMap_of_putFirst {slots slots' : List (Option H)} {handle : H}
    (h : putFirst handle slots = some slots') :
    (slots'.filterMap id).Perm (handle :: slots.filterMap id) := by
  induction slots generalizing slots' with
  | nil => simp [putFirst] at h
  | cons slot rest ih =>
    cases slot with
    | none =>
      simp only [putFirst, Option.some.injEq] at h
      subst h
      simp
    | some other =>
      simp only [putFirst, Option.map_eq_some_iff] at h
      obtain ⟨filled, hrest, rfl⟩ := h
      have hperm := (ih hrest).cons other
      simpa using hperm.trans (List.Perm.swap handle other _)

theorem handles_drain (pool : Pool H) : pool.drain.2.handles = [] := by
  simp [drain, handles]

def debug (pool : Pool H) : String :=
  "StatementPool \x7b name: " ++ Text.quoted pool.name ++ ", size: " ++ toString pool.size ++
    ", available: " ++ toString pool.available ++ " \x7d"

end Pool

/-- One pool per key, in the order in which the keys came. -/
structure Pools (K H : Type) where
  entries : List (K × Pool H)

namespace Pools

variable {K H : Type} [DecidableEq K]

def empty : Pools K H := ⟨[]⟩

def size (pools : Pools K H) : Nat := pools.entries.length

def get? (pools : Pools K H) (key : K) : Option (Pool H) :=
  (pools.entries.find? fun entry ↦ entry.1 == key).map (·.2)

/-- The entries with a pool under a key, in place of the one that was there. -/
def put (key : K) (pool : Pool H) : List (K × Pool H) → List (K × Pool H)
  | [] => [(key, pool)]
  | entry :: rest => if entry.1 = key then (key, pool) :: rest else entry :: put key pool rest

/-- Puts a pool under a key, in place of the one that was there. -/
def insert (pools : Pools K H) (key : K) (pool : Pool H) : Pools K H :=
  ⟨put key pool pools.entries⟩

theorem get?_cons (entry : K × Pool H) (rest : List (K × Pool H)) (key : K) :
    get? ⟨entry :: rest⟩ key = if entry.1 = key then some entry.2 else get? ⟨rest⟩ key := by
  by_cases h : entry.1 = key <;> simp [get?, h]

theorem get?_insert (pools : Pools K H) (key other : K) (pool : Pool H) :
    (pools.insert key pool).get? other = if key = other then some pool else pools.get? other := by
  obtain ⟨entries⟩ := pools
  unfold insert
  induction entries with
  | nil => rw [put, get?_cons]
  | cons entry rest ih =>
    unfold put
    by_cases hkey : entry.1 = key
    · rw [if_pos hkey, get?_cons, get?_cons, hkey]
      by_cases h : key = other <;> simp [h]
    · rw [if_neg hkey, get?_cons, get?_cons, ih]
      by_cases h : entry.1 = other
      · have hne : ¬key = other := fun hk ↦ hkey (h.trans hk.symm)
        simp [h, hne]
      · simp [h]

/-- Every handle that is in a pool. -/
def handles (pools : Pools K H) : List H := pools.entries.flatMap fun entry ↦ entry.2.handles

/-- Every handle that is in a pool, and no pools. -/
def drainAll (pools : Pools K H) : List H × Pools K H := (pools.handles, ⟨[]⟩)

end Pools

end Provenance
