import Provenance.Driver

/-!
A driver with planned failures. Failures queued for a kind of call are returned, one per call,
before the inner driver is reached; the plan also counts connections and handles that are alive.
-/

set_option autoImplicit false
set_option relaxedAutoImplicit false

namespace Provenance

/-- A kind of driver call that a planned failure replaces. -/
inductive FaultPoint where
  | connect
  | prepare
  | bind
  | execute
  | fetch
deriving DecidableEq, Repr

structure FaultPlan where
  queues : FaultPoint → List DriverError
  /-- Connections opened so far. -/
  connects : Nat
  /-- Connections that are open. -/
  opened : Nat
  /-- Handles prepared and not yet given up. -/
  live : Nat
  /-- Failures handed out so far. -/
  injected : Nat

namespace FaultPlan

def empty : FaultPlan := ⟨fun _ ↦ [], 0, 0, 0, 0⟩

/-- The one failure after which a statement is tried again. -/
def linkFailure : DriverError := .single linkFailureState 0 "injected link failure"

def pending (plan : FaultPlan) (point : FaultPoint) : Nat := (plan.queues point).length

/-- Replaces the queue of one kind of call. -/
def setQueue (plan : FaultPlan) (point : FaultPoint) (queue : List DriverError) : FaultPlan :=
  { plan with queues := fun other ↦ if other = point then queue else plan.queues other }

/-- Lets the next `count` calls of a kind fail after those already planned. -/
def failNext (plan : FaultPlan) (point : FaultPoint) (count : Nat) (err : DriverError) :
    FaultPlan :=
  plan.setQueue point (plan.queues point ++ List.replicate count err)

/-- Forgets every planned failure. -/
def clear (plan : FaultPlan) : FaultPlan := { plan with queues := fun _ ↦ [] }

/-- The failure planned for a call, if there is one, and the plan after the call. -/
def take (plan : FaultPlan) (point : FaultPoint) : Option DriverError × FaultPlan :=
  match plan.queues point with
  | [] => (none, plan)
  | err :: rest => (some err, { plan.setQueue point rest with injected := plan.injected + 1 })

@[simp] theorem queues_setQueue (plan : FaultPlan) (point other : FaultPoint)
    (queue : List DriverError) :
    (plan.setQueue point queue).queues other =
      if other = point then queue else plan.queues other := rfl

@[simp] theorem pending_clear (plan : FaultPlan) (point : FaultPoint) :
    plan.clear.pending point = 0 := rfl

end FaultPlan

/-- A world and the plan of the failures in it. -/
structure Faulty (W : Type) where
  plan : FaultPlan
  world : W

namespace Faulty

variable {W H α : Type}

/-- A call that acts on no handle, unless a failure is planned for it. -/
def guarded (point : FaultPoint) (call : W → Except DriverError α × W) (w : Faulty W) :
    Except DriverError α × Faulty W :=
  match w.plan.take point with
  | (some err, plan) => (.error err, { w with plan })
  | (none, plan) =>
    let (result, world) := call w.world
    (result, ⟨plan, world⟩)

/-- A call that acts on a handle, unless a failure is planned for it. -/
def guardedOn (point : FaultPoint) (call : H → W → Except DriverError α × H × W) (handle : H)
    (w : Faulty W) : Except DriverError α × H × Faulty W :=
  match w.plan.take point with
  | (some err, plan) => (.error err, handle, { w with plan })
  | (none, plan) =>
    let (result, handle, world) := call handle w.world
    (result, handle, ⟨plan, world⟩)

def count (change : FaultPlan → FaultPlan) (outcome : Except DriverError α × Faulty W) :
    Except DriverError α × Faulty W :=
  match outcome with
  | (.ok a, w) => (.ok a, { w with plan := change w.plan })
  | (.error err, w) => (.error err, w)

/-- The driver with the failures of a plan. -/
def driver (inner : Driver W H) : Driver (Faulty W) H where
  name := inner.name
  connect target w :=
    count (fun plan ↦ { plan with connects := plan.connects + 1, opened := plan.opened + 1 })
      (guarded .connect (inner.connect target) w)
  prepare query w :=
    count (fun plan ↦ { plan with live := plan.live + 1 })
      (guarded .prepare (inner.prepare query) w)
  discard handle w :=
    ⟨{ w.plan with live := w.plan.live - 1 }, inner.discard handle w.world⟩
  disconnect w :=
    let (result, world) := inner.disconnect w.world
    (result, ⟨{ w.plan with opened := w.plan.opened - 1 }, world⟩)
  bind params := guardedOn .bind (inner.bind params)
  execute := guardedOn .execute inner.execute
  fetch := guardedOn .fetch inner.fetch
  column index handle w :=
    let (result, handle, world) := inner.column index handle w.world
    (result, handle, ⟨w.plan, world⟩)
  close handle w :=
    let (result, handle, world) := inner.close handle w.world
    (result, handle, ⟨w.plan, world⟩)
  rowsLeft := inner.rowsLeft

end Faulty

end Provenance
