import Provenance.Driver.Faulty
import Provenance.Event

/-!
Calls under a plan of failures. A call for which a failure is planned returns it and leaves the
inner world alone; one for which none is planned is the call of the inner driver. `FaultPlan.after`
is the plan that a call leaves, and `FaultPlan.due` the failure that the next pass over a statement
runs into: binding comes before executing.
-/

set_option autoImplicit false
set_option relaxedAutoImplicit false

namespace Provenance

namespace FaultPlan

/-- The plan after a call of a kind. -/
def after (plan : FaultPlan) (point : FaultPoint) : FaultPlan := (plan.take point).2

@[simp] theorem queues_after (plan : FaultPlan) (point other : FaultPoint) :
    (plan.after point).queues other =
      if other = point then (plan.queues point).tail else plan.queues other := by
  unfold after take
  cases h : plan.queues point with
  | nil =>
    by_cases hother : other = point
    · simp [hother, h]
    · simp [hother]
  | cons err rest => rfl

@[simp] theorem opened_after (plan : FaultPlan) (point : FaultPoint) :
    (plan.after point).opened = plan.opened := by
  unfold after take
  cases plan.queues point <;> rfl

@[simp] theorem live_after (plan : FaultPlan) (point : FaultPoint) :
    (plan.after point).live = plan.live := by
  unfold after take
  cases plan.queues point <;> rfl

/-- Where the calls of a step take their failures from. -/
def pointOf : Step → FaultPoint
  | .bind => .bind
  | .execute => .execute

/-- The failure that the next pass over a statement runs into, and at which step. -/
def due (plan : FaultPlan) : Option (Step × DriverError) :=
  match plan.queues .bind with
  | err :: _ => some (.bind, err)
  | [] => (plan.queues .execute).head?.map fun err ↦ (.execute, err)

theorem due_eq_none_iff {plan : FaultPlan} :
    plan.due = none ↔ plan.queues .bind = [] ∧ plan.queues .execute = [] := by
  unfold due
  cases plan.queues .bind with
  | nil => cases plan.queues .execute <;> simp
  | cons err rest => simp

theorem due_eq_bind_iff {plan : FaultPlan} {err : DriverError} :
    plan.due = some (.bind, err) ↔ ∃ rest, plan.queues .bind = err :: rest := by
  unfold due
  cases plan.queues .bind with
  | nil => cases plan.queues .execute <;> simp
  | cons first rest => simp

theorem due_eq_execute_iff {plan : FaultPlan} {err : DriverError} :
    plan.due = some (.execute, err) ↔
      plan.queues .bind = [] ∧ ∃ rest, plan.queues .execute = err :: rest := by
  unfold due
  cases plan.queues .bind with
  | nil => cases plan.queues .execute <;> simp
  | cons first rest => simp

end FaultPlan

namespace Faulty

variable {W H α : Type} {point : FaultPoint} {w : Faulty W}

theorem guarded_of_nil (call : W → Except DriverError α × W) (h : w.plan.queues point = []) :
    guarded point call w = ((call w.world).1, ⟨w.plan, (call w.world).2⟩) := by
  unfold guarded FaultPlan.take
  rw [h]

theorem guarded_of_cons (call : W → Except DriverError α × W) {err : DriverError}
    {rest : List DriverError} (h : w.plan.queues point = err :: rest) :
    guarded point call w = (.error err, ⟨w.plan.after point, w.world⟩) := by
  unfold guarded FaultPlan.after FaultPlan.take
  rw [h]

theorem guardedOn_of_nil (call : H → W → Except DriverError α × H × W) (handle : H)
    (h : w.plan.queues point = []) :
    guardedOn point call handle w =
      ((call handle w.world).1, (call handle w.world).2.1,
        ⟨w.plan, (call handle w.world).2.2⟩) := by
  unfold guardedOn FaultPlan.take
  rw [h]

theorem guardedOn_of_cons (call : H → W → Except DriverError α × H × W) (handle : H)
    {err : DriverError} {rest : List DriverError} (h : w.plan.queues point = err :: rest) :
    guardedOn point call handle w = (.error err, handle, ⟨w.plan.after point, w.world⟩) := by
  unfold guardedOn FaultPlan.after FaultPlan.take
  rw [h]

end Faulty

end Provenance
