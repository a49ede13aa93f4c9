import Provenance.Error

/-!
Computations that act on a state and may fail. A failure keeps the state it was reached with: what
has been done stays done.
-/

set_option autoImplicit false
set_option relaxedAutoImplicit false

namespace Provenance

def Action (σ α : Type) : Type := σ → Except Error α × σ

namespace Action

variable {σ τ α β : Type}

def run (action : Action σ α) (s : σ) : Except Error α × σ := action s

/-- Runs the first action, and the second on its result and state unless it failed. -/
def andThen (action : Action σ α) (next : α → Action σ β) : Action σ β := fun s ↦
  match action s with
  | (.ok a, s) => next a s
  | (.error err, s) => (.error err, s)

instance : Monad (Action σ) where
  pure a := fun s ↦ (.ok a, s)
  bind := andThen

def fail (err : Error) : Action σ α := fun s ↦ (.error err, s)

def ofExcept (result : Except Error α) : Action σ α := fun s ↦ (result, s)

/-- The outcome of an action as a value, so that a failure can be looked at. -/
def attempt (action : Action σ α) : Action σ (Except Error α) := fun s ↦
  let (result, s) := action s
  (.ok result, s)

def get : Action σ σ := fun s ↦ (.ok s, s)

def modify (f : σ → σ) : Action σ Unit := fun s ↦ (.ok (), f s)

/-- An action on the second part of a pair. -/
def onSecond (action : Action τ α) : Action (σ × τ) α := fun (s, t) ↦
  let (result, t) := action t
  (result, (s, t))

@[simp] theorem run_pure (a : α) (s : σ) : (pure a : Action σ α).run s = (.ok a, s) := rfl

@[simp] theorem run_fail (err : Error) (s : σ) : (fail err : Action σ α).run s = (.error err, s) :=
  rfl

theorem run_bind (action : Action σ α) (next : α → Action σ β) (s : σ) :
    (action >>= next).run s =
      match action.run s with
      | (.ok a, s) => (next a).run s
      | (.error err, s) => (.error err, s) := rfl

theorem andThen_pure (action : Action σ α) : action.andThen pure = action := by
  funext s
  unfold andThen
  cases action s with
  | mk result s => cases result <;> rfl

theorem andThen_assoc {γ : Type} (action : Action σ α) (f : α → Action σ β) (g : β → Action σ γ) :
    (action.andThen f).andThen g = action.andThen fun a ↦ (f a).andThen g := by
  funext s
  unfold andThen
  cases action s with
  | mk result s => cases result <;> rfl

instance : LawfulMonad (Action σ) :=
  LawfulMonad.mk' _ andThen_pure (fun _ _ ↦ rfl) andThen_assoc

end Action

end Provenance
