import Provenance.Backend

/-!
A context: the session that the caller recorded in a backend when it attached to it. Attached, the
context owns what is created through it; detached, it reaches no backend.
-/

set_option autoImplicit false
set_option relaxedAutoImplicit false

namespace Provenance

structure Context where
  /-- The session recorded by the attachment in force. -/
  attachment : Option Nat
deriving DecidableEq, Repr

namespace Context

variable {W H α : Type}

def detached : Context := ⟨none⟩

def isAttached (context : Context) : Bool := context.attachment.isSome

/-- The session that owns what is created. -/
def session (context : Context) : Except Error Nat :=
  match context.attachment with
  | some session => .ok session
  | none => .error .notInitialized

def debug (context : Context) : String :=
  "CplContext \x7b session: " ++
    (match context.attachment with
      | some session => s!"Some({session})"
      | none => "None") ++ " \x7d"

/-- An action of the attached backend, given the session. -/
def withBackend (action : Nat → Action (Backend W H) α) : Action (Context × Backend W H) α :=
  fun (context, backend) ↦
    match context.session with
    | .error err => (.error err, (context, backend))
    | .ok session => Action.onSecond (action session) (context, backend)

/-- Records a session, unless one is in force. -/
def attach (driver : Driver W H) (descriptor : SessionDescriptor) :
    Action (Context × Backend W H) Nat := fun (context, backend) ↦
  match context.attachment with
  | some _ => (.error .alreadyInitialized, (context, backend))
  | none =>
    match Backend.createSession driver descriptor backend with
    | (.ok session, backend) => (.ok session, (⟨some session⟩, backend))
    | (.error err, backend) => (.error err, (context, backend))

def detach (context : Context) : Except Error Unit × Context :=
  match context.attachment with
  | some _ => (.ok (), detached)
  | none => (.error .notInitialized, context)

def createObject (driver : Driver W H) (space name : String) (kind : ObjectKind) :
    Action (Context × Backend W H) Nat :=
  withBackend fun session ↦ Backend.createObject driver space name kind session

/-- The most recent object with this name and kind, created if there is none. -/
def lookupOrCreateObject (driver : Driver W H) (space name : String) (kind : ObjectKind) :
    Action (Context × Backend W H) Nat :=
  withBackend fun session backend ↦
    match Backend.lookupObject driver space name (some kind) backend with
    | (.error .notFound, backend) => Backend.createObject driver space name kind session backend
    | outcome => outcome

def createBundle (driver : Driver W H) (name space : String) :
    Action (Context × Backend W H) Nat :=
  withBackend fun session ↦ Backend.createBundle driver name space session

end Context

end Provenance
