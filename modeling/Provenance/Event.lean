import Provenance.Error

/-!
What is reported while a backend works: one constructor per thing worth reporting, and for each its
level, its message and the fields that go with it.
-/

set_option autoImplicit false
set_option relaxedAutoImplicit false

namespace Provenance

inductive Level where
  | warn
  | error
deriving DecidableEq, Repr

def Level.name : Level → String
  | warn => "warn"
  | error => "error"

inductive FieldValue where
  | text (value : String)
  | number (value : Int)
deriving DecidableEq, Repr

/-- The two calls that pass a statement to the store. -/
inductive Step where
  | bind
  | execute
deriving DecidableEq, Repr

def Step.name : Step → String
  | bind => "bind"
  | execute => "execute"

inductive Event where
  /-- One record of a failed driver call; `context` is a statement, or the act of connecting. -/
  | record (context : String) (index : Nat) (entry : Diagnostic)
  | statementFailed (query : String) (step : Step) (retries : Nat)
  | linkFailed (query : String) (step : Step) (retries : Nat)
  | notConnected (query : String) (retries : Nat)
  | reconnecting (generation : Nat)
  | disconnectFailed (generation : Nat) (err : DriverError)
  | closeFailed (query : String) (err : DriverError)
  | poolEmpty (pool : String)
deriving DecidableEq, Repr

namespace Event

def level : Event → Level
  | record .. | statementFailed .. | poolEmpty .. => .error
  | linkFailed .. | notConnected .. | reconnecting .. => .warn
  | disconnectFailed .. | closeFailed .. => .warn

def message : Event → String
  | record _ _ entry => entry.message
  | statementFailed .. => "statement failed"
  | linkFailed .. => "communication link failure, reconnecting"
  | notConnected .. => "not connected, reconnecting"
  | reconnecting _ => "reconnecting"
  | disconnectFailed _ err => "disconnect failed: " ++ err.text
  | closeFailed _ err => "closing cursor failed: " ++ err.text
  | poolEmpty _ => "semaphore granted a permit but no handle was free"

def fields : Event → List (String × FieldValue)
  | record context index entry =>
    [("context", .text context), ("index", .number index), ("state", .text entry.state),
      ("native", .number entry.native)]
  | statementFailed query step retries | linkFailed query step retries =>
    [("query", .text query), ("step", .text step.name), ("retries", .number retries)]
  | notConnected query retries => [("query", .text query), ("retries", .number retries)]
  | reconnecting generation => [("generation", .number generation)]
  | disconnectFailed generation _ => [("generation", .number generation)]
  | closeFailed query _ => [("query", .text query)]
  | poolEmpty pool => [("pool", .text pool)]

/-- Every record of a failed driver call, numbered from zero. -/
def ofError (context : String) (err : DriverError) : List Event :=
  err.records.zipIdx.map fun (entry, index) ↦ record context index entry

end Event

end Provenance
