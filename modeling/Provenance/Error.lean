import Provenance.Text.Quoted

/-!
Failures. A driver call fails with diagnostic records; an operation of the library fails with an
`Error`. The integer codes and the wording of both live here.
-/

set_option autoImplicit false
set_option relaxedAutoImplicit false

namespace Provenance

/-- One record of a driver failure: a five-character state, the store's own code and its text. -/
structure Diagnostic where
  state : String
  native : Int
  message : String
deriving DecidableEq, Repr

/-- A failed driver call with every record it produced, which may be none. -/
structure DriverError where
  records : List Diagnostic
deriving DecidableEq, Repr

/-- The state reported when the link to the store dropped during a call. -/
def linkFailureState : String := "08S01"

namespace Diagnostic

def text (record : Diagnostic) : String :=
  s!"{record.state}:{record.native}:{record.message}"

end Diagnostic

namespace DriverError

def single (state : String) (native : Int) (message : String) : DriverError :=
  ⟨[⟨state, native, message⟩]⟩

def hasState (err : DriverError) (state : String) : Bool :=
  err.records.any fun record ↦ record.state == state

/-- A dropped link is reported by exactly one record, in the link failure state. -/
def isLinkFailure (err : DriverError) : Bool :=
  match err.records with
  | [record] => record.state == linkFailureState
  | _ => false

def text (err : DriverError) : String :=
  let first := match err.records with
    | [] => ""
    | record :: _ => ": " ++ record.text
  s!"driver reported {err.records.length} diagnostic record(s)" ++ first

end DriverError

/-- Why an operation failed. The text names the argument, the statement or the cause. -/
inductive Error where
  | invalidArgument (text : String)
  | insufficientResources (text : String)
  | connection (text : String)
  | notImplemented (text : String)
  | alreadyInitialized
  | notInitialized
  | prepare (name : String)
  | statement (name : String)
  | internal (text : String)
  | backendInternal (text : String)
  | notFound
  | alreadyExists
  | nullValue
  | invalidType (text : String)
  /-- A callback stopped an enumeration with a code of its own. -/
  | callback (code : Int)
  /-- A local time was so close to the start of the calendar that the hour before it does not
  exist. This stands for a panic and not for an answer: the program unwinds without closing its
  cursor, and what is computed as the state from here on is no state of the program. -/
  | calendarUnderflow
deriving DecidableEq, Repr

namespace Error

/-- Negative for every failure except a callback that chose a code of its own. -/
def code : Error → Int
  | invalidArgument _ => -1
  | insufficientResources _ => -2
  | connection _ => -3
  | notImplemented _ => -4
  | alreadyInitialized => -5
  | notInitialized => -6
  | prepare _ => -7
  | statement _ => -8
  | internal _ => -9
  | backendInternal _ => -10
  | notFound => -11
  | alreadyExists => -12
  | nullValue => -15
  | invalidType _ => -17
  | callback code => code
  | calendarUnderflow => -9

def message : Error → String
  | invalidArgument text => "Invalid argument: " ++ text
  | insufficientResources text => "Insufficient resources: " ++ text
  | connection text => "Database connection error: " ++ text
  | notImplemented text => "Not implemented: " ++ text
  | alreadyInitialized => "A backend is already attached"
  | notInitialized => "No backend is attached"
  | prepare name => "Failed to prepare statement " ++ name
  | statement name => s!"Statement {name} failed"
  | internal text => "Internal error: " ++ text
  | backendInternal text => "Backend internal error: " ++ text
  | notFound => "Not found"
  | alreadyExists => "Already exists"
  | nullValue => "Unexpected NULL value"
  | invalidType text => "Invalid value type: " ++ text
  | callback code => s!"Iteration aborted by callback with code {code}"
  | calendarUnderflow => "the calendar has no hour before this time"

/-- The name of the kind of failure. -/
def name : Error → String
  | invalidArgument _ => "InvalidArgument"
  | insufficientResources _ => "InsufficientResources"
  | connection _ => "Connection"
  | notImplemented _ => "NotImplemented"
  | alreadyInitialized => "AlreadyInitialized"
  | notInitialized => "NotInitialized"
  | prepare _ => "Prepare"
  | statement _ => "Statement"
  | internal _ => "Internal"
  | backendInternal _ => "BackendInternal"
  | notFound => "NotFound"
  | alreadyExists => "AlreadyExists"
  | nullValue => "DbNull"
  | invalidType _ => "InvalidType"
  | callback _ => "Callback"
  | calendarUnderflow => "CalendarUnderflow"

/-- The failure inside a message. -/
def debug (err : Error) : String :=
  match err with
  | invalidArgument text | insufficientResources text | connection text | notImplemented text
  | prepare text | statement text | internal text | backendInternal text | invalidType text =>
    err.name ++ "(" ++ Text.quoted text ++ ")"
  | callback code => s!"Callback({code})"
  | _ => err.name

/-- A missing row and an unexpected NULL are ordinary outcomes rather than faults. -/
def isNotFound : Error → Bool
  | notFound | nullValue => true
  | _ => false

end Error

/-- Outcomes of an operation that did not fail. -/
inductive Status where
  | ok
  | duplicateIgnored
  | noData
deriving DecidableEq, Repr

def Status.name : Status → String
  | ok => "Ok"
  | duplicateIgnored => "DuplicateIgnored"
  | noData => "NoData"

def Status.code : Status → Int
  | ok => 0
  | duplicateIgnored => 1
  | noData => 2

/-- One signed integer for a whole outcome: the status code, or the error's code. -/
def returnCode : Except Error Status → Int
  | .ok status => status.code
  | .error err => err.code

end Provenance
