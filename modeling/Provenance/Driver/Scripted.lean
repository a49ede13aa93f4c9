import Provenance.Driver

/-!
A driver whose every call is scripted in advance, and which records the calls it gets.
-/

set_option autoImplicit false
set_option relaxedAutoImplicit false

namespace Provenance.Scripted

/-- What happens from one bind to the next: where calls fail, and the rows. -/
structure Attempt where
  bind : Option DriverError
  execute : Option DriverError
  /-- Every close fails. -/
  close : Option DriverError
  rows : List Row
  /-- The number of a fetch that fails. -/
  fetch : Option (Nat × DriverError)
  /-- The number of a row, and a column of it, that cannot be read. -/
  column : Option (Nat × Nat × DriverError)
deriving DecidableEq, Repr

def Attempt.plain : Attempt := ⟨none, none, none, [], none, none⟩

/-- A preparation that fails, once: the `nth` of a query on one connection. -/
structure Refusal where
  query : String
  nth : Nat
  err : DriverError
deriving DecidableEq, Repr

/-- A call that the driver got. -/
inductive Call where
  | connect (target : String)
  | prepare
  | prepareFailed (query : Query)
  | discard
  | disconnect
  | bind (query : Query) (params : List Value)
  | execute
  | fetch
  | column (index : Nat)
  | close
deriving DecidableEq, Repr

structure Script where
  attempts : List Attempt
  /-- One entry per call; a call without one succeeds. -/
  connects : List (Option DriverError)
  disconnects : List (Option DriverError)
  refusals : List Refusal
  /-- The queries prepared on the open connection, last first. -/
  prepared : List Query
  /-- The calls so far, last first. -/
  calls : List Call
deriving DecidableEq, Repr

structure Statement where
  query : Query
  attempt : Attempt
  /-- Fetches since the last execute. -/
  fetches : Nat
  /-- Rows given out since the last execute. -/
  position : Nat
  current : Option Row
  rest : List Row
deriving DecidableEq, Repr

namespace Script

def record (call : Call) (script : Script) : Script :=
  { script with calls := call :: script.calls }

/-- The calls in the order in which they came, and the script without them. -/
def takeCalls (script : Script) : List Call × Script :=
  (script.calls.reverse, { script with calls := [] })

end Script

/-- The outcome that the first of some entries asks for. -/
def outcome : List (Option DriverError) → Except DriverError Unit
  | some err :: _ => .error err
  | _ => .ok ()

def failIf (failure : Option DriverError) : Except DriverError Unit :=
  match failure with
  | some err => .error err
  | none => .ok ()

def connect (target : String) (script : Script) : Except DriverError Unit × Script :=
  (outcome script.connects,
    { script with connects := script.connects.drop 1, prepared := [] }.record (.connect target))

def disconnect (script : Script) : Except DriverError Unit × Script :=
  (outcome script.disconnects,
    { script with disconnects := script.disconnects.drop 1 }.record .disconnect)

def prepare (query : Query) (script : Script) : Except DriverError Statement × Script :=
  let script := { script with prepared := query :: script.prepared }.record .prepare
  let due (refusal : Refusal) : Bool :=
    refusal.query == query.name && refusal.nth == script.prepared.count query
  match script.refusals.find? due with
  | some refusal =>
    (.error refusal.err,
      { script with refusals := script.refusals.erase refusal }.record (.prepareFailed query))
  | none => (.ok ⟨query, .plain, 0, 0, none, []⟩, script)

def bind (params : List Value) (s : Statement) (script : Script) :
    Except DriverError Unit × Statement × Script :=
  let attempt := script.attempts.headD .plain
  (failIf attempt.bind, { s with attempt },
    { script with attempts := script.attempts.drop 1 }.record (.bind s.query params))

def execute (s : Statement) (script : Script) : Except DriverError Unit × Statement × Script :=
  let opened := { s with fetches := 0, position := 0, current := none, rest := s.attempt.rows }
  (failIf s.attempt.execute, opened, script.record .execute)

/-- A fetch that fails does not move the cursor. -/
def fetch (s : Statement) (script : Script) : Except DriverError Bool × Statement × Script :=
  let script := script.record .fetch
  let s := { s with fetches := s.fetches + 1 }
  let failure := s.attempt.fetch.bind fun (number, err) ↦
    if number = s.fetches then some err else none
  match failure, s.rest with
  | some err, _ => (.error err, s, script)
  | none, [] => (.ok false, { s with current := none }, script)
  | none, row :: rest =>
    (.ok true, { s with position := s.position + 1, current := some row, rest }, script)

def column (index : Nat) (s : Statement) (script : Script) :
    Except DriverError Value × Statement × Script :=
  let script := script.record (.column index)
  let failure := s.attempt.column.bind fun (row, column, err) ↦
    if row = s.position ∧ column = index then some err else none
  match failure, s.current.bind fun row ↦ row[index]? with
  | some err, _ => (.error err, s, script)
  | none, some value => (.ok value, s, script)
  | none, none => (.error (.single "07009" 0 "no such column"), s, script)

def close (s : Statement) (script : Script) : Except DriverError Unit × Statement × Script :=
  (failIf s.attempt.close, { s with current := none, rest := [] }, script.record .close)

def driver : Driver Script Statement where
  name := "script"
  connect := connect
  prepare := prepare
  discard _ script := script.record .discard
  disconnect := disconnect
  bind := bind
  execute := execute
  fetch := fetch
  column := column
  close := close
  rowsLeft s := s.rest.length

end Provenance.Scripted
