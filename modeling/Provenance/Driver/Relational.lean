import Provenance.ConnectionString
import Provenance.Driver
import Provenance.Driver.Location
import Provenance.Store.Run

/-!
A driver for relational databases in files and in memory. A connection string names a database or a
registered source. Statements read all their rows when they are executed, and give them out one by
one; the tables of a file change only by a statement that succeeds.
-/

set_option autoImplicit false
set_option relaxedAutoImplicit false

namespace Provenance.Relational

/-- Named sources with their targets, and whether connecting makes the tables. -/
structure Config where
  sources : List (String × String)
  makesTables : Bool
deriving DecidableEq, Repr

/-- What a database holds. -/
inductive Contents where
  /-- The file is no database. -/
  | damaged
  /-- There are no tables. -/
  | bare
  | tables (store : Store)
deriving DecidableEq, Repr

/-- The database behind an open connection. -/
inductive Medium where
  | memory (contents : Contents)
  | file (path : String)
deriving DecidableEq, Repr

structure Link where
  medium : Medium
  readOnly : Bool
  /-- The layout of the tables has been read, and need not be read again. -/
  layoutRead : Bool
deriving DecidableEq, Repr

/-- The files, the folders that do not exist, the time that new rows get, and the connection. -/
structure World where
  files : List (String × Contents)
  missing : List String
  /-- Somebody else holds the files for themselves. -/
  locked : Bool
  now : Value
  link : Option Link
deriving DecidableEq, Repr

/-- What can be prepared. -/
inductive Command where
  | query (query : Query)
  /-- One more than the only parameter, and the letter x. -/
  | probe
  /-- Text that is no statement. -/
  | malformed
  /-- No text at all. -/
  | blank
deriving DecidableEq, Repr

/-- The row under an open cursor, if it is at one, and the rows after it. -/
structure Cursor where
  current : Option Row
  rest : List Row
deriving DecidableEq, Repr

structure Statement where
  command : Command
  params : List Value
  cursor : Option Cursor
deriving DecidableEq, Repr

/-! ## Failures -/

def notOpen : DriverError := .single "08003" 0 "connection is closed"

def invalidCursor (message : String) : DriverError := .single "24000" 0 message

def cannotOpen (path : String) : DriverError :=
  .single "08001" 14 ("unable to open database file: " ++ path)

def notDatabase : DriverError := .single "08001" 26 "file is not a database"

def inUse : DriverError := .single "HYT00" 5 "database is locked"

def readOnlyDatabase : DriverError :=
  .single "42000" 8 "attempt to write a readonly database"

/-! ## Files -/

namespace World

def contentsOf? (w : World) (path : String) : Option Contents :=
  (w.files.find? fun file ↦ file.1 == path).map (·.2)

def putFile (w : World) (path : String) (contents : Contents) : World :=
  if w.files.any fun file ↦ file.1 == path then
    { w with files := w.files.map fun file ↦ if file.1 == path then (path, contents) else file }
  else { w with files := w.files ++ [(path, contents)] }

/-- What is in the database of a connection. -/
def contents (w : World) (link : Link) : Contents :=
  match link.medium with
  | .memory contents => contents
  | .file path => (w.contentsOf? path).getD .bare

/-- Replaces what is in the database of the open connection. -/
def write (w : World) (link : Link) (contents : Contents) : World :=
  match link.medium with
  | .memory _ => { w with link := some { link with medium := .memory contents } }
  | .file path => w.putFile path contents

/-- Somebody else holds the database of a connection. -/
def holds (w : World) (link : Link) : Bool :=
  match link.medium with
  | .memory _ => false
  | .file _ => w.locked

/-- Changes the tables in a file from outside the connection. -/
def alter (w : World) (path : String)
    (change : Store → Except Violation (List Row × Store)) : Option (List Row × World) :=
  match w.contentsOf? path with
  | some (.tables store) =>
    match change store with
    | .ok (rows, store) => some (rows, w.putFile path (.tables store))
    | .error _ => none
  | _ => none

end World

/-! ## Connecting -/

/-- The target that a connection string leads to. -/
def target (config : Config) (text : String) : Except DriverError String :=
  match ConnectionString.parse text with
  | .error err => .error (.single "08001" 0 err.message)
  | .ok parsed =>
    match parsed.source? with
    | some source =>
      match config.sources.find? fun entry ↦ entry.1 == source with
      | some entry => .ok entry.2
      | none => .error (.single "IM002" 0 ("data source name not found: " ++ source))
    | none =>
      match parsed.database? with
      | some target => .ok target
      | none => .error (.single "08001" 0 "connection string names neither DSN nor Database")

/-- Opens the medium at a location. A file that may be made is there afterwards. -/
def openMedium (location : Location) (w : World) : Except DriverError Medium × World :=
  match location.path with
  | none => (.ok (.memory .bare), w)
  | some path =>
    if w.missing.any fun folder ↦ folder.toList.isPrefixOf path.toList then
      (.error (cannotOpen path), w)
    else if (w.contentsOf? path).isSome then (.ok (.file path), w)
    else if location.access = .create then (.ok (.file path), w.putFile path .bare)
    else (.error (cannotOpen path), w)

/-- Makes the tables of an opened database where they are missing. -/
def makeTables (link : Link) (w : World) : Except DriverError World :=
  if w.holds link then .error inUse
  else
    match w.contents link with
    | .damaged => .error notDatabase
    | .bare =>
      if link.readOnly then .error readOnlyDatabase
      else .ok (w.write link (.tables .empty))
    | .tables _ => .ok w

def connect (config : Config) (text : String) (w : World) : Except DriverError Unit × World :=
  match target config text with
  | .error err => (.error err, w)
  | .ok target =>
    if target.toList.contains '\x00' then
      (.error (.single "HY000" 0 "nul byte found in provided data"), w)
    else
      match Location.ofTarget target with
      | .error err => (.error err, w)
      | .ok location =>
        match openMedium location w with
        | (.error err, w) => (.error err, w)
        | (.ok medium, w) =>
          let link : Link := ⟨medium, location.access == .readOnly, config.makesTables⟩
          let opened : World := { w with link := some link }
          if config.makesTables then
            match makeTables link opened with
            | .ok opened => (.ok (), opened)
            | .error err => (.error err, w)
          else (.ok (), opened)

/-- Closing a closed connection is no error. -/
def disconnect (w : World) : Except DriverError Unit × World := (.ok (), { w with link := none })

/-! ## Statements -/

/-- Reads the layout of the tables unless it is known already. -/
def readLayout (link : Link) (w : World) : Except DriverError Contents :=
  match w.contents link with
  | .damaged => .error notDatabase
  | contents => if w.holds link && !link.layoutRead then .error inUse else .ok contents

def prepare (command : Command) (w : World) : Except DriverError Statement × World :=
  match w.link with
  | none => (.error notOpen, w)
  | some link =>
    let prepared : Statement := ⟨command, [], none⟩
    match command with
    | .malformed => (.error (.single "HY000" 0 "syntax error"), w)
    | .blank => (.ok prepared, w)
    | .probe | .query _ =>
      match readLayout link w, command with
      | .error err, _ => (.error err, w)
      | .ok .bare, .query query =>
        (.error (.single "HY000" 1 ("no such table: " ++ query.table)), w)
      | .ok (.tables _), _ =>
        (.ok prepared, { w with link := some { link with layoutRead := true } })
      | .ok _, _ => (.ok prepared, w)

def bind (params : List Value) (s : Statement) (w : World) :
    Except DriverError Unit × Statement × World :=
  match s.cursor with
  | some _ => (.error (invalidCursor "cannot bind while a cursor is open"), s, w)
  | none => (.ok (), { s with params := params.map Value.asParameter }, w)

/-- The rows of a query and the world after it. -/
def runQuery (query : Query) (params : List Value) (link : Link) (w : World) :
    Except DriverError (List Row × World) :=
  if params.length ≠ query.arity then
    .error (Violation.parameterCount params.length query.arity).toError
  else if query.writes && link.readOnly then .error readOnlyDatabase
  else if w.holds link then .error inUse
  else
    match w.contents link with
    | .damaged => .error notDatabase
    | .bare => .error (.single "HY000" 1 ("no such table: " ++ query.table))
    | .tables store =>
      match store.run w.now query params with
      | .error violation => .error violation.toError
      | .ok (rows, store) =>
        .ok (rows, if query.writes then w.write link (.tables store) else w)

def runCommand (command : Command) (params : List Value) (link : Link) (w : World) :
    Except DriverError (List Row × World) :=
  match command, params with
  | .query query, params => runQuery query params link w
  | .probe, [param] => .ok ([[param.successor, .text "x"]], w)
  | .probe, params => .error (Violation.parameterCount params.length 1).toError
  | _, [] => .error (.single "HY000" 21 "not an error")
  | _, params => .error (Violation.parameterCount params.length 0).toError

def execute (s : Statement) (w : World) : Except DriverError Unit × Statement × World :=
  match s.cursor with
  | some _ => (.error (invalidCursor "cursor still open from a previous execute"), s, w)
  | none =>
    match w.link with
    | none => (.error notOpen, s, w)
    | some link =>
      match runCommand s.command s.params link w with
      | .error err => (.error err, s, w)
      | .ok (rows, w) => (.ok (), { s with cursor := some ⟨none, rows⟩ }, w)

def fetch (s : Statement) (w : World) : Except DriverError Bool × Statement × World :=
  match s.cursor with
  | none => (.error (invalidCursor "fetch without an open cursor"), s, w)
  | some ⟨_, []⟩ => (.ok false, { s with cursor := some ⟨none, []⟩ }, w)
  | some ⟨_, row :: rest⟩ => (.ok true, { s with cursor := some ⟨some row, rest⟩ }, w)

def column (index : Nat) (s : Statement) (w : World) :
    Except DriverError Value × Statement × World :=
  match s.cursor.bind (·.current) with
  | none => (.error (invalidCursor "no current row"), s, w)
  | some row =>
    match row[index]? with
    | some value => (.ok value, s, w)
    | none =>
      (.error (.single "07009" 0 s!"column {index} out of range ({row.length} columns)"), s, w)

def close (s : Statement) (w : World) : Except DriverError Unit × Statement × World :=
  (.ok (), { s with cursor := none }, w)

def driver (config : Config) : Driver World Statement where
  name := "sqlite"
  connect := connect config
  prepare query := prepare (.query query)
  discard _ w := w
  disconnect := disconnect
  bind := bind
  execute := execute
  fetch := fetch
  column := column
  close := close
  rowsLeft s := (s.cursor.map (·.rest.length)).getD 0

end Provenance.Relational
