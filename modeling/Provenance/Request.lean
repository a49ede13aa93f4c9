import Provenance.Connection
import Provenance.Reading

/-!
Running a request against a connection. A bind or an execute that fails because the link dropped is
repeated on a connection built anew, as often as the budget allows; every other failure is logged
and ends the request. A failed read is never repeated, since the statement has run by then.
-/

set_option autoImplicit false
set_option relaxedAutoImplicit false

namespace Provenance

/-- A query, its parameters and how its rows are read; the reading may depend on a bound that
exceeds the number of rows. -/
structure Request (α : Type) where
  query : Query
  params : List Value
  read : Nat → Reading α

namespace Connection

variable {W H α : Type}

/-- What one pass over a request comes to. -/
inductive Attempt (W H α : Type) where
  | done (result : Except Error α) (c : Connection W H)
  /-- The store refused a bind or an execute on the connection of a generation. -/
  | failed (generation : Nat) (step : Step) (err : DriverError) (c : Connection W H)
  | unconnected

/-- The connection after a pass, with the handle back in its pool. -/
def putBack (c : Connection W H) (live : Live H) (query : Query) (pool : Pool H)
    (opened : Opened W H) : Connection W H :=
  { c with
    live := some { live with pools := live.pools.insert query (pool.release opened.handle) }
    world := opened.world
    log := opened.log }

/-- Takes a handle, binds, executes and reads. The cursor is closed and the handle is back in its
pool when this returns. A pass that would have to wait for a handle fails instead. -/
def attempt (driver : Driver W H) (request : Request α) (c : Connection W H) : Attempt W H α :=
  let query := request.query
  match c.live with
  | none => .unconnected
  | some live =>
    match live.pools.get? query with
    | none => .done (.error (.internal ("no statement pool for " ++ query.name))) c
    | some pool =>
      match pool.acquire with
      | .blocked =>
        .done (.error (.internal ("statement pool " ++ pool.name ++ " has no free handle"))) c
      | .refused pool =>
        .done (.error (.internal ("statement pool " ++ pool.name ++ " has no free handle")))
          { c with
            live := some { live with pools := live.pools.insert query pool }
            log := c.log ++ [.poolEmpty pool.name] }
      | .taken handle pool =>
        match driver.bind request.params handle c.world with
        | (.error err, handle, world) =>
          .failed live.generation .bind err
            (c.putBack live query pool (Opened.closeQuietly driver query ⟨handle, world, c.log⟩))
        | (.ok (), handle, world) =>
          match driver.execute handle world with
          | (.error err, handle, world) =>
            .failed live.generation .execute err
              (c.putBack live query pool (Opened.closeQuietly driver query ⟨handle, world, c.log⟩))
          | (.ok (), handle, world) =>
            let (result, opened) :=
              (request.read (driver.rowsLeft handle + 1)).run driver query ⟨handle, world, c.log⟩
            .done result (c.putBack live query pool (opened.closeQuietly driver query))

/-- Logs why a statement failed for good. -/
def giveUp (query : Query) (step : Step) (retries : Nat) (err : DriverError)
    (c : Connection W H) : Connection W H :=
  { c with log := c.log ++ Event.ofError query.name err ++
                    [.statementFailed query.name step retries] }

/-- Runs a request with `budget` retries left and `retries` behind it. -/
def perform (driver : Driver W H) (request : Request α) :
    (budget retries : Nat) → Connection W H → Except Error α × Connection W H
  | 0, retries, c =>
    match attempt driver request c with
    | .done result c => (result, c)
    | .unconnected => (.error notConnected, c)
    | .failed _ step err c =>
      (.error (.statement request.query.name), giveUp request.query step retries err c)
  | budget + 1, retries, c =>
    match attempt driver request c with
    | .done result c => (result, c)
    | .unconnected =>
      let c := { c with log := c.log ++ [.notConnected request.query.name (retries + 1)] }
      match reconnectIfDisconnected driver c with
      | (.ok (), c) => perform driver request budget (retries + 1) c
      | (.error err, c) => (.error err, c)
    | .failed generation step err c =>
      if err.isLinkFailure then
        let c := { c with log := c.log ++ [.linkFailed request.query.name step (retries + 1)] }
        match reconnectIfCurrent driver generation c with
        | (.ok (), c) => perform driver request budget (retries + 1) c
        | (.error err, c) => (.error err, c)
      else (.error (.statement request.query.name), giveUp request.query step retries err c)

end Connection

end Provenance
