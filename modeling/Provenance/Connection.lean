import Provenance.Driver
import Provenance.Event
import Provenance.Pool

/-!
One connection to a store, with a pool of handles for every query. A connection that failed is torn
down and built again; each one built has a generation number of its own, and a caller that saw a
failure names the generation it saw, so that a connection built since then is left alone.
-/

set_option autoImplicit false
set_option relaxedAutoImplicit false

namespace Provenance

/-- An open connection and the pools prepared against it. -/
structure Live (H : Type) where
  pools : Pools Query H
  generation : Nat

/-- Where to connect, the connection if one is open, the counters, and the world acted on. -/
structure Connection (W H : Type) where
  target : String
  poolSize : Nat
  live : Option (Live H)
  lastGeneration : Nat
  /-- How often a connection was built again with success. -/
  reconnects : Nat
  world : W
  log : List Event

namespace Live

variable {W H : Type}

/-- Prepares handles of one query. A failure ends the list early and comes with it. -/
def prepareHandles (driver : Driver W H) (query : Query) :
    Nat → W → (List H × Option DriverError) × W
  | 0, world => (([], none), world)
  | count + 1, world =>
    match driver.prepare query world with
    | (.error err, world) => (([], some err), world)
    | (.ok handle, world) =>
      let ((handles, failure), world) := prepareHandles driver query count world
      ((handle :: handles, failure), world)

/-- What preparing every pool comes to. -/
inductive Prepared (H : Type) where
  | all (pools : List (Query × Pool H))
  /-- A query failed; `handles` are all those prepared until then. -/
  | failed (query : Query) (err : DriverError) (handles : List H)

/-- Prepares a pool of `size` handles for each query. -/
def preparePools (driver : Driver W H) (size : Nat) : List Query → W → Prepared H × W
  | [], world => (.all [], world)
  | query :: rest, world =>
    match prepareHandles driver query size world with
    | ((handles, some err), world) => (.failed query err handles, world)
    | ((handles, none), world) =>
      match preparePools driver size rest world with
      | (.all pools, world) => (.all ((query, .ofHandles query.name handles) :: pools), world)
      | (.failed query err more, world) => (.failed query err (handles ++ more), world)

/-- Gives up all handles, then disconnects. -/
def tearDown (driver : Driver W H) (generation : Nat) (handles : List H) (world : W) :
    W × List Event :=
  let emptied := handles.foldl (fun world handle ↦ driver.discard handle world) world
  match driver.disconnect emptied with
  | (.ok (), world) => (world, [])
  | (.error err, world) => (world, [.disconnectFailed generation err])

/-- Connects and prepares every pool. After a failure nothing is left open. -/
def build (driver : Driver W H) (target : String) (size generation : Nat) (world : W) :
    Except Error (Live H) × W × List Event :=
  match driver.connect target world with
  | (.error err, world) =>
    (.error (.connection (driver.name ++ " driver could not connect")), world,
      Event.ofError "connect" err)
  | (.ok (), world) =>
    match preparePools driver size Query.all world with
    | (.all pools, world) => (.ok ⟨⟨pools⟩, generation⟩, world, [])
    | (.failed query err handles, world) =>
      let (world, events) := tearDown driver generation handles world
      (.error (.prepare query.name), world, Event.ofError query.name err ++ events)

def debug (live : Live H) : String :=
  "LiveConnection \x7b generation: " ++ toString live.generation ++ ", queries: " ++
    toString live.pools.size ++ ", .. \x7d"

end Live

namespace Connection

variable {W H : Type}

/-- Nothing is open, and nothing has been. -/
def unopened (target : String) (poolSize : Nat) (world : W) : Connection W H :=
  ⟨target, poolSize, none, 0, 0, world, []⟩

/-- The first connection. A pool needs at least one handle. -/
def start (driver : Driver W H) (target : String) (poolSize : Nat) (world : W) :
    Except Error Unit × Connection W H :=
  if poolSize = 0 then
    (.error (.invalidArgument "pool size must be at least 1"), unopened target poolSize world)
  else
    match Live.build driver target poolSize 1 world with
    | (.ok live, world, events) => (.ok (), ⟨target, poolSize, some live, 1, 0, world, events⟩)
    | (.error err, world, events) => (.error err, ⟨target, poolSize, none, 1, 0, world, events⟩)

def isConnected (c : Connection W H) : Bool := c.live.isSome

def notConnected : Error := .connection "not connected"

/-- The generation of the open connection. -/
def generation (c : Connection W H) : Except Error Nat :=
  match c.live with
  | some live => .ok live.generation
  | none => .error notConnected

/-- Handles of a query that nobody holds. -/
def available (c : Connection W H) (query : Query) : Except Error Nat :=
  match c.live with
  | none => .error notConnected
  | some live =>
    match live.pools.get? query with
    | some pool => .ok pool.available
    | none => .error (.internal ("no statement pool for " ++ query.name))

/-- Gives up every handle and closes the connection, if one is open. -/
def disconnect (driver : Driver W H) (c : Connection W H) : Connection W H :=
  match c.live with
  | none => c
  | some live =>
    let (world, events) := Live.tearDown driver live.generation live.pools.handles c.world
    { c with live := none, world, log := c.log ++ events }

/-- Builds the next generation where no connection is open. -/
def openNext (driver : Driver W H) (c : Connection W H) : Except Error Unit × Connection W H :=
  let next := c.lastGeneration + 1
  let log := c.log ++ [.reconnecting next]
  match Live.build driver c.target c.poolSize next c.world with
  | (.ok live, world, events) =>
    (.ok (), { c with live := some live, lastGeneration := next, reconnects := c.reconnects + 1,
                      world, log := log ++ events })
  | (.error err, world, events) =>
    (.error err, { c with live := none, lastGeneration := next, world, log := log ++ events })

/-- Rebuilds the connection unless the one of `generation` has been replaced already. The old one is
gone before the new one is made. -/
def reconnectIfCurrent (driver : Driver W H) (generation : Nat) (c : Connection W H) :
    Except Error Unit × Connection W H :=
  match c.live with
  | some live =>
    if live.generation = generation then openNext driver (disconnect driver c) else (.ok (), c)
  | none => openNext driver c

/-- Connects again if no connection is open. -/
def reconnectIfDisconnected (driver : Driver W H) (c : Connection W H) :
    Except Error Unit × Connection W H :=
  match c.live with
  | some _ => (.ok (), c)
  | none => openNext driver c

/-- Rebuilds the connection whatever its state. -/
def reconnect (driver : Driver W H) (c : Connection W H) : Except Error Unit × Connection W H :=
  reconnectIfCurrent driver ((c.live.map (·.generation)).getD 0) c

def debug (driver : Driver W H) (c : Connection W H) : String :=
  "ConnectionManager \x7b driver: " ++ Text.quoted driver.name ++ ", pool_size: " ++
    toString c.poolSize ++ ", reconnects: " ++ toString c.reconnects ++ ", .. \x7d"

end Connection

end Provenance
