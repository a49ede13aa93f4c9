import Provenance.Simulation.Arguments

/-!
What a simulation does: its size, its rates, its seed. Two presets override what was given, and
each worker has a seed of its own.
-/

set_option autoImplicit false
set_option relaxedAutoImplicit false

namespace Provenance.Simulation

structure Config where
  durationMs : Option Nat
  /-- Operations per worker. -/
  iterations : Option Nat
  /-- Chosen at random where it is left out. -/
  seed : Option Nat
  poolSize : Nat
  workers : Nat
  linkFailureRate : Binary64
  fetchFailureRate : Binary64
  reconnectRate : Binary64
  deleteRate : Binary64
  db : Option String
  log : Option String
  preset : Option String
  /-- How many steps at the start and at the end a report of a failure holds. -/
  firstSteps : Nat
  tailSteps : Nat
deriving DecidableEq, Repr

namespace Config

/-- A rate as a number from zero to one. -/
def clampRate (rate : Binary64) : Binary64 :=
  if rate.isNaN then .zero
  else if rate.lt .zero then .zero
  else if (Binary64.ofInt 1).lt rate then .ofInt 1
  else rate

def applyQuick (config : Config) : Config :=
  { config with
    preset := some "quick"
    iterations := some 500
    durationMs := none
    poolSize := 2
    workers := 4
    linkFailureRate := .ofDecimal false 2 (-2)
    fetchFailureRate := .ofDecimal false 1 (-2)
    reconnectRate := .ofDecimal false 2 (-3)
    deleteRate := .ofDecimal false 2 (-2) }

def applyStress (config : Config) : Config :=
  { config with
    preset := some "stress"
    iterations := some 20000
    durationMs := none
    poolSize := 4
    workers := 32
    linkFailureRate := .ofDecimal false 5 (-2)
    fetchFailureRate := .ofDecimal false 2 (-2)
    reconnectRate := .ofDecimal false 5 (-3)
    deleteRate := .ofDecimal false 3 (-2) }

def ofArguments (a : Arguments) : Config :=
  let given : Config :=
    { durationMs := a.duration.map Duration.milliseconds
      iterations := a.iterations
      seed := a.seed
      poolSize := max a.poolSize 1
      workers := max a.workers 1
      linkFailureRate := clampRate a.linkFailureRate
      fetchFailureRate := clampRate a.fetchFailureRate
      reconnectRate := clampRate a.reconnectRate
      deleteRate := clampRate a.deleteRate
      db := a.db
      log := a.log
      preset := none
      firstSteps := 30
      tailSteps := 80 }
  let config := if a.quick then given.applyQuick else given
  if a.stress then config.applyStress else config

end Config

/-- The seed of one worker: its number times an odd constant, mixed into the seed of the run. -/
def workerSeed (seed worker : UInt64) : UInt64 := seed ^^^ (worker * 0x9E3779B97F4A7C15)

end Provenance.Simulation
