import Provenance.Driver.Relational
import Provenance.Simulation.ChaCha
import Provenance.Simulation.Worker

/-!
A simulation with one worker: connects to a database with tables, records a session of the process
that runs it, runs the worker, forgets the failures that are still planned, and checks what is left.
-/

set_option autoImplicit false
set_option relaxedAutoImplicit false

namespace Provenance.Simulation

/-- What a run that passed its check reports. -/
structure Summary where
  steps : Nat
  gaveUp : Nat
  injected : Nat
  reconnects : Nat
  totals : Totals
deriving DecidableEq, Repr

namespace Run

variable {σ W H : Type}

/-- How many steps the worker takes. A run that may take no time takes none; of every other the
iterations are the only bound. -/
def stepCount (config : Config) : Nat :=
  if config.durationMs = some 0 then 0 else config.iterations.getD (Word.count64 - 1)

def options (config : Config) : Options := { poolSize := config.poolSize, kind := .sqlite }

/-- Forgets the failures that are still planned. -/
def clearFaults (backend : Backend (Faulty W) H) : Backend (Faulty W) H :=
  let connection := backend.connection
  { backend with
    connection :=
      { connection with
        world := { connection.world with plan := connection.world.plan.clear } } }

/-- The worker and the check, on a connected backend. The session of the process that is described
owns everything. -/
def onBackend (driver : Driver (Faulty W) H) (dice : Dice σ) (config : Config)
    (process : SessionDescriptor) (s : σ) (backend : Backend (Faulty W) H) :
    Except String Summary :=
  match Backend.createSession driver process backend with
  | (.error err, _) => .error ("create session: " ++ err.message)
  | (.ok session, backend) =>
    match Worker.run ⟨driver, dice, config, session⟩ 0 (stepCount config) s backend with
    | (.error failure, _) => .error failure.reason
    | (.ok report, backend) =>
      match Check.run driver config.poolSize [report] (clearFaults backend) with
      | (.error reason, _) => .error reason
      | (.ok totals, backend) =>
        .ok ⟨report.steps, report.gaveUp, backend.connection.world.plan.injected,
          backend.connection.reconnects, totals⟩

/-- A whole run over the database at a path, with a seed. Which process it is of does not matter as
long as its session is accepted, so it may be left out. -/
def overFile (config : Config) (seed : UInt64) (path : String) (world : Relational.World)
    (process : SessionDescriptor := ⟨"", "", 0, "simulator", ""⟩) : Except String Summary :=
  let driver := Faulty.driver (Relational.driver ⟨[], true⟩)
  let target := "Database=" ++ path ++ ";"
  match Backend.start driver target (options config) .utc ⟨.empty, world⟩ with
  | (.error err, _) => .error ("connect: " ++ err.message)
  | (.ok (), backend) =>
    onBackend driver ChaCha.dice config process (.ofSeed (workerSeed seed 0)) backend

end Run

end Provenance.Simulation
