/-!
A log that keeps its first and its most recent events, so that a failure can be reported with its
context. What was recorded between the two is only counted.
-/

set_option autoImplicit false
set_option relaxedAutoImplicit false

namespace Provenance.Simulation

structure EventLog where
  firstCapacity : Nat
  tailCapacity : Nat
  first : List String
  tail : List String
  dropped : Nat
deriving DecidableEq, Repr

namespace EventLog

def empty (firstCapacity tailCapacity : Nat) : EventLog :=
  ⟨firstCapacity, tailCapacity, [], [], 0⟩

def record (event : String) (log : EventLog) : EventLog :=
  if log.first.length < log.firstCapacity then { log with first := log.first ++ [event] }
  else if log.tailCapacity = 0 then { log with dropped := log.dropped + 1 }
  else if log.tail.length = log.tailCapacity then
    { log with tail := log.tail.drop 1 ++ [event], dropped := log.dropped + 1 }
  else { log with tail := log.tail ++ [event] }

/-- The lines of a report: a header, the first events, a note of what is left out, the tail. -/
def dump (header : String) (log : EventLog) : List String :=
  let note := if 0 < log.dropped then [s!"  ... {log.dropped} events omitted ..."] else []
  header :: log.first.map ("  " ++ ·) ++ note ++ log.tail.map ("  " ++ ·)

end EventLog

end Provenance.Simulation
