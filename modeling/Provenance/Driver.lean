import Provenance.Query
import Provenance.Value

/-!
The seam between a backend and a store. A driver acts on a world `W`, in which at most one
connection is open at a time, and hands out statement handles `H`. A handle is bound, executed and
then read row by row through an open cursor. A failed call may still have changed the world and the
handle, so both come back in every case.
-/

set_option autoImplicit false
set_option relaxedAutoImplicit false

namespace Provenance

structure Driver (W H : Type) where
  name : String
  /-- Opens the connection that a connection string describes. -/
  connect : String → W → Except DriverError Unit × W
  prepare : Query → W → Except DriverError H × W
  /-- Gives up a handle that is no longer needed. -/
  discard : H → W → W
  disconnect : W → Except DriverError Unit × W
  /-- Parameters stay bound until the next call. -/
  bind : List Value → H → W → Except DriverError Unit × H × W
  /-- Opens a cursor on the rows of the statement. -/
  execute : H → W → Except DriverError Unit × H × W
  /-- Moves the cursor to the next row, and says whether there is one. -/
  fetch : H → W → Except DriverError Bool × H × W
  /-- The value in a column of the current row. -/
  column : Nat → H → W → Except DriverError Value × H × W
  /-- Closing a handle without an open cursor is no error. -/
  close : H → W → Except DriverError Unit × H × W
  /-- How many rows the open cursor still has to give. -/
  rowsLeft : H → Nat

end Provenance
