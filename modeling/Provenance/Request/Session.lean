import Provenance.Request.Argument

/-!
Requests about sessions.
-/

set_option autoImplicit false
set_option relaxedAutoImplicit false

namespace Provenance.Request

def createSession (session : SessionDescriptor) : Except Error (Request Nat) := do
  Argument.checkLength "MAC address" session.macAddress Limit.macAddress
  Argument.checkLength "user" session.user Limit.user
  Argument.checkLength "program" session.program Limit.program
  Argument.checkLength "command line" session.commandLine Limit.commandLine
  return oneId .createSession
    [.text session.macAddress, .text session.user, .int session.pid, .text session.program,
      .text session.commandLine]

def sessionRow (reader : Reader) (id : Nat) : Reading SessionInfo := do
  let macAddress ← Reading.optional 0 (Value.toText reader)
  let user ← Reading.optional 1 (Value.toText reader)
  let pid ← Reading.optional 2 Value.toInt
  let program ← Reading.optional 3 (Value.toText reader)
  let commandLine ← Reading.optional 4 (Value.toText reader)
  let startTime ← Reading.required 5 (Value.toEpoch reader)
  return ⟨id, macAddress.getD "", user.getD "", pid.getD 0, program.getD "",
    commandLine.getD "", startTime⟩

def sessionInfo (reader : Reader) (id : Nat) : Except Error (Request SessionInfo) := do
  let param ← Argument.id "session" id
  return first .getSessionInfo [param] (sessionRow reader id)

end Provenance.Request
