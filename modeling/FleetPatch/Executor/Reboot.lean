import FleetPatch.Json.Basic
import FleetPatch.Transport

/-!
# Requests to restart

A host that restarts may drop the transport before it answers, or close the
channel without an exit status. Both count as a request that is not confirmed. A
command that was refused for lack of rights or that exits with an error is a
fault.
-/

namespace FleetPatch

set_option autoImplicit false

structure RebootRequest where
  command : String
  confirmed : Bool
  detail : String
  deriving Repr, DecidableEq

def RebootRequest.members (request : RebootRequest) : List (String × Json) := [
  ("rebooting", .bool true),
  ("confirmed", .bool request.confirmed),
  ("detail", .str request.detail)]

def Reply.requireSuccess (reply : Reply) (label operation : String) : Except Fault Unit :=
  if reply.succeeded then .ok ()
  else do
    let errors ← reply.errors
    .error (.command (.exitStatus label operation reply.exitCode errors))

def RebootRequest.ofReply (label command : String) (reply : Reply) :
    Except Fault RebootRequest :=
  if reply.exitCode = some noExitStatus then
    .ok ⟨command, false, "channel closed without an exit status"⟩
  else do
    reply.requireSuccess label "reboot"
    .ok ⟨command, true, ""⟩

/-- Whether a fault may be what is left of a transport to a host that restarts. -/
def Fault.mayBeRestart : Fault → Bool
  | .command _ | .connection _ => true
  | _ => false

def RebootRequest.ofAnswer (label command : String) (answer : Except Fault Reply) :
    Except Fault RebootRequest :=
  match answer with
  | .ok reply => ofReply label command reply
  | .error fault =>
      if fault.mayBeRestart then .ok ⟨command, false, fault.describe⟩ else .error fault

def Transport.requestReboot {σ : Type} (host : Transport σ) (label command : String) :
    Run Fault σ RebootRequest := do
  let answer ← Run.attempt (host.execute command)
  Run.lift (RebootRequest.ofAnswer label command answer)

theorem Transport.requestReboot_apply {σ : Type} (host : Transport σ) (label command : String)
    (now : σ) :
    host.requestReboot label command now =
      (RebootRequest.ofAnswer label command (host.execute command now).1,
        (host.execute command now).2) := rfl

end FleetPatch
