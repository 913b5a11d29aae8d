import FleetPatch.Fault
import FleetPatch.Json.Basic

/-!
# Responses

A request is refused for a reason of its own, or it fails by the fault of a step.
Every refusal and every fault that the service knows is answered by one status
and one error text; what it does not know has no body.
-/

namespace FleetPatch.Web

set_option autoImplicit false

structure Response where
  status : Nat
  body : Option Json
  deriving Repr

inductive Failure where
  | refused (status : Nat) (message : String)
  | fault (fault : Fault)
  deriving Repr, DecidableEq

namespace Response

def ofResult (body : Json) : Response := ⟨200, some body⟩

def ofError (status : Nat) (message : String) : Response :=
  ⟨status, some (.obj [("error", .str message)])⟩

def bare (status : Nat) : Response := ⟨status, none⟩

def ofFault (fault : Fault) : Response :=
  match fault with
  | .denied reason => ofError 409 reason
  | .authentication _ => ofError 401 ("Authentication failed: " ++ fault.message)
  | .connection _ => ofError 503 ("Connection failed: " ++ fault.message)
  | .command _ | .notAuthorized _ => ofError 500 ("Command failed: " ++ fault.message)
  | .unsupportedAsset _ | .unsupportedManager _ => ofError 400 fault.message
  | .inventory _ => ofError 500 fault.message
  | _ => bare 500

def ofFailure : Failure → Response
  | .refused status message => ofError status message
  | .fault fault => ofFault fault

def ofOutcome : Except Failure Json → Response
  | .ok body => ofResult body
  | .error failure => ofFailure failure

end Response

end FleetPatch.Web
