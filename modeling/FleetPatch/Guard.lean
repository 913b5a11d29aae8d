import FleetPatch.Inventory.Asset
import FleetPatch.Run

/-!
# The guard before destructive actions

A protected host is refused from the inventory alone, without being contacted. A
host with a pending restart is refused as well, unless the action is the restart
itself.
-/

namespace FleetPatch.Guard

set_option autoImplicit false

inductive Decision where
  | allowed
  | refused (reason : String)
  deriving Repr, DecidableEq

variable {σ : Type}

def protectedReason (asset : Asset) (action : String) : String :=
  s!"{asset.hostname.text} is managed by Deep Freeze - manual {action}s are disabled"

def pendingReason (asset : Asset) (action : String) : String :=
  s!"{asset.hostname.text} has a pending reboot - reboot before running {action}s"

/-- What the inventory alone decides. -/
def protection (asset : Asset) (action : String) : Decision :=
  if asset.deepFreeze then .refused (protectedReason asset action) else .allowed

def clearance (asset : Asset) (action : String) (pending : Bool) : Decision :=
  if pending then .refused (pendingReason asset action) else .allowed

def Decision.outcome : Decision → Except Fault Unit
  | .allowed => .ok ()
  | .refused reason => .error (.denied reason)

/-- Decides on an action; `pending` asks the host whether a restart is pending, if it may be
asked. -/
def check (asset : Asset) (action : String) (pending : Option (Run Fault σ Bool)) :
    Run Fault σ Decision :=
  match protection asset action, pending with
  | .allowed, some ask => do
      let answer ← ask
      pure (clearance asset action answer)
  | decision, _ => pure decision

def enforce (asset : Asset) (action : String) (pending : Option (Run Fault σ Bool)) :
    Run Fault σ Unit := do
  let decision ← check asset action pending
  Run.lift decision.outcome

end FleetPatch.Guard
