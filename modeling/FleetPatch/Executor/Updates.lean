import FleetPatch.Executor.Reboot
import FleetPatch.Windows.AvailableUpdate
import FleetPatch.Windows.Installation
import FleetPatch.Windows.RebootSignals
import FleetPatch.Windows.Script

/-!
# Changing a Windows host

Updates are searched, downloaded and installed through the update agent. The
result of a search is kept until an action has reported its result. Nothing
restarts a host but an explicit request.
-/

namespace FleetPatch.UpdateExecutor

set_option autoImplicit false

open Windows

abbrev Cache := Option (List AvailableUpdate)

def label : String := "Windows Update"

variable {σ : Type} (host : Transport σ)

def found (reply : Reply) : Except Fault (List AvailableUpdate) := do
  reply.requireSuccess label "update search"
  AvailableUpdate.parse reply.stdout

def search : Run Fault σ (List AvailableUpdate) := host.ask searchScript found

def available (refresh : Bool) : Run Fault (Cache × σ) (List AvailableUpdate) :=
  Run.cached id (fun updates _ => some updates) refresh (search host)

def requireStrings (entries : List Json) : Except Fault Unit :=
  entries.forM fun entry =>
    match entry with
    | .str _ => .ok ()
    | _ => .error .wrongType

def actionScript (action : Action) (kbIds : Json) : Except Fault String := do
  let entries ← kbIds.elementsIfPresent
  let script ← action.script entries
  requireStrings entries
  .ok script

def resultOf (action : Action) (reply : Reply) : Except Fault Installation := do
  reply.requireSuccess label action.name
  Installation.parse action.name reply.stdout

/-- Carries out an action on the updates that a value names, or on all when it names none. -/
def act (action : Action) (kbIds : Json) : Run Fault (Cache × σ) Installation := do
  let script ← Run.lift (actionScript action kbIds)
  let result ← Run.second (host.ask script (resultOf action))
  Run.first (Run.update fun _ => none)
  pure result

def signalsOf (reply : Reply) : Except Fault RebootSignals := do
  reply.requireSuccess label "reboot check"
  RebootSignals.parse reply.stdout

def rebootSignals : Run Fault σ RebootSignals := host.ask rebootCheckScript signalsOf

def pendingOf (reply : Reply) : Except Fault Bool := (signalsOf reply).map RebootSignals.pending

def rebootRequired : Run Fault σ Bool := host.ask rebootCheckScript pendingOf

def reboot : Run Fault σ RebootRequest := host.requestReboot label restartCommand

end FleetPatch.UpdateExecutor
