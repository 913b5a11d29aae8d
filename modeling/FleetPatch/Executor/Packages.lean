import FleetPatch.Executor.Reboot
import FleetPatch.Json.Convert
import FleetPatch.Package.Manager
import FleetPatch.Text.Lower

/-!
# Changing a Linux host

Packages are upgraded by name or all at once. A batch that exits with an error is
a result; only a transport that fails is a fault.
-/

namespace FleetPatch.PackageExecutor

set_option autoImplicit false

/-- The trimmed name of an entry; entries that do not count as present or are blank have none, and
anything else that is no string is refused. -/
def entryName? (entry : Json) : Except Fault (Option String) :=
  if entry.isPresent then
    entry.asText.map fun text =>
      let name := Text.trimmed text
      if name = "" then none else some name
  else .ok none

def packageNames (value : Json) : Except Fault (List String) := do
  let entries ← value.elementsIfPresent
  let found ← entries.mapM entryName?
  match found.filterMap id with
  | [] => .error (.invalidValue .noPackageName)
  | names => .ok names

variable {σ : Type} (host : Transport σ) (manager : Manager)

def upgradeAll : Run Fault σ UpgradeResult :=
  host.ask manager.upgradeAllCommand manager.upgradeResult

def upgrade (value : Json) : Run Fault σ UpgradeResult := do
  let names ← Run.lift (packageNames value)
  host.ask (manager.upgradeCommand names) manager.upgradeResult

/-- Whether the check printed `true`, in any case and with blanks around it. -/
def saysTrue (reply : Reply) : Except Fault Bool :=
  match reply.stdout with
  | some text => .ok (Text.lower (Text.trimmed text) == "true")
  | none => .error .unsupportedOperation

def pendingOf (reply : Reply) : Except Fault Bool := do
  reply.requireSuccess manager.label "reboot check"
  saysTrue reply

def rebootRequired : Run Fault σ Bool := host.ask manager.rebootCheckCommand (pendingOf manager)

def reboot : Run Fault σ RebootRequest := host.requestReboot manager.label Manager.rebootCommand

end FleetPatch.PackageExecutor
