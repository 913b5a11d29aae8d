import FleetPatch.Executor.Restart
import FleetPatch.Guard
import FleetPatch.Web.Service

/-!
# Changing hosts

Every change is guarded twice: a protected asset is refused before its host is
contacted, and a host with a pending restart before anything is changed on it. A
request names what to change by a list, and only the absence of a list stands for
everything. A restart is guarded by the protection alone.
-/

namespace FleetPatch.Web

set_option autoImplicit false

open Windows

variable {σ : Type} (service : Service σ)

def guardAsset (asset : Asset) (action : String) : Except Failure Unit :=
  computing (Guard.protection asset action).outcome

/-- The entries that a member lists; a member that does not count as present lists none. -/
def listed? (name : String) (body : List (String × Json)) : Except Failure (Option (List Json)) :=
  let value := Json.memberOrNull name body
  if value.isPresent then
    match value with
    | .arr entries => .ok (some entries)
    | _ => refuse 400 (name ++ " must be a list")
  else .ok none

def changeFailure : Fault → Failure
  | .invalidValue cause => .refused 400 cause.message
  | fault => .fault fault

def resultJson (asset : Asset) (members : List (String × Json)) : Json :=
  .obj (("asset", asset.hostname) :: members)

def installationOrder (name : String) (body : List UInt8) : Except Failure (Asset × Json) := do
  let asset ← service.findAsset name
  requireWindows asset
  guardAsset asset "update"
  let members ← bodyMembers body
  let kbIds ← listed? "kb_numbers" members
  .ok (asset, (kbIds.map Json.arr).getD .null)

def installOn (asset : Asset) (kbIds : Json) (host : Transport σ) : Step σ Installation := do
  onHosts (Guard.enforce asset "update" (some (UpdateExecutor.rebootRequired host)))
  Run.mapFault changeFailure (Run.withFresh none (UpdateExecutor.act host .install kbIds))

def installUpdates (name : String) (body : List UInt8) : Step σ Json := do
  let (asset, kbIds) ← Run.lift (installationOrder service name body)
  let result ← service.withTransport asset (installOn asset kbIds)
  pure (resultJson asset result.members)

def isText : Json → Bool
  | .str _ => true
  | _ => false

def requireTexts : Option (List Json) → Except Failure (Option (List Json))
  | none => .ok none
  | some entries =>
      if entries.all isText then .ok (some entries)
      else refuse 400 "packages must be a list of package names"

/-- The package names that the body lists, which have to be strings. -/
def listedNames? (body : List (String × Json)) : Except Failure (Option (List Json)) := do
  let names ← listed? "packages" body
  requireTexts names

def upgradeOrder (name : String) (body : List UInt8) :
    Except Failure (Asset × Option (List Json)) := do
  let asset ← service.findAsset name
  requireLinux asset
  guardAsset asset "upgrade"
  let members ← bodyMembers body
  let names ← listedNames? members
  .ok (asset, names)

def requiredEcosystem (asset : Asset) : Except Failure Ecosystem := do
  let name ← requireEcosystem asset
  computing (Ecosystem.ofJson (.str name))

/-- Upgrades packages on a host that the guard allows; there are no packages to upgrade in the
ecosystem of Windows. -/
def upgradeOn (asset : Asset) (names : Option (List Json)) (host : Transport σ) :
    Step σ UpgradeResult := do
  let ecosystem ← Run.lift (requiredEcosystem asset)
  onHosts (Guard.enforce asset "upgrade" (some (ecosystem.rebootRequired host)))
  match ecosystem with
  | .windows => Run.fail (.fault .unsupportedOperation)
  | .packages manager =>
      Run.mapFault changeFailure (match names with
        | some entries => PackageExecutor.upgrade host manager (.arr entries)
        | none => PackageExecutor.upgradeAll host manager)

def upgradePackages (name : String) (body : List UInt8) : Step σ Json := do
  let (asset, names) ← Run.lift (upgradeOrder service name body)
  let result ← service.withTransport asset (upgradeOn asset names)
  pure (resultJson asset result.members)

def rebootOrder (name : String) : Except Failure (Asset × String) := do
  let asset ← service.findAsset name
  let ecosystemName ← requireEcosystem asset
  guardAsset asset "reboot"
  .ok (asset, ecosystemName)

def rebootOn (ecosystemName : String) (host : Transport σ) : Run Fault σ RebootRequest := do
  let ecosystem ← Run.lift (Ecosystem.ofJson (.str ecosystemName))
  ecosystem.reboot host

def rebootAsset (name : String) : Step σ Json := do
  let (asset, ecosystemName) ← Run.lift (rebootOrder service name)
  let request ← service.withTransport asset fun host => onHosts (rebootOn ecosystemName host)
  pure (resultJson asset (("deep_freeze", .bool asset.deepFreeze) :: request.members))

end FleetPatch.Web
