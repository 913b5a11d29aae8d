import FleetPatch.Query.Keys
import FleetPatch.Executor.Restart
import FleetPatch.Web.Service

/-!
# Reading resources

Reading a resource lists, compares and checks hosts and changes nothing on them.
The status of an asset is told also when it cannot be reached.
-/

namespace FleetPatch.Web

set_option autoImplicit false

open Windows

variable {σ : Type} (service : Service σ)

def health : Step σ Json :=
  pure (.obj [("status", .str "ok"), ("timestamp", .str service.now)])

def readInventory : Step σ Json := do
  let inventory ← Run.lift (computing service.inventory)
  let assets := inventory.assets.map fun asset => Json.obj asset.members
  pure (.obj [("assets", .arr assets), ("count", .int assets.length)])

def readAsset (name : String) : Step σ Json := do
  let asset ← Run.lift (service.findAsset name)
  pure (.obj asset.members)

/-- The command by which a host shows that it is there. -/
def probeCommand : String := "echo test"

def statusMembers (asset : Asset) (status : String) : List (String × Json) :=
  [("name", asset.hostname), ("status", .str status)]

/-- Whether an asset can be reached; a fault of this library is the answer that it cannot. -/
def readStatus (name : String) : Step σ Json := do
  let asset ← Run.lift (service.findAsset name)
  Run.orHandle (do
    let reply ← service.withTransport asset fun host => onHosts (host.execute probeCommand)
    pure (.obj (statusMembers asset (if reply.succeeded then "online" else "offline"))))
    fun failure =>
      match failure with
      | .fault fault =>
          if fault.isOwn then
            pure (.obj (statusMembers asset "offline" ++ [("error", .str fault.message)]))
          else Run.fail failure
      | .refused _ _ => Run.fail failure

def updatesJson (asset : Asset) (updates : List InstalledUpdate) : Json := .obj [
  ("asset", asset.hostname),
  ("os", asset.os),
  ("updates", .arr (updates.map InstalledUpdate.toJson)),
  ("summary", .obj [
    ("total", .int updates.length),
    ("security", .int (updates.filter InstalledUpdate.isSecurity).length)])]

def packagesJson (asset : Asset) (ecosystem : String) (installed upgradable : List Package) :
    Json :=
  .obj [
    ("asset", asset.hostname),
    ("os", asset.os),
    ("package_manager", .str ecosystem),
    ("packages", .obj [
      ("installed_count", .int installed.length),
      ("upgradable_count", .int upgradable.length),
      ("upgradable", .arr (upgradable.map Package.toJson))])]

/-- The listing of a host: its updates, or its packages with the upgrade candidates asked for
first. A host that is listed by updates has to be a Windows host. -/
def listHost (asset : Asset) (name : String) (host : Transport σ) : Run Fault σ Json := do
  match ← Run.lift (Ecosystem.ofJson (.str name)) with
  | .windows => do
      unless ← Run.lift asset.isWindows do Run.fail .unsupportedOperation
      let updates ← Run.withFresh none (UpdateQuery.fetch host false)
      pure (updatesJson asset updates)
  | .packages manager =>
      Run.withFresh .empty do
        let upgradable ← PackageQuery.upgradable host manager false
        let installed ← PackageQuery.installed host manager false
        pure (packagesJson asset name installed upgradable)

def readUpdates (name : String) : Step σ Json := do
  let asset ← Run.lift (service.findAsset name)
  let ecosystem ← Run.lift (requireEcosystem asset)
  service.withTransport asset fun host => onHosts (listHost asset ecosystem host)

def comparisonLimit : Nat := 100

def comparisonJson (first second : Asset) (sort : String) (comparison : Comparison String) : Json :=
  let shown (keys : List String) : Json := .arr ((keys.take comparisonLimit).map Json.str)
  .obj [
    ("asset1", first.hostname),
    ("asset2", second.hostname),
    ("type", .str sort),
    ("comparison", .obj [
      ("common", shown comparison.common),
      ("only_in_first", shown comparison.onlyFirst),
      ("only_in_second", shown comparison.onlySecond)]),
    ("summary", .obj [
      ("common_count", .int comparison.common.length),
      ("only_first_count", .int comparison.onlyFirst.length),
      ("only_second_count", .int comparison.onlySecond.length),
      ("identical", .bool comparison.identical)])]

/-- Compares two hosts by their keys; both ecosystems are looked up before either host lists. -/
def compareHosts (firstName secondName : String) (first second : Transport σ) :
    Run Fault σ (Comparison String) := do
  let left ← Run.lift (Ecosystem.ofJson (.str firstName))
  let right ← Run.lift (Ecosystem.ofJson (.str secondName))
  Comparison.ofRuns (left.keys first) (right.keys second)

structure ComparisonOrder where
  first : Asset
  second : Asset
  firstEcosystem : String
  secondEcosystem : String
  sort : String

/-- The two assets to compare, of which both are Windows assets or neither is. -/
def comparisonOrder (first second : Option String) : Except Failure ComparisonOrder := do
  let firstName := first.getD ""
  let secondName := second.getD ""
  if firstName = "" ∨ secondName = "" then refuse 400 "Must specify asset1 and asset2"
  let firstAsset ← service.findAsset firstName
  let secondAsset ← service.findAsset secondName
  let firstEcosystem ← requireEcosystem firstAsset
  let secondEcosystem ← requireEcosystem secondAsset
  let firstWindows ← computing firstAsset.isWindows
  let secondWindows ← computing secondAsset.isWindows
  if firstWindows ≠ secondWindows then refuse 400 "Cannot compare Windows and Linux assets"
  .ok {
    first := firstAsset
    second := secondAsset
    firstEcosystem
    secondEcosystem
    sort := if firstWindows then "windows_updates" else "linux_packages" }

/-- Compares two assets, the second being connected while the first is. -/
def readComparison (first second : Option String) : Step σ Json := do
  let order ← Run.lift (comparisonOrder service first second)
  let comparison ← service.withTransport order.first fun firstHost =>
    service.withTransport order.second fun secondHost =>
      onHosts (compareHosts order.firstEcosystem order.secondEcosystem firstHost secondHost)
  pure (comparisonJson order.first order.second order.sort comparison)

def availableJson (asset : Asset) (updates : List AvailableUpdate) (pending : Bool) :
    Except Fault Json := do
  let shown ← updates.mapM AvailableUpdate.toJson
  let security ← updates.filterM AvailableUpdate.isSecurity
  .ok (.obj [
    ("asset", asset.hostname),
    ("available_updates", .arr shown),
    ("summary", .obj [
      ("total", .int updates.length),
      ("security", .int security.length),
      ("downloaded", .int (updates.filter (·.isDownloaded)).length)]),
    ("reboot_pending", .bool pending)])

def readAvailable (name : String) : Step σ Json := do
  let asset ← Run.lift (service.findAsset name)
  Run.lift (requireWindows asset)
  let (updates, pending) ← service.withTransport asset fun host => onHosts do
    let updates ← UpdateExecutor.search host
    let pending ← UpdateExecutor.rebootRequired host
    pure (updates, pending)
  Run.lift (computing (availableJson asset updates pending))

def readRebootStatus (name : String) : Step σ Json := do
  let asset ← Run.lift (service.findAsset name)
  let ecosystemName ← Run.lift (requireEcosystem asset)
  let pending ← service.withTransport asset fun host => onHosts do
    let ecosystem ← Run.lift (Ecosystem.ofJson (.str ecosystemName))
    ecosystem.rebootRequired host
  pure (.obj ([("asset", asset.hostname), ("reboot_required", .bool pending)] ++
    if asset.deepFreeze then [("deep_freeze", .bool true)] else []))

end FleetPatch.Web
