import FleetPatch.Inventory.Asset
import FleetPatch.Inventory.Credential

/-!
# Inventories

An inventory lists the managed assets, in the order of the document, and the
credentials that they refer to by name.
-/

namespace FleetPatch

set_option autoImplicit false

structure Inventory where
  credentials : Json
  assets : List Asset
  deriving Repr

namespace Inventory

def ofJson : Json → Except Fault Inventory
  | .obj document => do
      let entries ← (Json.memberOrNull "assets" document).elementsIfPresent
      let assets ← entries.mapM Asset.ofJson
      .ok ⟨(Json.memberOrNull "credentials" document).orElse (.obj []), assets⟩
  | _ => .error .unsupportedOperation

def count (inventory : Inventory) : Nat := inventory.assets.length

def find? (inventory : Inventory) (hostname : Json) : Option Asset :=
  inventory.assets.find? fun asset => asset.hostname.same hostname

def windows (inventory : Inventory) : Except Fault (List Asset) :=
  inventory.assets.filterM Asset.isWindows

def linux (inventory : Inventory) : Except Fault (List Asset) :=
  inventory.assets.filterM Asset.isLinux

def deepFreezeEnabled (inventory : Inventory) : List Asset :=
  inventory.assets.filter (·.deepFreeze)

/-- The unprotected Windows endpoints, with which protected ones are compared. -/
def controlEndpoints (inventory : Inventory) : Except Fault (List Asset) := do
  let windows ← inventory.windows
  .ok (windows.filter fun asset => !asset.deepFreeze && asset.role.same (.str "endpoint"))

def dockerHosts (inventory : Inventory) : List Asset := inventory.assets.filter (·.docker)

def byTag (inventory : Inventory) (tag : Json) : List Asset :=
  inventory.assets.filter (·.tagged tag)

def byRole (inventory : Inventory) (role : Json) : List Asset :=
  inventory.assets.filter fun asset => asset.role.same role

/-- The credential that a reference names, expanded; none when the name is unknown or stands for
null. -/
def credential (inventory : Inventory) (resolver : Credential.Resolver) (reference : Json) :
    Except Fault (Option Json) :=
  match inventory.credentials, reference with
  | .obj _, .arr _ | .obj _, .obj _ => .error .wrongType
  | .obj named, .str name =>
      match Json.memberOrNull name named with
      | .null => .ok none
      | value => (resolver.resolve value).map some
  | .obj _, _ => .ok none
  | _, _ => .error .unsupportedOperation

def summary (inventory : Inventory) : Except Fault String := do
  let windows ← inventory.windows
  let linux ← inventory.linux
  let control ← inventory.controlEndpoints
  .ok ("\n".intercalate [
    "Inventory Summary:",
    s!"  Total assets: {inventory.count}",
    s!"  Windows: {windows.length}",
    s!"  Linux: {linux.length}",
    s!"  Deep Freeze enabled: {inventory.deepFreezeEnabled.length}",
    s!"  Control endpoints: {control.length}",
    s!"  Docker hosts: {inventory.dockerHosts.length}"])

end Inventory

end FleetPatch
