import FleetPatch.Ecosystem
import FleetPatch.Json.Convert

/-!
# Assets

An asset is a managed host. Its fields are kept as the inventory gives them;
what a field has to be is decided where it is used.
-/

namespace FleetPatch

set_option autoImplicit false

structure Asset where
  hostname : Json
  ip : Json
  os : Json
  osVersion : Json
  role : Json
  credentialRef : Json
  tags : List Json
  deepFreeze : Bool
  docker : Bool
  packageManager : Json
  deriving Repr

namespace Asset

def required (name : String) (entry : List (String × Json)) : Except Fault Json :=
  match Json.member? name entry with
  | some value => .ok value
  | none => .error (.inventory (.missingField (Text.quoted name) (Json.quotedText (.obj entry))))

def ofJson : Json → Except Fault Asset
  | .obj entry => do
      let hostname ← required "hostname" entry
      let ip ← required "ip" entry
      let os ← required "os" entry
      let tags ← (Json.memberOrNull "tags" entry).elementsIfPresent
      .ok {
        hostname, ip, os, tags
        osVersion := Json.memberOrNull "os_version" entry
        role := Json.memberOrNull "role" entry
        credentialRef := Json.memberOrNull "credential_ref" entry
        deepFreeze := (Json.memberOrNull "deep_freeze" entry).isPresent
        docker := (Json.memberOrNull "docker" entry).isPresent
        packageManager := Json.memberOrNull "package_manager" entry }
  | _ => .error .wrongType

def system (asset : Asset) : Except Fault String := asset.os.asText.map Text.lower

def namesWindows (system : String) : Bool := "windows".toList.isPrefixOf system.toList

def isWindows (asset : Asset) : Except Fault Bool := asset.system.map namesWindows

def isLinux (asset : Asset) : Except Fault Bool := asset.system.map (· == "linux")

/-- The name of the asset's ecosystem: Linux assets have the one of their package manager, which is
apt unless given, and assets of other systems have none. -/
def ecosystem (asset : Asset) : Except Fault (Option String) := do
  if ← asset.isWindows then .ok (some "windows")
  else if ← asset.isLinux then do
    let manager ← (asset.packageManager.orElse (.str "apt")).asText
    .ok (some (Text.lower manager))
  else .ok none

def tagged (asset : Asset) (tag : Json) : Bool := asset.tags.any (·.same tag)

def members (asset : Asset) : List (String × Json) := [
  ("name", asset.hostname),
  ("ip", asset.ip),
  ("os", asset.os),
  ("os_version", asset.osVersion),
  ("role", asset.role),
  ("credential_id", asset.credentialRef),
  ("deep_freeze", .bool asset.deepFreeze),
  ("package_manager", asset.packageManager),
  ("tags", .arr asset.tags)]

def text (asset : Asset) : String :=
  asset.hostname.text ++ " (" ++ asset.ip.text ++ ") - " ++ asset.os.text

end Asset

end FleetPatch
