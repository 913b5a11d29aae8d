import FleetPatch.Inventory.Basic
import FleetPatch.Ssh.Config
import FleetPatch.WinRm.Config

/-!
# Endpoints

An asset's system decides how it is reached: Windows hosts by remote management,
Linux hosts by a shell, and no others. Reaching an asset takes the credential
that it refers to.
-/

namespace FleetPatch

set_option autoImplicit false

inductive Endpoint where
  | winRm (config : WinRm.Config)
  | ssh (config : Ssh.Config)
  deriving Repr

namespace Endpoint

/-- A member of a credential, which has to be an object; another value when there is none. -/
def given (other : Json) (name : String) : Json → Except Fault Json
  | .obj members => .ok (Json.memberOr other name members)
  | _ => .error .unsupportedOperation

def ofWindows (asset : Asset) (credential : Json) : Except Fault Endpoint := do
  let username ← given (.str "") "username" credential
  let password ← given (.str "") "password" credential
  let domain ← given .null "domain" credential
  .ok (.winRm (.ofHost asset.ip username password domain))

def ofLinux (asset : Asset) (credential : Json) : Except Fault Endpoint := do
  let username ← given (.str "") "username" credential
  let keyFile ← given .null "key_file" credential
  let password ← given .null "password" credential
  .ok (.ssh { Ssh.Config.ofHost asset.ip username with privateKeyPath := keyFile, password })

def ofAsset (asset : Asset) (credential : Json) : Except Fault Endpoint := do
  let system ← (asset.os.orElse (.str "")).asText.map Text.lower
  if Asset.namesWindows system then ofWindows asset credential
  else if system = "linux" then ofLinux asset credential
  else .error (.unsupportedAsset (.system asset.os.text))

end Endpoint

def Inventory.endpoint (inventory : Inventory) (resolver : Credential.Resolver) (asset : Asset) :
    Except Fault Endpoint := do
  unless asset.credentialRef.isPresent do
    .error (.inventory (.noCredential asset.hostname.text))
  match ← inventory.credential resolver asset.credentialRef with
  | none => .error (.inventory (.unknownCredential asset.credentialRef.text))
  | some credential => Endpoint.ofAsset asset credential

end FleetPatch
