import FleetPatch.Endpoint
import FleetPatch.Json.Bytes
import FleetPatch.Transport
import FleetPatch.Web.Response

/-!
# The service

The service answers from one inventory and works on hosts over transports that it
opens for one request. A transport is handed out only when the asset's endpoint
is known, and what is handed out is closed on every path.
-/

namespace FleetPatch.Web

set_option autoImplicit false

/-- What a service works with: the inventory, or the fault of loading it, what credentials are
expanded with, the transport to each host, and the time of day. -/
structure Service (σ : Type) where
  inventory : Except Fault Inventory
  resolver : Credential.Resolver
  hosts : String → Transport σ
  now : String

abbrev Step (σ α : Type) := Run Failure σ α

variable {σ α : Type}

def refuse (status : Nat) (message : String) : Except Failure α := .error (.refused status message)

def onHosts (run : Run Fault σ α) : Step σ α := Run.mapFault .fault run

def computing (outcome : Except Fault α) : Except Failure α := outcome.mapError .fault

namespace Service

variable (service : Service σ)

def findAsset (name : String) : Except Failure Asset := do
  let inventory ← computing service.inventory
  match inventory.find? (.str name) with
  | some asset => .ok asset
  | none => refuse 404 ("Asset not found: " ++ name)

def endpoint (asset : Asset) : Except Failure Endpoint :=
  computing do
    let inventory ← service.inventory
    inventory.endpoint service.resolver asset

/-- Does some work on the transport to an asset, which is closed in the end, also if connecting it
fails. -/
def withTransport (asset : Asset) (work : Transport σ → Step σ α) : Step σ α := do
  let _ ← Run.lift (service.endpoint asset)
  let host := service.hosts asset.hostname.text
  Run.ensuring (do
    onHosts host.connect
    work host) (onHosts host.close)

end Service

/-- The name of the asset's ecosystem, without which the asset is refused. -/
def requireEcosystem (asset : Asset) : Except Failure String := do
  match ← computing asset.ecosystem with
  | some name => .ok name
  | none => refuse 400 ("Unsupported OS: " ++ asset.os.text)

def requireWindows (asset : Asset) : Except Failure Unit := do
  unless ← computing asset.isWindows do
    refuse 400 ("Endpoint requires Windows asset, got: " ++ asset.os.text)

def requireLinux (asset : Asset) : Except Failure Unit := do
  unless ← computing asset.isLinux do
    refuse 400 ("Endpoint requires Linux asset, got: " ++ asset.os.text)

/-- The members of a request body: none of an empty body, those of an object, and of nothing else.
A body that is nested too deeply is no fault of the request. -/
def bodyMembers (body : List UInt8) : Except Failure (List (String × Json)) :=
  if body.isEmpty then .ok []
  else
    match Json.readBytes body with
    | .ok (.obj members) => .ok members
    | .error .tooDeep => computing (.error .tooDeep)
    | _ => refuse 400 "Invalid JSON in request body"

end FleetPatch.Web
