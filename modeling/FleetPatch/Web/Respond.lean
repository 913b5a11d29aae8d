import FleetPatch.Web.Patching
import FleetPatch.Web.Reading
import FleetPatch.Web.Route
import FleetPatch.Web.Target

/-!
# Answering requests

A request is led to a resource by its method and its target and answered by one
response. All responses may be read by pages of any site.
-/

namespace FleetPatch.Web

set_option autoImplicit false

structure Request where
  method : String
  target : Target
  body : List UInt8

/-- What pages of other sites may do: the allowed sites, methods and headers. -/
def sharing : List String := ["*", "GET, POST, OPTIONS", "Content-Type"]

variable {σ : Type} (service : Service σ)

def serve (resource : Resource) (request : Request) : Step σ Json :=
  match resource with
  | .health => health service
  | .inventory => readInventory service
  | .comparison =>
      readComparison service (request.target.value? "asset1") (request.target.value? "asset2")
  | .asset name => readAsset service name
  | .status name => readStatus service name
  | .updates name => readUpdates service name
  | .availableUpdates name => readAvailable service name
  | .installation name => installUpdates service name request.body
  | .upgrade name => upgradePackages service name request.body
  | .rebootStatus name => readRebootStatus service name
  | .reboot name => rebootAsset service name
  | .file => Run.lift (refuse 404 "Not found")

def Response.headOnly (response : Response) : Response := { response with body := none }

def respond (request : Request) (hosts : σ) : Response × σ :=
  match Route.ofRequest request.method request.target.path with
  | .serve .file _ => (.bare 404, hosts)
  | .serve resource withBody =>
      let (outcome, after) := serve service resource request hosts
      let response := Response.ofOutcome outcome
      (if withBody then response else response.headOnly, after)
  | .tellMethods => (.bare 200, hosts)
  | .moved => (.bare 308, hosts)
  | .notAllowed => (.bare 405, hosts)
  | .notFound => (.bare 404, hosts)

end FleetPatch.Web
