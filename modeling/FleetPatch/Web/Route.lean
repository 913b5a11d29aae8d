import FleetPatch.Text.Search

/-!
# Routes

A path leads to at most one resource, and each resource has one method by which
it is read or changed. Reading can also be asked for without a body, and every
resource tells its methods. A path with repeated slashes is sent on to the one
without, if that one leads somewhere.
-/

namespace FleetPatch.Web

set_option autoImplicit false

inductive Resource where
  | health
  | inventory
  | comparison
  | asset (name : String)
  | status (name : String)
  | updates (name : String)
  | availableUpdates (name : String)
  | installation (name : String)
  | upgrade (name : String)
  | rebootStatus (name : String)
  | reboot (name : String)
  | file
  deriving Repr, DecidableEq

inductive Access where
  | read
  | change
  deriving Repr, DecidableEq

namespace Resource

def access : Resource → Access
  | .installation _ | .upgrade _ | .reboot _ => .change
  | _ => .read

def ofAssetSteps? (name : String) : List String → Option Resource
  | [] => some (.asset name)
  | ["status"] => some (.status name)
  | ["updates"] => some (.updates name)
  | ["updates", "available"] => some (.availableUpdates name)
  | ["updates", "install"] => some (.installation name)
  | ["packages", "upgrade"] => some (.upgrade name)
  | ["reboot-status"] => some (.rebootStatus name)
  | ["reboot"] => some (.reboot name)
  | _ => none

/-- Whether the steps behind the root of the files name a file: it does not begin with a slash and
has no line feed behind its first character. -/
def namesFile (steps : List String) : Bool :=
  match ("/".intercalate steps).toList with
  | [] => false
  | first :: rest => first != '/' && !rest.contains '\n'

def ofSteps? : List String → Option Resource
  | ["api", "health"] => some .health
  | ["api", "inventory"] => some .inventory
  | ["api", "compare"] => some .comparison
  | "api" :: "assets" :: name :: rest => if name = "" then none else ofAssetSteps? name rest
  | "static" :: rest => if namesFile rest then some .file else none
  | _ => none

def ofPath? (path : List Char) : Option Resource :=
  match Text.pieces (· == '/') path with
  | [] :: steps => ofSteps? (steps.map String.ofList)
  | _ => none

end Resource

inductive Route where
  | serve (resource : Resource) (withBody : Bool)
  | tellMethods
  | moved
  | notAllowed
  | notFound
  deriving Repr, DecidableEq

namespace Route

def ofMethod (method : String) (resource : Resource) : Route :=
  if method = "OPTIONS" then .tellMethods
  else
    match resource.access with
    | .read =>
        if method = "GET" then .serve resource true
        else if method = "HEAD" then .serve resource false
        else .notAllowed
    | .change => if method = "POST" then .serve resource true else .notAllowed

def mergeSlashes : List Char → List Char
  | [] => []
  | character :: rest =>
      if character = '/' ∧ rest.head? = some '/' then mergeSlashes rest
      else character :: mergeSlashes rest

/-- What becomes of a request with an upper case method. A path that does not lead to where the
method can be used is tried once more with its slashes merged. -/
def ofRequest (method path : String) : Route :=
  let first := (Resource.ofPath? path.toList).map (ofMethod method)
  match first with
  | some .notAllowed | none =>
      match (Resource.ofPath? (mergeSlashes path.toList)).map (ofMethod method) with
      | none => first.getD .notFound
      | some .notAllowed => .notAllowed
      | some _ => .moved
  | some route => route

end Route

end FleetPatch.Web
