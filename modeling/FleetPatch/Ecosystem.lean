import FleetPatch.Json.Text
import FleetPatch.Package.Manager
import FleetPatch.Text.Lower

/-!
# Ecosystems

A host is patched by the Windows update agent or by a package manager. Which one
it is is given by name, in any case.
-/

namespace FleetPatch

set_option autoImplicit false

inductive Ecosystem where
  | windows
  | packages (manager : Manager)
  deriving Repr, DecidableEq

namespace Ecosystem

def name : Ecosystem → String
  | .windows => "windows"
  | .packages manager => manager.name

def ofName? (name : String) : Option Ecosystem :=
  if name = "windows" then some .windows
  else if name = "apt" then some (.packages .apt)
  else if name = "dnf" then some (.packages .dnf)
  else none

/-- The ecosystem that a value names; what does not count as present names none. -/
def ofJson (kind : Json) : Except Fault Ecosystem :=
  match ofName? (Text.lower (if kind.isPresent then kind.text else "")) with
  | some ecosystem => .ok ecosystem
  | none => .error (.unsupportedManager kind.text)

end Ecosystem

end FleetPatch
