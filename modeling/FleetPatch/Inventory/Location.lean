import FleetPatch.Inventory.Basic
import FleetPatch.Json.Reader
import FleetPatch.Path

/-!
# Where an inventory is kept

An inventory is read from a file: the one that is asked for, or else the one that
the environment names, or else the one below the installation. A file that is
missing or is no JSON has a fault of its own; a path that the system refuses has
the system's.
-/

namespace FleetPatch.Inventory

set_option autoImplicit false

inductive Document where
  | text (content : String)
  | directory
  deriving Repr, DecidableEq

/-- What is found at the plain form of each path, if anything is. -/
abbrev Files := String → Option Document

def locationVariable : String := "PATCHPILOT_INVENTORY"

def defaultLocation (installation : String) (environment : Environment) : String :=
  Path.plain ((environment.value? locationVariable).getD (installation ++ "/config/inventory.json"))

/-- The path to read: the one asked for, unless it is empty, or the default one. -/
def location (installation : String) (environment : Environment) : Option String → String
  | some path =>
      if path = "" then defaultLocation installation environment else Path.plain path
  | none => defaultLocation installation environment

def ofText (path content : String) : Except Fault Inventory :=
  match Json.read content with
  | .ok document => ofJson document
  | .error .grammar => .error (.inventory (.invalidDocument path))
  | .error (.tooManyDigits count) => .error (.invalidValue (.tooManyDigits count))
  | .error .tooDeep => .error .tooDeep

def load (files : Files) (path : String) : Except Fault Inventory :=
  if Path.refused (fun place => files place == some .directory) path then
    .error (.foreign .system "")
  else
    match files path with
    | some (.text content) => ofText path content
    | some .directory => .error (.foreign .directory "")
    | none => .error (.inventory (.noFile path))

end FleetPatch.Inventory
