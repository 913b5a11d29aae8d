import FleetPatch.Json.Basic
import FleetPatch.Fault
import FleetPatch.Pattern

/-!
# Packages

A package of a Linux host is either installed or an upgrade candidate.
-/

namespace FleetPatch

set_option autoImplicit false

inductive PackageStatus where
  | installed
  | upgradable
  deriving Repr, DecidableEq

namespace PackageStatus

def name : PackageStatus → String
  | .installed => "installed"
  | .upgradable => "upgradable"

def ofName? (name : String) : Option PackageStatus :=
  if name = "installed" then some .installed
  else if name = "upgradable" then some .upgradable
  else none

end PackageStatus

structure Package where
  name : String
  version : String
  architecture : String
  status : PackageStatus
  deriving Repr, DecidableEq

namespace Package

def isUpgradable (package : Package) : Bool := package.status == .upgradable

def matchedBy (package : Package) (pattern : Pattern) : Bool := pattern.selects (some package.name)

def toJson (package : Package) : Json := .obj [
  ("name", .str package.name),
  ("version", .str package.version),
  ("architecture", .str package.architecture),
  ("status", .str package.status.name)]

end Package

end FleetPatch
