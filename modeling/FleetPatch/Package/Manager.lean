import FleetPatch.Package.Apt
import FleetPatch.Package.Dnf
import FleetPatch.Text.ShellWord
import FleetPatch.Transport

/-!
# Package managers

A package manager is a set of commands and the readings of their output. A batch
of upgrades that exits with an error is a result like any other, only not a
successful one.
-/

namespace FleetPatch

set_option autoImplicit false

inductive Manager where
  | apt
  | dnf
  deriving Repr, DecidableEq

structure UpgradeResult where
  success : Bool
  count : Nat
  names : List String
  stdout : String
  stderr : String
  deriving Repr, DecidableEq

namespace UpgradeResult

/-- The error text is shown when the batch failed and said something. -/
def members (result : UpgradeResult) : List (String × Json) :=
  [("succeeded", .bool result.success),
    ("upgraded_count", .int result.count),
    ("upgraded_packages", .arr (result.names.map Json.str))] ++
  if !result.success && result.stderr != "" then [("error", .str result.stderr)] else []

end UpgradeResult

namespace Manager

def name : Manager → String
  | .apt => "apt"
  | .dnf => "dnf"

def label : Manager → String
  | .apt => "APT"
  | .dnf => "DNF"

def installedCommand : Manager → String
  | .apt =>
      "dpkg-query -W -f='$\x7bPackage\x7d\\t$\x7bVersion\x7d\\t$\x7bArchitecture\x7d\\t" ++
        "$\x7bStatus\x7d\\n'"
  | .dnf => "dnf list installed --quiet 2>/dev/null | tail -n +2"

def upgradableCommand : Manager → String
  | .apt => "apt list --upgradable 2>/dev/null | tail -n +2"
  | .dnf => "dnf check-update --quiet 2>/dev/null || true"

def upgradeAllCommand : Manager → String
  | .apt => "sudo DEBIAN_FRONTEND=noninteractive apt-get upgrade -y 2>&1"
  | .dnf => "dnf upgrade -y 2>&1"

def upgradeLead : Manager → String
  | .apt => "sudo DEBIAN_FRONTEND=noninteractive apt-get install -y --only-upgrade "
  | .dnf => "dnf upgrade -y "

/-- Upgrades the named packages, each name one word of the shell. -/
def upgradeCommand (manager : Manager) (names : List String) : String :=
  manager.upgradeLead ++ " ".intercalate (names.map Text.shellWord) ++ " 2>&1"

/-- Prints `true` when a restart is pending and `false` otherwise. -/
def rebootCheckCommand : Manager → String
  | .apt => "test -f /var/run/reboot-required && echo true || echo false"
  | .dnf =>
      "if command -v needs-restarting > /dev/null 2>&1; then " ++
        "needs-restarting -r > /dev/null 2>&1 && echo false || echo true; " ++ "else echo false; fi"

def rebootCommand : String := "sudo reboot"

def installed (manager : Manager) (output : String) : List Package :=
  match manager with
  | .apt => Apt.installed output
  | .dnf => Dnf.listing .installed output

def upgradable (manager : Manager) (output : String) : List Package :=
  match manager with
  | .apt => Apt.upgradable output
  | .dnf => Dnf.listing .upgradable output

def upgradedNames (manager : Manager) (output : String) : List String :=
  match manager with
  | .apt => Apt.upgradedNames output
  | .dnf => Dnf.upgradedNames output

/-- The number of upgraded packages: the stated one, or that of the names. -/
def upgradedCount (manager : Manager) (output : String) (names : List String) :
    Except Fault Nat :=
  match manager with
  | .apt => (Apt.statedCount output).map fun count => count.getD names.length
  | .dnf => .ok names.length

def upgradeResult (manager : Manager) (reply : Reply) : Except Fault UpgradeResult := do
  let stdout := reply.stdout.getD ""
  let names := manager.upgradedNames stdout
  let count ← manager.upgradedCount stdout names
  .ok ⟨reply.succeeded, count, names, stdout, reply.stderr.getD ""⟩

end Manager

end FleetPatch
