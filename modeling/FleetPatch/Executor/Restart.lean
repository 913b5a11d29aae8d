import FleetPatch.Ecosystem
import FleetPatch.Executor.Packages
import FleetPatch.Executor.Updates

/-!
# Restarting a host of any ecosystem
-/

namespace FleetPatch.Ecosystem

set_option autoImplicit false

variable {σ : Type}

def rebootCheck : Ecosystem → String
  | .windows => Windows.rebootCheckScript
  | .packages manager => manager.rebootCheckCommand

def pendingOf : Ecosystem → Reply → Except Fault Bool
  | .windows => UpdateExecutor.pendingOf
  | .packages manager => PackageExecutor.pendingOf manager

def restartCommand : Ecosystem → String
  | .windows => Windows.restartCommand
  | .packages _ => Manager.rebootCommand

def label : Ecosystem → String
  | .windows => UpdateExecutor.label
  | .packages manager => manager.label

def rebootRequired (ecosystem : Ecosystem) (host : Transport σ) : Run Fault σ Bool :=
  match ecosystem with
  | .windows => UpdateExecutor.rebootRequired host
  | .packages manager => PackageExecutor.rebootRequired host manager

def reboot (ecosystem : Ecosystem) (host : Transport σ) : Run Fault σ RebootRequest :=
  match ecosystem with
  | .windows => UpdateExecutor.reboot host
  | .packages manager => PackageExecutor.reboot host manager

theorem rebootRequired_eq_ask (ecosystem : Ecosystem) (host : Transport σ) :
    ecosystem.rebootRequired host = host.ask ecosystem.rebootCheck ecosystem.pendingOf := by
  cases ecosystem <;> rfl

theorem reboot_eq_requestReboot (ecosystem : Ecosystem) (host : Transport σ) :
    ecosystem.reboot host = host.requestReboot ecosystem.label ecosystem.restartCommand := by
  cases ecosystem <;> rfl

end FleetPatch.Ecosystem
