import FleetPatch.Windows.Output

/-!
# Markers of a pending restart

Three independent places of a Windows host tell that a restart is pending; any
of them is enough.
-/

namespace FleetPatch.Windows

set_option autoImplicit false

structure RebootSignals where
  componentServicing : Bool
  windowsUpdate : Bool
  pendingFileRename : Bool
  deriving Repr, DecidableEq

namespace RebootSignals

def none : RebootSignals := ⟨false, false, false⟩

def pending (signals : RebootSignals) : Bool :=
  signals.componentServicing || signals.windowsUpdate || signals.pendingFileRename

def named (signals : RebootSignals) : List (String × Bool) := [
  ("component_servicing", signals.componentServicing),
  ("windows_update", signals.windowsUpdate),
  ("pending_file_rename", signals.pendingFileRename),
  ("pending", signals.pending)]

def toJson (signals : RebootSignals) : Json :=
  .obj (signals.named.map fun (name, value) => (name, .bool value))

def parse (stdout : Option String) : Except Fault RebootSignals := do
  match ← loadOutput "reboot check" stdout with
  | .obj report => .ok ⟨flag "ComponentBasedServicing" report, flag "WindowsUpdate" report,
      flag "PendingFileRename" report⟩
  | _ => .ok none

end RebootSignals

end FleetPatch.Windows
