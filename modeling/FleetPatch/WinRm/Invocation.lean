import FleetPatch.Text.Base64
import FleetPatch.Text.Utf16

/-!
# Invocations

A script is handed to the remote shell as one argument without blanks and
quotes: its units of sixteen bits, lower bytes first, in base64.
-/

namespace FleetPatch.WinRm

set_option autoImplicit false

def interpreter : String := "powershell"

def encodedScript (script : String) : String :=
  String.ofList (Text.Base64.encode (Text.Utf16.encodeLittle script))

def invocation (script : String) : List String :=
  ["-NoProfile", "-NonInteractive", "-EncodedCommand", encodedScript script]

end FleetPatch.WinRm
