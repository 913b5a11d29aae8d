import FleetPatch.Json.Convert
import FleetPatch.Json.Reader

/-!
# Output of Windows scripts

A script writes one JSON value. Nothing, and what is not JSON, counts as null; an
object with an error to report stops the operation. A single record stands for a
list of one.
-/

namespace FleetPatch.Windows

set_option autoImplicit false

abbrev Entry := List (String × Json)

def loadOutput (operation : String) (stdout : Option String) : Except Fault Json :=
  let body := Text.trimmed (stdout.getD "")
  if body = "" then .ok .null
  else
    match Json.read body with
    | .error .grammar => .ok .null
    | .error (.tooManyDigits count) => .error (.invalidValue (.tooManyDigits count))
    | .error .tooDeep => .error .tooDeep
    | .ok (.obj members) =>
        let report := Json.memberOrNull "Error" members
        if report.isPresent then .error (.command (.remoteError operation report.text))
        else .ok (.obj members)
    | .ok value => .ok value

def entry? : Json → Option Entry
  | .obj members => some members
  | _ => none

/-- The records of a value: those of a list, or the one record that the value is. -/
def entries : Json → Except Fault (List Entry)
  | .null => .ok []
  | .obj members => .ok [members]
  | value => value.elements.map fun items => items.filterMap entry?

def field (name : String) (entry : Entry) : Json := Json.memberOrNull name entry

def flag (name : String) (entry : Entry) : Bool :=
  match field name entry with
  | .bool true => true
  | _ => false

end FleetPatch.Windows
