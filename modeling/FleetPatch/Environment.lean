import FleetPatch.Fault
import FleetPatch.Run
import FleetPatch.Text.Search

/-!
# Environments

An environment holds variables by name. A file of assignments, one a line, adds
variables and never changes one that is set; an assignment without a name stops
the reading and leaves what was added before.
-/

namespace FleetPatch

set_option autoImplicit false

abbrev Environment := List (String × String)

namespace Environment

def value? (name : String) (environment : Environment) : Option String := environment.lookup name

def isStorable (text : String) : Bool := text.toList.all fun character => character.toNat != 0

def setDefault (name value : String) : Run Fault Environment Unit := do
  let now ← Run.state
  if (now.value? name).isNone then
    if !isStorable name || !isStorable value then Run.fail (.invalidValue .embeddedNul)
    else if name = "" then Run.fail (.foreign .system "")
    else Run.update (· ++ [(name, value)])

/-- The name and the value of a line; blank lines, comments and lines without an equals sign assign
nothing. -/
def assignment? (line : List Char) : Option (String × String) :=
  let body := Text.trim line
  if body.head? = some '#' then none
  else
    (Text.cutAt? ['='] body).map fun (name, value) =>
      (String.ofList (Text.trim name), String.ofList (Text.trim value))

def assignments (text : String) : List (String × String) :=
  (Text.pieces (fun character => character = '\n' || character = '\r') text.toList).filterMap
    assignment?

def load (file : Option String) : Run Fault Environment Unit :=
  (assignments (file.getD "")).forM fun (name, value) => setDefault name value

end Environment

end FleetPatch
