import FleetPatch.Fault
import FleetPatch.Json.Text
import FleetPatch.Text.Integer

/-!
# Converting values

A value is listed by its items, its characters or its names, and turned into an
integer by cutting off a fraction or by reading text. What cannot be listed is
of the wrong type; an infinite number is too large for any integer.
-/

namespace FleetPatch.Json

set_option autoImplicit false

def elements : Json → Except Fault (List Json)
  | .arr items => .ok items
  | .str text => .ok (text.toList.map fun character => .str (String.singleton character))
  | .obj members => .ok (members.map fun (name, _) => .str name)
  | _ => .error .wrongType

/-- The parts of a value that counts as present, and none of any other. -/
def elementsIfPresent (value : Json) : Except Fault (List Json) :=
  if value.isPresent then value.elements else .ok []

theorem elementsIfPresent_arr (items : List Json) :
    (Json.arr items).elementsIfPresent = .ok items := by
  cases items <;> rfl

def toInteger : Json → Except Fault (Option Int)
  | .bool value => .ok (some (if value then 1 else 0))
  | .int value => .ok (some value)
  | .real (.infinite _) => .error .tooLarge
  | .real value => .ok value.truncate?
  | .str text => .ok (Text.integer? text.toList)
  | _ => .ok none

/-- The trimmed text of a value that is there, unless nothing is left of it. -/
def presence? : Json → Option String
  | .null => none
  | value =>
      let text := Text.trimmed value.text
      if text = "" then none else some text

/-- The text of a string; no other value supports what strings do. -/
def asText : Json → Except Fault String
  | .str text => .ok text
  | _ => .error .unsupportedOperation

/-- Refuses members that lack one of the required names or have a name that is not known. -/
def requireNames (required known : List String) (members : List (String × Json)) :
    Except Fault Unit :=
  let names := members.map (·.1)
  if required.all names.contains && names.all known.contains then .ok () else .error .wrongType

def memberOr (other : Json) (name : String) (members : List (String × Json)) : Json :=
  (member? name members).getD other

end FleetPatch.Json
