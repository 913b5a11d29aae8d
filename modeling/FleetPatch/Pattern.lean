import FleetPatch.Fault
import FleetPatch.Json.Basic
import FleetPatch.Text.Search

/-!
# Patterns for identifiers

An identifier is selected by a text that occurs in it or by a search that finds
something in it. What a search is compiled from plays no part: it is known by the
texts in which it finds something.
-/

namespace FleetPatch

set_option autoImplicit false

inductive Pattern where
  | substring (part : String)
  | search (finds : String → Bool)

/-- Whether a pattern selects an identifier; a missing identifier is never selected. -/
def Pattern.selects (pattern : Pattern) : Option String → Bool
  | none => false
  | some text =>
      match pattern with
      | .substring part => Text.contains text part
      | .search finds => finds text

/-- Whether a pattern selects a value. A text that is looked for occurs in a list as an item and in
a member set as a name; nothing else but texts can be searched. -/
def Pattern.selectsValue (pattern : Pattern) (value : Json) : Except Fault Bool :=
  match value, pattern with
  | .null, _ => .ok (pattern.selects none)
  | .str text, _ => .ok (pattern.selects (some text))
  | .arr items, .substring part => .ok (items.any fun item => item.same (.str part))
  | .obj members, .substring part => .ok ((Json.member? part members).isSome)
  | _, _ => .error .wrongType

end FleetPatch
