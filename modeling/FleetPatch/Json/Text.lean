import FleetPatch.Json.Basic
import FleetPatch.Text.Quoted

/-!
# The text of a value

Messages show values: a string stands for itself, anything else is written with
its parts, and strings inside lists and member sets are quoted.
-/

namespace FleetPatch.Json

set_option autoImplicit false

structure Spelling where
  nothing : String
  yes : String
  no : String

def spelling : Spelling := ⟨"None", "True", "False"⟩

mutual

def quotedText : Json → String
  | .null => spelling.nothing
  | .bool value => if value then spelling.yes else spelling.no
  | .int value => toString value
  | .real value => value.text
  | .str value => Text.quoted value
  | .arr items => "[" ++ ", ".intercalate (itemTexts items) ++ "]"
  | .obj members => "\x7b" ++ ", ".intercalate (memberTexts members) ++ "\x7d"

def itemTexts : List Json → List String
  | [] => []
  | item :: rest => quotedText item :: itemTexts rest

def memberTexts : List (String × Json) → List String
  | [] => []
  | (name, value) :: rest => (Text.quoted name ++ ": " ++ quotedText value) :: memberTexts rest

end

/-- Every integer is written here, however long it is. What is read has no more digits than
`Text.digitLimit`, so that no value of a document has one for which there would be no text. -/
def text : Json → String
  | .str value => value
  | other => quotedText other

end FleetPatch.Json
