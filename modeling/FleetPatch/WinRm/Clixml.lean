import FleetPatch.Text.Blank
import FleetPatch.Text.Search

/-!
# Error streams in CLIXML

A remote shell writes its errors as elements of an XML document behind a marker.
The error text is what stands in the elements of the error stream, with the
escaped line ends put back.
-/

namespace FleetPatch.WinRm.Clixml

set_option autoImplicit false

def marker : List Char := "#< CLIXML".toList

def opening : List Char := "<S S=\"Error\">".toList

def closing : List Char := "</S>".toList

def escapedLineEnd : List Char := "_x000D__x000A_".toList

/-- The contents of the error elements, each up to the next closing tag; `skip` counts the
characters of the element just read that are still to be passed over. -/
def elementsFrom : Nat → List Char → List (List Char)
  | _, [] => []
  | skip + 1, _ :: rest => elementsFrom skip rest
  | 0, character :: rest =>
      match (Text.after? opening (character :: rest)).bind (Text.cutAt? closing) with
      | some (content, _) =>
          content :: elementsFrom (opening.length + content.length + closing.length - 1) rest
      | none => elementsFrom 0 rest

def elements (text : List Char) : List (List Char) := elementsFrom 0 text

/-- The text of an error stream; a stream without the marker is its own text. -/
def errorText (stream : String) : String :=
  let text := stream.toList
  if marker.isPrefixOf text then
    let lines := (elements text).map (Text.replaceAll escapedLineEnd ['\n'])
    String.ofList (Text.trim lines.flatten)
  else stream

end FleetPatch.WinRm.Clixml
