import FleetPatch.Text.Search

/-!
# Words of the shell

A text is passed to a shell as one word. Texts of plain characters stand for
themselves; any other text stands between single quotes, and a single quote in
it between double ones.
-/

namespace FleetPatch.Text

set_option autoImplicit false

def isShellPlain (character : Char) : Bool :=
  let code := character.toNat
  (48 ≤ code && code ≤ 57) || (65 ≤ code && code ≤ 90) || (97 ≤ code && code ≤ 122) ||
    "_@%+=:,./-".toList.contains character

def shellWord (text : String) : String :=
  let characters := text.toList
  if characters.isEmpty then "''"
  else if characters.all isShellPlain then text
  else String.ofList ('\'' :: replaceAll ['\''] "'\"'\"'".toList characters ++ ['\''])

end FleetPatch.Text
