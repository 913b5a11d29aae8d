import FleetPatch.Json.Basic
import FleetPatch.Text.Quoted

/-!
# Writing JSON text

Values are written without blanks. Quotes, backslashes and everything outside
the printable basic alphabet are escaped, characters above U+FFFF as a surrogate
pair.
-/

namespace FleetPatch.Json

set_option autoImplicit false

def unitEscape (unit : Nat) : List Char := '\\' :: 'u' :: Text.hex 4 unit

def writtenCharacter (character : Char) : List Char :=
  let code := character.toNat
  if character = '"' || character = '\\' then ['\\', character]
  else if 32 ≤ code ∧ code < 127 then [character]
  else if code < 0x10000 then unitEscape code
  else
    let offset := code - 0x10000
    unitEscape (0xD800 + offset / 1024) ++ unitEscape (0xDC00 + offset % 1024)

def writtenString (text : String) : String :=
  String.ofList ('"' :: text.toList.flatMap writtenCharacter ++ ['"'])

def writtenReal : Binary64 → String
  | .nan => "NaN"
  | .infinite negative => if negative then "-Infinity" else "Infinity"
  | value => value.text

mutual

def written : Json → String
  | .null => "null"
  | .bool value => if value then "true" else "false"
  | .int value => toString value
  | .real value => writtenReal value
  | .str value => writtenString value
  | .arr items => "[" ++ ",".intercalate (writtenItems items) ++ "]"
  | .obj members => "\x7b" ++ ",".intercalate (writtenMembers members) ++ "\x7d"

def writtenItems : List Json → List String
  | [] => []
  | item :: rest => written item :: writtenItems rest

def writtenMembers : List (String × Json) → List String
  | [] => []
  | (name, value) :: rest => (writtenString name ++ ":" ++ written value) :: writtenMembers rest

end

end FleetPatch.Json
