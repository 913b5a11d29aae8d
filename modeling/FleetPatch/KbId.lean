import FleetPatch.Json.Text
import FleetPatch.Text.Digit
import FleetPatch.Text.Search

/-!
# Knowledge base identifiers

Updates are known by `KB` and a number. Hosts and operators write it with or
without the letters, in any case, with blanks around either part, and in lists
joined by commas, of which the first entry counts. The digits are kept as
written.
-/

namespace FleetPatch.KbId

set_option autoImplicit false

/-- The letter K in either case, or the sign for kelvin. -/
def isK (character : Char) : Bool :=
  character = 'k' || character = 'K' || character.toNat = 0x212A

def isB (character : Char) : Bool := character = 'b' || character = 'B'

/-- The text behind the letters KB, or all of it when it does not begin with them. -/
def behindLetters : List Char → List Char
  | k :: b :: rest => if isK k && isB b then rest else k :: b :: rest
  | text => text

def digitsOf? (entry : List Char) : Option (List Char) :=
  let body := (behindLetters (entry.dropWhile Text.isBlank)).dropWhile Text.isBlank
  let digits := body.takeWhile Text.isDigit
  if !digits.isEmpty && (body.dropWhile Text.isDigit).all Text.isBlank then some digits else none

/-- The text in which an identifier is looked for: a list stands for its items' texts joined with
commas. -/
def sourceText : Json → String
  | .arr items => ",".intercalate (items.map Json.text)
  | value => value.text

def digits? (value : Json) : Option String :=
  match value with
  | .null => none
  | value =>
      (digitsOf? ((sourceText value).toList.takeWhile (· ≠ ','))).map String.ofList

def normalize? (value : Json) : Option String := (digits? value).map ("KB" ++ ·)

end FleetPatch.KbId
