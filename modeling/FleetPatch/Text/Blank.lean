/-!
# Blanks, words and lines

Text is handled as a list of characters. The blank characters are those of the
Unicode White_Space property together with the four information separators
U+001C to U+001F; a line ends at any of the mandatory breaks. Cutting at single
characters is the one primitive here: words and lines are pieces of a cut.
-/

namespace FleetPatch.Text

set_option autoImplicit false

def isBlank (character : Char) : Bool :=
  let code := character.toNat
  (9 ≤ code && code ≤ 13) || (28 ≤ code && code ≤ 32) || code == 0x85 || code == 0xA0 ||
    code == 0x1680 || (0x2000 ≤ code && code ≤ 0x200A) || code == 0x2028 || code == 0x2029 ||
    code == 0x202F || code == 0x205F || code == 0x3000

def isLineEnd (character : Char) : Bool :=
  let code := character.toNat
  (10 ≤ code && code ≤ 13) || (28 ≤ code && code ≤ 30) || code == 0x85 || code == 0x2028 ||
    code == 0x2029

/-- The pieces between the characters that `cut` selects: always one more piece than cuts, and
never none. -/
def pieces (cut : Char → Bool) : List Char → List (List Char)
  | [] => [[]]
  | character :: rest =>
      if cut character then [] :: pieces cut rest
      else
        match pieces cut rest with
        | [] => [[character]]
        | first :: others => (character :: first) :: others

def trim (text : List Char) : List Char :=
  ((text.dropWhile isBlank).reverse.dropWhile isBlank).reverse

/-- The maximal runs of characters that are not blank. -/
def words (text : List Char) : List (List Char) :=
  (pieces isBlank text).filter fun word => !word.isEmpty

/-- A carriage return before a line feed is part of the same line end. -/
def mergeReturns : List Char → List Char
  | [] => []
  | character :: rest =>
      match character, rest with
      | '\r', '\n' :: _ => mergeReturns rest
      | _, _ => character :: mergeReturns rest

/-- The lines of a text without their ends; a text that stops at a line end has no empty last
line. -/
def lines (text : List Char) : List (List Char) :=
  let parts := pieces isLineEnd (mergeReturns text)
  if parts.getLast? = some [] then parts.dropLast else parts

def trimmed (text : String) : String := String.ofList (trim text.toList)

end FleetPatch.Text
