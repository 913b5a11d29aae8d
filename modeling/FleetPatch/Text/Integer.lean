import FleetPatch.Text.Blank
import FleetPatch.Text.Digit

/-!
# Integers written in text

An integer is a sign, which may be absent, and digits of any script, between any
two of which one underscore may stand. Blanks around it do not count, the four
information separators excepted.
-/

namespace FleetPatch.Text

set_option autoImplicit false

def isMargin (character : Char) : Bool :=
  isBlank character && !(28 ≤ character.toNat && character.toNat ≤ 31)

/-- The digits of a text in which single underscores may separate digits; `digitNeeded` says that
no underscore and no end may come next. -/
def groupedDigits? : (digitNeeded : Bool) → List Char → Option (List Char)
  | digitNeeded, [] => if digitNeeded then none else some []
  | digitNeeded, character :: rest =>
      if isDigit character then (groupedDigits? false rest).map (character :: ·)
      else if character = '_' && !digitNeeded then groupedDigits? true rest
      else none

/-- The integer that a text writes, unless it has more digits than the limit. -/
def integer? (text : List Char) : Option Int := do
  let body := ((text.dropWhile isMargin).reverse.dropWhile isMargin).reverse
  let (negative, unsigned) :=
    match body with
    | '-' :: rest => (true, rest)
    | '+' :: rest => (false, rest)
    | rest => (false, rest)
  let digits ← groupedDigits? true unsigned
  if digitLimit < digits.length then none
  else
    let value : Int := (digitsValue digits : Nat)
    some (if negative then -value else value)

end FleetPatch.Text
