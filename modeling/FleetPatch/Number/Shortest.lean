import FleetPatch.Number.Binary64

/-!
# The shortest decimal text of a number

Of all decimals that read back as the number, the one with the fewest digits is
written; of two of that length the nearer one, a tie going to the even digit.
The notation is positional while the first digit stands between the fourth place
behind the point and the sixteenth before it.
-/

namespace FleetPatch.Binary64

set_option autoImplicit false

def placeFrom (top bottom : Nat) : Nat → Int → Int
  | 0, place => place
  | fuel + 1, place =>
      let below :=
        if 0 ≤ place then decide (top < bottom * Nat.pow 10 place.toNat)
        else decide (top * Nat.pow 10 (-place).toNat < bottom)
      if below then place else placeFrom top bottom fuel (place + 1)

/-- The place of the first digit: the ratio lies below `10 ^ place` and not below a tenth of it. -/
def placeOf (top bottom : Nat) : Int :=
  let bits : Int := (Nat.log2 top : Int) - (Nat.log2 bottom : Int)
  placeFrom top bottom 4 (bits * 30103 / 100000 - 1)

def inUnits (top bottom : Nat) (unit : Int) : Nat × Nat :=
  if 0 ≤ unit then (top, bottom * Nat.pow 10 unit.toNat)
  else (top * Nat.pow 10 (-unit).toNat, bottom)

/-- The better of the two neighbours on the grid of `10 ^ unit` that read back as `number`. -/
def neighbour? (number : Binary64) (top bottom : Nat) (unit : Int) : Option Nat :=
  let (scaledTop, scaledBottom) := inUnits top bottom unit
  let low := scaledTop / scaledBottom
  let rest := scaledTop % scaledBottom
  let lowReads := ofDecimal false low unit == number
  let highReads := ofDecimal false (low + 1) unit == number
  let lowFirst :=
    decide (2 * rest < scaledBottom) || (decide (2 * rest = scaledBottom) && low % 2 == 0)
  match lowReads, highReads with
  | true, true => some (if lowFirst then low else low + 1)
  | true, false => some low
  | false, true => some (low + 1)
  | false, false => none

/-- The digits and the unit of the shortest decimal, tried from `count` digits on. -/
def shortestFrom (number : Binary64) (top bottom : Nat) (place : Int) : Nat → Nat → Nat × Int
  | 0, count => ((inUnits top bottom (place - count)).1 / (inUnits top bottom (place - count)).2,
      place - count)
  | fuel + 1, count =>
      match neighbour? number top bottom (place - count) with
      | some digits => (digits, place - count)
      | none => shortestFrom number top bottom place fuel (count + 1)

def withoutEndZeros (digits : List Char) : List Char × Nat :=
  let kept := (digits.reverse.dropWhile (· == '0')).reverse
  (kept, digits.length - kept.length)

def shortestDigits (mantissa : Nat) (exponent : Int) : List Char × Int :=
  let (top, bottom) := ratio mantissa exponent
  let (value, unit) :=
    shortestFrom (.finite false mantissa exponent) top bottom (placeOf top bottom) 17 1
  let (digits, cut) := withoutEndZeros (Nat.toDigits 10 value)
  (digits, (digits.length : Int) + unit + cut)

/-- How decimal texts are written: the places of the first digit that are written positionally, and
the least count of digits in an exponent. -/
structure Layout where
  leastPlace : Int
  greatestPlace : Int
  exponentWidth : Nat

/-- Numbers from a ten-thousandth up to below `10 ^ 16` are written positionally, and an exponent
has at least two digits. -/
def plainLayout : Layout := ⟨-3, 16, 2⟩

def padded (width : Nat) (digits : List Char) : List Char :=
  List.replicate (width - digits.length) '0' ++ digits

/-- Digits with the point behind `place` of them; a whole number keeps one zero behind it. -/
def positional (digits : List Char) (place : Int) : List Char :=
  if place ≤ 0 then ['0', '.'] ++ List.replicate (-place).toNat '0' ++ digits
  else if digits.length ≤ place.toNat then
    digits ++ List.replicate (place.toNat - digits.length) '0' ++ ['.', '0']
  else digits.take place.toNat ++ ['.'] ++ digits.drop place.toNat

def exponential (format : Layout) (digits : List Char) (place : Int) : List Char :=
  let power := place - 1
  let fraction := digits.drop 1
  digits.take 1 ++ (if fraction.isEmpty then [] else '.' :: fraction) ++ ['e'] ++
    [if power < 0 then '-' else '+'] ++ padded format.exponentWidth (Nat.toDigits 10 power.natAbs)

def magnitudeText (format : Layout) (mantissa : Nat) (exponent : Int) : List Char :=
  if mantissa = 0 then ['0', '.', '0']
  else
    let (digits, place) := shortestDigits mantissa exponent
    if format.leastPlace ≤ place ∧ place ≤ format.greatestPlace then positional digits place
    else exponential format digits place

def text : Binary64 → String
  | .nan => "nan"
  | .infinite negative => if negative then "-inf" else "inf"
  | .finite negative mantissa exponent =>
      let sign := if negative then ['-'] else []
      String.ofList (sign ++ magnitudeText plainLayout mantissa exponent)

end FleetPatch.Binary64
