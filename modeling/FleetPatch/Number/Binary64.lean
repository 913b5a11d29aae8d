/-!
# Binary numbers of double width

A finite number is an exact product of an integer mantissa and a power of two.
Every number is made by rounding an exact ratio to the nearest one, a tie going
to the even mantissa, so each operation has one rounding and a plain meaning in
the rationals.
-/

namespace FleetPatch

set_option autoImplicit false

/-- A double: not a number, an infinity, or `mantissa * 2 ^ exponent` with a sign. Numbers that
rounding makes have a mantissa below `2 ^ 53` and an exponent of at least -1074, and the mantissa
is at least `2 ^ 52` unless the exponent is -1074. -/
inductive Binary64 where
  | nan
  | infinite (negative : Bool)
  | finite (negative : Bool) (mantissa : Nat) (exponent : Int)
  deriving Repr, DecidableEq, Inhabited

namespace Binary64

/-- The integer nearest to `numerator / denominator`; a tie goes to the even one. -/
def roundDiv (numerator denominator : Nat) : Nat :=
  let whole := numerator / denominator
  let rest := numerator % denominator
  if 2 * rest < denominator then whole
  else if denominator < 2 * rest then whole + 1
  else whole + whole % 2

def leastExponent : Int := -1074

def greatestExponent : Int := 971

def zero (negative : Bool) : Binary64 := .finite negative 0 leastExponent

/-- `numerator / denominator` divided by `2 ^ exponent`, as a numerator and a denominator. -/
def scaled (numerator denominator : Nat) (exponent : Int) : Nat × Nat :=
  if 0 ≤ exponent then (numerator, denominator * Nat.pow 2 exponent.toNat)
  else (numerator * Nat.pow 2 (-exponent).toNat, denominator)

/-- The exponent at which the ratio has a mantissa of 53 bits, or the least exponent. -/
def exponentOf (numerator denominator : Nat) : Int :=
  let estimate : Int := (Nat.log2 numerator : Int) - (Nat.log2 denominator : Int) - 52
  let (top, bottom) := scaled numerator denominator estimate
  let fitted := if top / bottom < Nat.pow 2 52 then estimate - 1 else estimate
  if fitted < leastExponent then leastExponent else fitted

/-- The number nearest to `numerator / denominator`, where the denominator is positive; a tie goes
to the even mantissa, and what rounds beyond the largest finite number is infinite. -/
def ofRatio (negative : Bool) (numerator denominator : Nat) : Binary64 :=
  if numerator = 0 then zero negative
  else
    let exponent := exponentOf numerator denominator
    let (top, bottom) := scaled numerator denominator exponent
    let mantissa := roundDiv top bottom
    let (mantissa, exponent) :=
      if mantissa = Nat.pow 2 53 then (Nat.pow 2 52, exponent + 1) else (mantissa, exponent)
    if greatestExponent < exponent then .infinite negative
    else .finite negative mantissa exponent

def decimalLength (value : Nat) : Nat := if value = 0 then 0 else (Nat.toDigits 10 value).length

/-- The number nearest to `digits * 10 ^ exponent`. Magnitudes beyond every finite number or below
half the least one are decided by their length alone. -/
def ofDecimal (negative : Bool) (digits : Nat) (exponent : Int) : Binary64 :=
  if digits = 0 then zero negative
  else
    let magnitude := (decimalLength digits : Int) + exponent
    if 310 < magnitude then .infinite negative
    else if magnitude < -330 then zero negative
    else if 0 ≤ exponent then ofRatio negative (digits * Nat.pow 10 exponent.toNat) 1
    else ofRatio negative digits (Nat.pow 10 (-exponent).toNat)

def ratio (mantissa : Nat) (exponent : Int) : Nat × Nat :=
  if 0 ≤ exponent then (mantissa * Nat.pow 2 exponent.toNat, 1)
  else (mantissa, Nat.pow 2 (-exponent).toNat)

def truncate? : Binary64 → Option Int
  | .finite negative mantissa exponent =>
      let (top, bottom) := ratio mantissa exponent
      let whole : Int := ((top / bottom : Nat) : Int)
      some (if negative then -whole else whole)
  | _ => none

def toInt? : Binary64 → Option Int
  | .finite negative mantissa exponent =>
      let (top, bottom) := ratio mantissa exponent
      if top % bottom = 0 then
        let whole : Int := ((top / bottom : Nat) : Int)
        some (if negative then -whole else whole)
      else none
  | _ => none

/-- Equality as numbers: both zeros are one number and nothing equals what is not a number. -/
def sameNumber : Binary64 → Binary64 → Bool
  | .finite _ 0 _, .finite _ 0 _ => true
  | .nan, _ => false
  | left, right => left == right

def isZero : Binary64 → Bool
  | .finite _ 0 _ => true
  | _ => false

/-- The number rounded to two decimal places: the exact value is taken to the nearest hundredth,
a tie going to the even one, and the hundredth to the nearest number. -/
def roundToHundredths : Binary64 → Binary64
  | .finite negative mantissa exponent =>
      let (top, bottom) := ratio mantissa exponent
      ofRatio negative (roundDiv (100 * top) bottom) 100
  | other => other

def divide? (dividend : Int) (divisor : Nat) : Option Binary64 :=
  match ofRatio (decide (dividend < 0)) dividend.natAbs divisor with
  | .infinite _ => none
  | quotient => some quotient

end Binary64

end FleetPatch
