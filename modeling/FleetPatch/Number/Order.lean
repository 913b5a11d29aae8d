import FleetPatch.Fault
import FleetPatch.Json.Basic

/-!
# Numbers compared and added

Integers, truth values and doubles are compared by their exact values. Nothing
lies before or behind what is not a number. A sum with a double is rounded once.
-/

namespace FleetPatch

set_option autoImplicit false

namespace Binary64

def ofInt (value : Int) : Binary64 := ofRatio (decide (value < 0)) value.natAbs 1

def signedRatio (negative : Bool) (mantissa : Nat) (exponent : Int) : Int × Nat :=
  let (top, bottom) := ratio mantissa exponent
  (if negative then -(top : Int) else top, bottom)

def add : Binary64 → Binary64 → Binary64
  | .finite negative mantissa exponent, .finite negative2 mantissa2 exponent2 =>
      let (top, bottom) := signedRatio negative mantissa exponent
      let (top2, bottom2) := signedRatio negative2 mantissa2 exponent2
      let sum : Int := top * bottom2 + top2 * bottom
      if sum = 0 then zero (negative && negative2)
      else ofRatio (decide (sum < 0)) sum.natAbs (bottom * bottom2)
  | .infinite negative, .infinite negative2 =>
      if negative = negative2 then .infinite negative else .nan
  | .infinite negative, .finite _ _ _ => .infinite negative
  | .finite _ _ _, .infinite negative => .infinite negative
  | _, _ => .nan

end Binary64

inductive Magnitude where
  | undefined
  | below
  | ratio (top : Int) (bottom : Nat)
  | above
  deriving Repr, DecidableEq

namespace Magnitude

def ofJson? : Json → Option Magnitude
  | .bool value => some (.ratio (if value then 1 else 0) 1)
  | .int value => some (.ratio value 1)
  | .real .nan => some .undefined
  | .real (.infinite negative) => some (if negative then .below else .above)
  | .real (.finite negative mantissa exponent) =>
      let (top, bottom) := Binary64.signedRatio negative mantissa exponent
      some (.ratio top bottom)
  | _ => none

def before : Magnitude → Magnitude → Bool
  | .ratio top bottom, .ratio top2 bottom2 => top * bottom2 < top2 * bottom
  | .below, .ratio _ _ | .below, .above | .ratio _ _, .above => true
  | _, _ => false

def notBehind (left right : Magnitude) : Bool :=
  before left right || (left != .undefined && left == right) ||
    (match left, right with
      | .ratio top bottom, .ratio top2 bottom2 => top * bottom2 == top2 * bottom
      | _, _ => false)

end Magnitude

namespace Json

def plus (value : Json) (more : Int) : Except Fault Json :=
  match value with
  | .bool value => .ok (.int ((if value then 1 else 0) + more))
  | .int value => .ok (.int (value + more))
  | .real value => .ok (.real (value.add (.ofInt more)))
  | _ => .error .wrongType

/-- The exact value of a number; nothing else can be compared. -/
def magnitude (value : Json) : Except Fault Magnitude :=
  match Magnitude.ofJson? value with
  | some magnitude => .ok magnitude
  | none => .error .wrongType

end Json

end FleetPatch
