/-!
# Text in units of sixteen bits

A character above U+FFFF is written as two units, a high and a low surrogate. A
unit is two bytes, in either order.
-/

namespace FleetPatch.Text.Utf16

set_option autoImplicit false

def unitsOf (character : Char) : List Nat :=
  let code := character.toNat
  if code < 0x10000 then [code]
  else [0xD800 + (code - 0x10000) / 1024, 0xDC00 + (code - 0x10000) % 1024]

def units (text : String) : List Nat := text.toList.flatMap unitsOf

def littleEndian (unit : Nat) : List UInt8 := [UInt8.ofNat (unit % 256), UInt8.ofNat (unit / 256)]

def encodeLittle (text : String) : List UInt8 := (units text).flatMap littleEndian

def isHigh (unit : Nat) : Bool := 0xD800 ≤ unit && unit ≤ 0xDBFF

def isLow (unit : Nat) : Bool := 0xDC00 ≤ unit && unit ≤ 0xDFFF

/-- The characters of units; half of a pair on its own is the replacement character. -/
def characters : List Nat → List Char
  | [] => []
  | [unit] => [if isHigh unit || isLow unit then Char.ofNat 0xFFFD else Char.ofNat unit]
  | unit :: next :: rest =>
      if isHigh unit then
        if isLow next then
          Char.ofNat (0x10000 + (unit - 0xD800) * 1024 + (next - 0xDC00)) :: characters rest
        else Char.ofNat 0xFFFD :: characters (next :: rest)
      else if isLow unit then Char.ofNat 0xFFFD :: characters (next :: rest)
      else Char.ofNat unit :: characters (next :: rest)

def unitsOfBytes? (lowerFirst : Bool) : List UInt8 → Option (List Nat)
  | [] => some []
  | [_] => none
  | first :: second :: rest =>
      let unit :=
        if lowerFirst then first.toNat + 256 * second.toNat else 256 * first.toNat + second.toNat
      (unitsOfBytes? lowerFirst rest).map (unit :: ·)

end FleetPatch.Text.Utf16
