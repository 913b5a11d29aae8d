/-!
# Decimal digits

Every script's decimal digits stand in runs of ten, so the run is known by its
zero. Numbers are read from digits of any script, and one number may mix them.
-/

namespace FleetPatch.Text

set_option autoImplicit false

/-- The code points of the digits zero, one for each run of ten decimal digits. -/
def digitZeros : List Nat := [
  48, 0x660, 0x6F0, 0x7C0, 0x966, 0x9E6, 0xA66, 0xAE6, 0xB66, 0xBE6, 0xC66, 0xCE6, 0xD66,
  0xDE6, 0xE50, 0xED0, 0xF20, 0x1040, 0x1090, 0x17E0, 0x1810, 0x1946, 0x19D0, 0x1A80, 0x1A90,
  0x1B50, 0x1BB0, 0x1C40, 0x1C50, 0xA620, 0xA8D0, 0xA900, 0xA9D0, 0xA9F0, 0xAA50, 0xABF0,
  0xFF10, 0x104A0, 0x10D30, 0x11066, 0x110F0, 0x11136, 0x111D0, 0x112F0, 0x11450, 0x114D0,
  0x11650, 0x116C0, 0x11730, 0x118E0, 0x11950, 0x11C50, 0x11D50, 0x11DA0, 0x16A60, 0x16AC0,
  0x16B50, 0x1D7CE, 0x1D7D8, 0x1D7E2, 0x1D7EC, 0x1D7F6, 0x1E140, 0x1E2F0, 0x1E950, 0x1FBF0]

def digitValue? (character : Char) : Option Nat :=
  let code := character.toNat
  if code < 128 then
    if 48 ≤ code ∧ code ≤ 57 then some (code - 48) else none
  else
    (digitZeros.find? fun start => start ≤ code && code < start + 10).map fun start => code - start

/-- Decimal digits of any script. -/
def isDigit (character : Char) : Bool := (digitValue? character).isSome

def isPlainDigit (character : Char) : Bool := 48 ≤ character.toNat && character.toNat ≤ 57

/-- The number that a run of digits writes; characters that are no digits count as zero. -/
def digitsValue (digits : List Char) : Nat :=
  digits.foldl (fun total digit => 10 * total + (digitValue? digit).getD 0) 0

/-- The longest run of digits that a number may be written with. -/
def digitLimit : Nat := 4300

end FleetPatch.Text
