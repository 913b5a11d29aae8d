import FleetPatch.Json.Reader
import FleetPatch.Text.Utf16
import FleetPatch.Text.Utf8

/-!
# JSON in bytes

JSON text comes in any of the encodings of Unicode. A byte order mark tells which
one it is, and without a mark the places of the zero bytes among the first four
do, because JSON text begins with plain characters. In every encoding the halves of
a surrogate pair may be written one by one.
-/

namespace FleetPatch.Json

set_option autoImplicit false

inductive Encoding where
  | utf8
  | utf16 (lowerFirst : Bool)
  | utf32 (lowerFirst : Bool)
  deriving Repr, DecidableEq

namespace Encoding

def ofMark? : List UInt8 → Option (Encoding × Nat)
  | 0x00 :: 0x00 :: 0xFE :: 0xFF :: _ => some (.utf32 false, 4)
  | 0xFF :: 0xFE :: 0x00 :: 0x00 :: _ => some (.utf32 true, 4)
  | 0xFE :: 0xFF :: _ => some (.utf16 false, 2)
  | 0xFF :: 0xFE :: _ => some (.utf16 true, 2)
  | 0xEF :: 0xBB :: 0xBF :: _ => some (.utf8, 3)
  | _ => none

def ofZeros : List UInt8 → Encoding
  | first :: second :: third :: fourth :: _ =>
      if first = 0 then if second = 0 then .utf32 false else .utf16 false
      else if second = 0 then
        if third = 0 && fourth = 0 then .utf32 true else .utf16 true
      else .utf8
  | [first, second] =>
      if first = 0 then .utf16 false else if second = 0 then .utf16 true else .utf8
  | _ => .utf8

/-- The units of sixteen bits that groups of four bytes write; beyond the last character there is
none. -/
def wideUnits? (lowerFirst : Bool) : List UInt8 → Option (List Nat)
  | [] => some []
  | a :: b :: c :: d :: rest =>
      let (a, b, c, d) := if lowerFirst then (d, c, b, a) else (a, b, c, d)
      let code := ((a.toNat * 256 + b.toNat) * 256 + c.toNat) * 256 + d.toNat
      if 0x10FFFF < code then none
      else
        let units := if code < 0x10000 then [code] else Text.Utf16.unitsOf (Char.ofNat code)
        (wideUnits? lowerFirst rest).map (units ++ ·)
  | _ => none

def surrogate? (first second third : UInt8) : Option Nat :=
  if first = 0xED ∧ 0xA0 ≤ second ∧ second ≤ 0xBF ∧ 0x80 ≤ third ∧ third ≤ 0xBF then
    some (0xD000 + second.toNat % 64 * 64 + third.toNat % 64)
  else none

def unitsOfParts? : List Text.Utf8.Part → Option (List Nat)
  | [] => some []
  | .character value :: rest => (unitsOfParts? rest).map (Text.Utf16.unitsOf value ++ ·)
  | .illFormed [first] :: .illFormed [second] :: .illFormed [third] :: rest =>
      match surrogate? first second third with
      | some half => (unitsOfParts? rest).map (half :: ·)
      | none => none
  | .illFormed _ :: _ => none

def units? (encoding : Encoding) (bytes : List UInt8) : Option (List Nat) :=
  match encoding with
  | .utf8 => unitsOfParts? (Text.Utf8.parts bytes)
  | .utf16 lowerFirst => Text.Utf16.unitsOfBytes? lowerFirst bytes
  | .utf32 lowerFirst => wideUnits? lowerFirst bytes

def decode? (encoding : Encoding) (bytes : List UInt8) : Option String :=
  (encoding.units? bytes).map fun units => String.ofList (Text.Utf16.characters units)

end Encoding

def textOfBytes? (bytes : List UInt8) : Option String :=
  match Encoding.ofMark? bytes with
  | some (encoding, length) => encoding.decode? (bytes.drop length)
  | none => (Encoding.ofZeros bytes).decode? bytes

/-- The value that bytes write; bytes that write no text violate the grammar. -/
def readBytes (bytes : List UInt8) : Except ReadFault Json :=
  match textOfBytes? bytes with
  | some text => read text
  | none => .error .grammar

end FleetPatch.Json
