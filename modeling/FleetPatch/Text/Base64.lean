/-!
# Base64

Bytes are written in groups of three as four characters of six bits each. A last
group of one or two bytes is filled up with equals signs.
-/

namespace FleetPatch.Text.Base64

set_option autoImplicit false

def alphabet : List Char :=
  "ABCDEFGHIJKLMNOPQRSTUVWXYZabcdefghijklmnopqrstuvwxyz0123456789+/".toList

def sextet (value : Nat) : Char := alphabet.getD (value % 64) 'A'

def group (first second third : Nat) : List Char :=
  let bits := (first * 256 + second) * 256 + third
  [sextet (bits / 262144), sextet (bits / 4096), sextet (bits / 64), sextet bits]

def encode : List UInt8 → List Char
  | first :: second :: third :: rest =>
      group first.toNat second.toNat third.toNat ++ encode rest
  | [first, second] => (group first.toNat second.toNat 0).take 3 ++ ['=']
  | [first] => (group first.toNat 0 0).take 2 ++ ['=', '=']
  | [] => []

end FleetPatch.Text.Base64
