/-!
# Text as bytes in UTF-8

Bytes are read as a sequence of characters and of ill-formed parts. An
ill-formed part is a maximal beginning of a character that the next byte does
not continue, or a single byte that begins none, so every byte belongs to
exactly one part, and dropping and replacing ill-formed input are functions of
the same sequence.
-/

namespace FleetPatch.Text.Utf8

set_option autoImplicit false

/-- A part of a byte sequence: a character, or bytes that form none. -/
inductive Part where
  | character (value : Char)
  | illFormed (bytes : List UInt8)
  deriving Repr, DecidableEq

/-- The least and greatest second byte that may follow a lead byte, and how many bytes follow the
lead byte in all. -/
def lead? (byte : UInt8) : Option (Nat × Nat × Nat) :=
  let value := byte.toNat
  if 0xC2 ≤ value ∧ value ≤ 0xDF then some (0x80, 0xBF, 1)
  else if value = 0xE0 then some (0xA0, 0xBF, 2)
  else if value = 0xED then some (0x80, 0x9F, 2)
  else if 0xE1 ≤ value ∧ value ≤ 0xEF then some (0x80, 0xBF, 2)
  else if value = 0xF0 then some (0x90, 0xBF, 3)
  else if 0xF1 ≤ value ∧ value ≤ 0xF3 then some (0x80, 0xBF, 3)
  else if value = 0xF4 then some (0x80, 0x8F, 3)
  else none

/-- A character that has begun: the bytes read so far, latest first, the bits they carry, the
bounds of the next byte and how many bytes are owed. -/
structure Pending where
  bytes : List UInt8
  bits : Nat
  low : Nat
  high : Nat
  owed : Nat

/-- What a single byte does when no character has begun: it is a part of its own or begins a
character. -/
def start (byte : UInt8) : Part ⊕ Pending :=
  if byte.toNat < 0x80 then .inl (.character (Char.ofNat byte.toNat))
  else
    match lead? byte with
    | none => .inl (.illFormed [byte])
    | some (low, high, owed) =>
        let span := if owed = 1 then 0x20 else if owed = 2 then 0x10 else 0x08
        .inr ⟨[byte], byte.toNat % span, low, high, owed⟩

/-- The parts of a byte sequence when a character may have begun before it. -/
def partsFrom : Option Pending → List UInt8 → List Part
  | none, [] => []
  | some pending, [] => [.illFormed pending.bytes.reverse]
  | none, byte :: rest =>
      match start byte with
      | .inl part => part :: partsFrom none rest
      | .inr pending => partsFrom (some pending) rest
  | some pending, byte :: rest =>
      if pending.low ≤ byte.toNat && byte.toNat ≤ pending.high then
        let bits := pending.bits * 64 + byte.toNat % 64
        if pending.owed ≤ 1 then .character (Char.ofNat bits) :: partsFrom none rest
        else partsFrom (some ⟨byte :: pending.bytes, bits, 0x80, 0xBF, pending.owed - 1⟩) rest
      else
        .illFormed pending.bytes.reverse ::
          match start byte with
          | .inl part => part :: partsFrom none rest
          | .inr next => partsFrom (some next) rest

def parts (bytes : List UInt8) : List Part := partsFrom none bytes

def Part.character? : Part → Option Char
  | .character value => some value
  | .illFormed _ => none

/-- The text of the bytes without what is ill-formed. -/
def decodeIgnoring (bytes : List UInt8) : String :=
  String.ofList ((parts bytes).filterMap Part.character?)

/-- The text of the bytes with one replacement character for each ill-formed part. -/
def decodeReplacing (bytes : List UInt8) : String :=
  String.ofList ((parts bytes).map fun part => part.character?.getD (Char.ofNat 0xFFFD))

def encode (text : String) : List UInt8 := text.toUTF8.toList

end FleetPatch.Text.Utf8
