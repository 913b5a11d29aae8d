import FleetPatch.Fault
import FleetPatch.Json.Basic
import FleetPatch.Text.Digit
import FleetPatch.Text.Search

/-!
# Reading JSON text

The grammar is that of JSON with three more words, `NaN`, `Infinity` and
`-Infinity`. A name that is repeated keeps its first place and its last value.
Text is read from left to right and the first thing that is wrong decides: a
violation of the grammar, an integer with more digits than the limit, or more
open arrays and objects than the limit.
-/

namespace FleetPatch.Json

set_option autoImplicit false

inductive ReadFault where
  | grammar
  | tooManyDigits (count : Nat)
  | tooDeep
  deriving Repr, DecidableEq

/-- How many arrays and objects may be open at once. The interpreter limits its whole stack, of
which the callers of the reader have a part: there are a few more where little of it is taken, and
fewer where much is. -/
def nestingLimit : Nat := 985

def isSpace (character : Char) : Bool :=
  character = ' ' || character = '\t' || character = '\n' || character = '\r'

def skipSpace (text : List Char) : List Char := text.dropWhile isSpace

def hexValue? (character : Char) : Option Nat :=
  let code := character.toNat
  if 48 ≤ code ∧ code ≤ 57 then some (code - 48)
  else if 97 ≤ code ∧ code ≤ 102 then some (code - 87)
  else if 65 ≤ code ∧ code ≤ 70 then some (code - 55)
  else none

def unit? : List Char → Option (Nat × List Char)
  | a :: b :: c :: d :: rest => do
      let a ← hexValue? a
      let b ← hexValue? b
      let c ← hexValue? c
      let d ← hexValue? d
      some (((a * 16 + b) * 16 + c) * 16 + d, rest)
  | _ => none

def lowHalf? : List Char → Option (Nat × List Char)
  | '\\' :: 'u' :: rest =>
      match unit? rest with
      | some (unit, rest) => if 0xDC00 ≤ unit ∧ unit ≤ 0xDFFF then some (unit, rest) else none
      | none => none
  | _ => none

/-- The character of an escaped code unit; half a pair on its own is the replacement character. -/
def unitCharacter (unit : Nat) (rest : List Char) : Char × List Char :=
  if 0xD800 ≤ unit ∧ unit ≤ 0xDBFF then
    match lowHalf? rest with
    | some (low, rest) => (Char.ofNat (0x10000 + (unit - 0xD800) * 1024 + (low - 0xDC00)), rest)
    | none => (Char.ofNat 0xFFFD, rest)
  else if 0xDC00 ≤ unit ∧ unit ≤ 0xDFFF then (Char.ofNat 0xFFFD, rest)
  else (Char.ofNat unit, rest)

def escape? : List Char → Option (Char × List Char)
  | '"' :: rest => some ('"', rest)
  | '\\' :: rest => some ('\\', rest)
  | '/' :: rest => some ('/', rest)
  | 'b' :: rest => some (Char.ofNat 8, rest)
  | 'f' :: rest => some (Char.ofNat 12, rest)
  | 'n' :: rest => some ('\n', rest)
  | 'r' :: rest => some ('\r', rest)
  | 't' :: rest => some ('\t', rest)
  | 'u' :: rest => (unit? rest).map fun (unit, rest) => unitCharacter unit rest
  | _ => none

/-- The characters of a string, read behind the opening quote; `fuel` bounds their number. -/
def readString : Nat → List Char → List Char → Except ReadFault (String × List Char)
  | 0, _, _ => .error .grammar
  | fuel + 1, done, text =>
      match text with
      | [] => .error .grammar
      | '"' :: rest => .ok (String.ofList done.reverse, rest)
      | '\\' :: rest =>
          match escape? rest with
          | some (character, rest) => readString fuel (character :: done) rest
          | none => .error .grammar
      | character :: rest =>
          if character.toNat < 32 then .error .grammar
          else readString fuel (character :: done) rest

def fractionOf : List Char → Option (List Char) × List Char
  | '.' :: rest =>
      let digits := rest.takeWhile Text.isPlainDigit
      if digits.isEmpty then (none, '.' :: rest) else (some digits, rest.drop digits.length)
  | text => (none, text)

def exponentOf : List Char → Option (Bool × List Char) × List Char
  | mark :: rest =>
      if mark = 'e' || mark = 'E' then
        let (negative, behind) :=
          match rest with
          | '-' :: behind => (true, behind)
          | '+' :: behind => (false, behind)
          | behind => (false, behind)
        let digits := behind.takeWhile Text.isPlainDigit
        if digits.isEmpty then (none, mark :: rest)
        else (some (negative, digits), behind.drop digits.length)
      else (none, mark :: rest)
  | [] => (none, [])

def numberOf (negative : Bool) (whole : List Char) (fraction : Option (List Char))
    (exponent : Option (Bool × List Char)) : Except ReadFault Json :=
  if fraction.isNone && exponent.isNone then
    if Text.digitLimit < whole.length then .error (.tooManyDigits whole.length)
    else
      let value : Int := (Text.digitsValue whole : Nat)
      .ok (.int (if negative then -value else value))
  else
    let places := fraction.getD []
    let power : Int :=
      match exponent with
      | some (true, digits) => -((Text.digitsValue digits : Nat) : Int)
      | some (false, digits) => ((Text.digitsValue digits : Nat) : Int)
      | none => 0
    .ok (.real (.ofDecimal negative (Text.digitsValue (whole ++ places)) (power - places.length)))

def readNumber (negative : Bool) (text : List Char) : Except ReadFault (Json × List Char) :=
  let digits := text.takeWhile Text.isPlainDigit
  let whole := if digits.head? = some '0' then ['0'] else digits
  if whole.isEmpty then .error .grammar
  else do
    let (fraction, behind) := fractionOf (text.drop whole.length)
    let (exponent, rest) := exponentOf behind
    let value ← numberOf negative whole fraction exponent
    .ok (value, rest)

def readWord (text : List Char) : Except ReadFault (Json × List Char) :=
  let word (spelling : String) (value : Json) : Option (Json × List Char) :=
    (Text.after? spelling.toList text).map fun rest => (value, rest)
  match word "null" .null <|> word "true" (.bool true) <|> word "false" (.bool false) <|>
      word "NaN" (.real .nan) <|> word "Infinity" (.real (.infinite false)) with
  | some found => .ok found
  | none => .error .grammar

mutual

/-- One value at the start of a text, and what follows it; `room` tells how many arrays and objects
may still be opened, and `fuel` bounds the number of parts. -/
def readValue : Nat → Nat → List Char → Except ReadFault (Json × List Char)
  | 0, _, _ => .error .grammar
  | fuel + 1, room, text =>
      match text with
      | '"' :: rest => do
          let (value, rest) ← readString (rest.length + 1) [] rest
          .ok (.str value, rest)
      | '\x7b' :: rest =>
          match room, skipSpace rest with
          | 0, _ => .error .tooDeep
          | _ + 1, '\x7d' :: rest => .ok (.obj [], rest)
          | room + 1, inside => readMembers fuel room [] inside
      | '[' :: rest =>
          match room, skipSpace rest with
          | 0, _ => .error .tooDeep
          | _ + 1, ']' :: rest => .ok (.arr [], rest)
          | room + 1, inside => readItems fuel room [] inside
      | '-' :: rest =>
          match Text.after? "Infinity".toList rest with
          | some rest => .ok (.real (.infinite true), rest)
          | none => readNumber true rest
      | character :: _ =>
          if Text.isPlainDigit character then readNumber false text else readWord text
      | [] => .error .grammar

/-- The items of an array from the next one on, latest first in `done`. -/
def readItems : Nat → Nat → List Json → List Char → Except ReadFault (Json × List Char)
  | 0, _, _, _ => .error .grammar
  | fuel + 1, room, done, text => do
      let (value, rest) ← readValue fuel room text
      match skipSpace rest with
      | ']' :: rest => .ok (.arr (value :: done).reverse, rest)
      | ',' :: rest => readItems fuel room (value :: done) (skipSpace rest)
      | _ => .error .grammar

def readMembers :
    Nat → Nat → List (String × Json) → List Char → Except ReadFault (Json × List Char)
  | 0, _, _, _ => .error .grammar
  | fuel + 1, room, done, text =>
      match text with
      | '"' :: rest => do
          let (name, rest) ← readString (rest.length + 1) [] rest
          match skipSpace rest with
          | ':' :: rest => do
              let (value, rest) ← readValue fuel room (skipSpace rest)
              match skipSpace rest with
              | '\x7d' :: rest => .ok (.obj (putMember name value done), rest)
              | ',' :: rest => readMembers fuel room (putMember name value done) (skipSpace rest)
              | _ => .error .grammar
          | _ => .error .grammar
      | _ => .error .grammar

end

def read (text : String) : Except ReadFault Json := do
  let (value, rest) ← readValue (2 * text.length + 1) nestingLimit (skipSpace text.toList)
  if (skipSpace rest).isEmpty then .ok value else .error .grammar

end FleetPatch.Json
