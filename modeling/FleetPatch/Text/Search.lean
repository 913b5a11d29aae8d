import FleetPatch.Text.Blank

/-!
# Finding and replacing parts of a text

A needle is looked for from the left; replacing resumes behind each occurrence,
so occurrences never overlap.
-/

namespace FleetPatch.Text

set_option autoImplicit false

def after? : (lead text : List Char) → Option (List Char)
  | [], text => some text
  | _ :: _, [] => none
  | expected :: lead, found :: text => if expected = found then after? lead text else none

def cutAt? (needle : List Char) : List Char → Option (List Char × List Char)
  | [] => if needle.isEmpty then some ([], []) else none
  | character :: rest =>
      match after? needle (character :: rest) with
      | some behind => some ([], behind)
      | none => (cutAt? needle rest).map fun (before, behind) => (character :: before, behind)

def occurs (needle text : List Char) : Bool := (cutAt? needle text).isSome

/-- Copies a text, writing `new` for each occurrence of `old`; `skip` counts the characters of the
occurrence just replaced that are still to be passed over. -/
def replaceFrom (old new : List Char) : Nat → List Char → List Char
  | _, [] => []
  | skip + 1, _ :: rest => replaceFrom old new skip rest
  | 0, character :: rest =>
      if !old.isEmpty && old.isPrefixOf (character :: rest) then
        new ++ replaceFrom old new (old.length - 1) rest
      else character :: replaceFrom old new 0 rest

/-- Every occurrence of `old`, from the left and without overlap, becomes `new`. -/
def replaceAll (old new text : List Char) : List Char := replaceFrom old new 0 text

def cutAtLast? (separator : Char) : List Char → Option (List Char × List Char)
  | [] => none
  | character :: rest =>
      match cutAtLast? separator rest with
      | some (before, behind) => some (character :: before, behind)
      | none => if character = separator then some ([], rest) else none

def contains (text needle : String) : Bool := occurs needle.toList text.toList

end FleetPatch.Text
