import FleetPatch.Package.Basic
import FleetPatch.Text.Digit
import FleetPatch.Text.Search

/-!
# Output of apt and dpkg

Listings have one package a line. The output of an upgrade names the packages in
an indented block, below the classic header or below the one of version 3, and
their number in a line of its own.
-/

namespace FleetPatch.Apt

set_option autoImplicit false

/-- The package of a line with tab separated name, version, architecture and status, if the last
word of the status is `installed`. -/
def installedLine? (line : List Char) : Option Package :=
  match Text.pieces (· == '\t') (Text.trim line) with
  | name :: version :: architecture :: status :: _ =>
      if (Text.words status).getLast? = some "installed".toList then
        some ⟨String.ofList name, String.ofList version, String.ofList architecture, .installed⟩
      else none
  | _ => none

def upgradableLine? (line : List Char) : Option Package :=
  match Text.words line with
  | source :: version :: architecture :: _ =>
      match Text.cutAt? ['/'] source with
      | some (name, repository) =>
          if name.isEmpty || repository.isEmpty then none
          else
            some ⟨String.ofList name, String.ofList version, String.ofList architecture,
              .upgradable⟩
      | none => none
  | _ => none

def installed (output : String) : List Package :=
  (Text.lines output.toList).filterMap installedLine?

def upgradable (output : String) : List Package :=
  (Text.lines output.toList).filterMap upgradableLine?

def isIndent (character : Char) : Bool := character = ' ' || character = '\t'

def feedLines (text : List Char) : List (List Char) := Text.pieces (· == '\n') text

/-- The first digits that are followed by blanks and the word `upgraded`. -/
def summaryCount? : List Char → Option (List Char)
  | [] => none
  | character :: rest =>
      let text := character :: rest
      let digits := text.takeWhile Text.isDigit
      let behind := text.dropWhile Text.isDigit
      let counted := !digits.isEmpty && behind.head?.any Text.isBlank &&
        (Text.after? "upgraded".toList (behind.dropWhile Text.isBlank)).isSome
      if counted then some digits else summaryCount? rest

/-- The digits behind the header of version 3 on a line of its own. -/
def headerCount? (line : List Char) : Option (List Char) :=
  match Text.after? "Upgrading:".toList (line.dropWhile isIndent) with
  | some behind =>
      let digits := (behind.dropWhile isIndent).takeWhile Text.isDigit
      if digits.isEmpty then none else some digits
  | none => none

def statedDigits? (output : String) : Option (List Char) :=
  let text := output.toList
  summaryCount? text <|> (feedLines text).findSome? headerCount?

/-- The number of upgraded packages that an output states; a number with too many digits is a
fault. -/
def statedCount (output : String) : Except Fault (Option Nat) :=
  match statedDigits? output with
  | none => .ok none
  | some digits =>
      if Text.digitLimit < digits.length then .error (.invalidValue (.tooManyDigits digits.length))
      else .ok (some (Text.digitsValue digits))

def untilUnindented : List Char → List Char
  | [] => []
  | '\n' :: next :: rest =>
      if Text.isBlank next then '\n' :: untilUnindented (next :: rest) else []
  | character :: rest => character :: untilUnindented rest

/-- The block below a header, read behind the header: it begins behind the last line feed of the
blanks that follow, and without one there is none. -/
def blockBelow? (behind : List Char) : Option (List Char) :=
  let blanks := behind.takeWhile Text.isBlank
  match Text.cutAtLast? '\n' blanks with
  | some (_, indent) => some (untilUnindented (indent ++ behind.dropWhile Text.isBlank))
  | none => none

def classicBlock? : List Char → Option (List Char)
  | [] => none
  | character :: rest =>
      let found :=
        (Text.after? "The following packages will be upgraded:".toList (character :: rest)).bind
          blockBelow?
      match found with
      | some block => some block
      | none => classicBlock? rest

def isHeader (line : List Char) : Bool :=
  match Text.after? "Upgrading:".toList line with
  | some behind => behind.all isIndent
  | none => false

def isIndented (line : List Char) : Bool :=
  line.head?.any isIndent && (line.dropWhile isIndent).head?.any fun next => !Text.isBlank next

def headedLines? : List (List Char) → Option (List (List Char))
  | [] => none
  | line :: rest =>
      let block := rest.takeWhile isIndented
      if isHeader line && !block.isEmpty then some block else headedLines? rest

def upgradedNames (output : String) : List String :=
  let text := output.toList
  match classicBlock? text with
  | some block => (Text.words block).map String.ofList
  | none =>
      match headedLines? (feedLines text) with
      | some block => (block.flatMap Text.words).map String.ofList
      | none => []

end FleetPatch.Apt
