import FleetPatch.Package.Basic
import FleetPatch.Text.Search

/-!
# Output of dnf

A listing has rows of name.architecture, version and repository. A first column
that is too wide stands alone on its line, and the rest of the row follows on
the next one. The output of an upgrade has a table of rows below a header, which
ends at a blank line or at the header of another section.
-/

namespace FleetPatch.Dnf

set_option autoImplicit false

/-- Name and architecture of a first column, cut at its last point; neither may be empty. -/
def splitColumn? (column : List Char) : Option (List Char × List Char) :=
  match Text.cutAtLast? '.' column with
  | some (name, architecture) =>
      if name.isEmpty || architecture.isEmpty then none else some (name, architecture)
  | none => none

/-- The rows of a listing given by the words of its lines; `alone` is a first column that stood
alone on the line before. -/
def rowsFrom : (alone : List (List Char)) → List (List (List Char)) → List (List (List Char))
  | _, [] => []
  | alone, [] :: rest => rowsFrom alone rest
  | alone, (word :: words) :: rest =>
      match alone ++ word :: words with
      | [column] => rowsFrom (if (splitColumn? column).isSome then [column] else []) rest
      | row => row :: rowsFrom [] rest

/-- The rows of a listing, each with two words or more. -/
def rows (output : String) : List (List (List Char)) :=
  rowsFrom [] ((Text.lines output.toList).map Text.words)

def rowPackage? (status : PackageStatus) : List (List Char) → Option Package
  | column :: version :: _ =>
      (splitColumn? column).map fun (name, architecture) =>
        ⟨String.ofList name, String.ofList version, String.ofList architecture, status⟩
  | _ => none

def listing (status : PackageStatus) (output : String) : List Package :=
  (rows output).filterMap (rowPackage? status)

/-- The packages of a listing whose status is given by name; a name of no status is refused once a
package is found. -/
def listingAs (status : String) (output : String) : Except Fault (List Package) :=
  match PackageStatus.ofName? status with
  | some status => .ok (listing status output)
  | none =>
      if (listing .installed output).isEmpty then .ok []
      else .error (.invalidValue (.packageStatus status))

def architectures : List String := [
  "x86_64", "noarch", "i686", "i386", "aarch64", "armv7hl", "ppc64le", "ppc64", "s390x", "riscv64",
  "src"]

def withoutArchitecture (column : List Char) : List Char :=
  match Text.cutAtLast? '.' column with
  | some (name, architecture) =>
      if !name.isEmpty && architectures.contains (String.ofList architecture) then name else column
  | none => column

def sectionWords : List String :=
  ["Installing", "Removing", "Downgrading", "Reinstalling", "Transaction Summary", "Skipping"]

def beginsWith (lead : String) (line : List Char) : Bool := (Text.after? lead.toList line).isSome

def endsTable (line : List Char) : Bool :=
  line.isEmpty || sectionWords.any (beginsWith · line) || line.getLast? == some ':'

def tableName (line : List Char) : String :=
  String.ofList (withoutArchitecture ((Text.words line).headD []))

def upgradedNames (output : String) : List String :=
  let trimmedLines := (Text.lines output.toList).map Text.trim
  match trimmedLines.dropWhile fun line => !beginsWith "Upgrading:" line with
  | [] => []
  | _ :: table => (table.takeWhile fun line => !endsTable line).map tableName

end FleetPatch.Dnf
