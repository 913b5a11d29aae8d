import FleetPatch.Fault
import FleetPatch.Text.Blank

/-!
# File paths

A path is kept in its plain form: without repeated separators, without steps to
the current directory and without a separator at its end. Two separators at the
start, and only two, differ from one. The system refuses a path that is too long,
and one that comes to a name that is too long before it leads nowhere. A tilde at
the start stands for a home directory.
-/

namespace FleetPatch.Path

set_option autoImplicit false

def root (path : List Char) : List Char :=
  let leading := path.takeWhile (· == '/')
  if leading.length = 2 then leading else leading.take 1

def steps (path : List Char) : List (List Char) :=
  (Text.pieces (· == '/') path).filter fun step => step ≠ [] && step ≠ ['.']

/-- The plain form of a path; a path without steps is the current directory. -/
def plain (path : String) : String :=
  let text := root path.toList ++ ['/'].intercalate (steps path.toList)
  if text.isEmpty then "." else String.ofList text

def lengthLimit : Nat := 4095

def nameLimit : Nat := 255

def extend (path step : List Char) : List Char :=
  if path.isEmpty || path.getLast? = some '/' then path ++ step else path ++ '/' :: step

/-- Whether steps from a directory on come to a name that is too long, each step before it being
taken to a directory. -/
def reachesLongName (isDirectory : String → Bool) : List Char → List (List Char) → Bool
  | _, [] => false
  | path, step :: rest =>
      if nameLimit < (String.ofList step).utf8ByteSize then true
      else
        let next := extend path step
        isDirectory (String.ofList next) && reachesLongName isDirectory next rest

/-- Whether the system refuses to follow a path in its plain form. A path that holds a null
character leads nowhere and is not refused. -/
def refused (isDirectory : String → Bool) (path : String) : Bool :=
  !path.toList.contains (Char.ofNat 0) &&
    (lengthLimit < path.utf8ByteSize ||
      reachesLongName isDirectory (root path.toList) (steps path.toList))

structure Homes where
  own : String
  others : List (String × String)

/-- The home directory of a name; the user's own one has the empty name. -/
def Homes.named? (homes : Homes) (name : String) : Option String :=
  if name = "" then some homes.own else homes.others.lookup name

def belowHome (home : String) (below : List Char) : String :=
  let expanded := (home.toList.reverse.dropWhile (· == '/')).reverse ++ below
  if expanded.isEmpty then "/" else String.ofList expanded

/-- The path with a home directory in place of a leading tilde and the user's name behind it. A name
that no user has stays as it is; a name cannot hold a null character. -/
def expandHome (homes : Homes) (path : String) : Except Fault String :=
  match path.toList with
  | '~' :: rest =>
      let name := rest.takeWhile (· != '/')
      if name.contains (Char.ofNat 0) then .error (.invalidValue .embeddedNul)
      else
        match homes.named? (String.ofList name) with
        | some home => .ok (belowHome home (rest.dropWhile (· != '/')))
        | none => .ok path
  | _ => .ok path

end FleetPatch.Path
