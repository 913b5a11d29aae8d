import FleetPatch.CommandLine.Program

/-!
# The command line

The inventory comes from standard input, whatever path is asked for, and its
placeholders from the environment of the process. There is no network here: every
host is found unreachable, which the commands that need one tell.
-/

namespace FleetPatch.CommandLine

set_option autoImplicit false

def unreachable (name : String) : Transport Unit :=
  let fault : Fault := .connection (.reported ("No network to reach " ++ name))
  { connected := fun _ => false
    connect := Run.fail fault
    dispatch := fun _ => Run.fail fault
    close := pure () }

def variablesIn : List Char → List String
  | [] => []
  | character :: rest =>
      match Credential.placeholder? (character :: rest) with
      | some name => String.ofList name :: variablesIn rest
      | none => variablesIn rest

def environmentFor (document : String) : IO Environment :=
  (variablesIn document.toList).filterMapM fun name => do
    let value ← IO.getEnv name
    pure (value.map fun value => (name, value))

partial def readAll (input : IO.FS.Stream) (before : String) : IO String := do
  let line ← input.getLine
  if line.isEmpty then pure before else readAll input (before ++ line)

/-- How deep the program follows the lists and member sets of a credential, which
is its own choice. -/
def depthLimit : Nat := 490

/-- The document on standard input, which is read only for a command line that is understood. -/
def readDocument (words : List String) : IO String := do
  match Arguments.read words with
  | .ok _ => readAll (← IO.getStdin) ""
  | .error _ => pure ""

def main (words : List String) : IO UInt32 := do
  let document ← readDocument words
  let environment ← environmentFor document
  let site : Site Unit :=
    ⟨fun _ => some (.text document), ".", environment, .upTo depthLimit, unreachable⟩
  let (ending, _) := run site words ()
  IO.print ending.printed
  match ending.outcome with
  | .ok code => pure (UInt32.ofNat code)
  | .error fault => do
      IO.eprintln fault.describe
      pure 1

end FleetPatch.CommandLine

def main (words : List String) : IO UInt32 := FleetPatch.CommandLine.main words
