import FleetPatch.CommandLine.Option
import FleetPatch.Json.Basic

/-!
# Arguments

A command line is global options, a command and the command's arguments. Every
argument is a word; a word that is the separator itself and stands for an
argument leaves the argument without a value, and so does one attached to an
option.
-/

namespace FleetPatch.CommandLine

set_option autoImplicit false

inductive Command where
  | test (host : Json)
  | summary (host : Option Json)
  | compare (first second : Json)
  | rebootStatus (host : Json)
  deriving Repr

structure Arguments where
  inventory : Option String
  command : Command
  deriving Repr

/-- What was read in front of the command: the inventory's path, and whether an option was not
understood. -/
structure Globals where
  inventory : Option String
  leftover : Bool
  deriving Repr, DecidableEq

namespace Globals

/-- The flags in order; help stops everything. -/
def apply : Globals → List (Flag × Option String) → Except Stop Globals
  | globals, [] => .ok globals
  | _, (.help, _) :: _ => .error .help
  | globals, (.verbose, _) :: rest => apply globals rest
  | globals, (.inventory, value) :: rest =>
      apply { globals with inventory := value.filter (· != separatorText) } rest

end Globals

def readGlobals : Globals → List Word → Except Stop (Globals × String × List String)
  | _, [] => .error .misuse
  | globals, word :: rest =>
      match word.kind with
      | .plain => .ok (globals, word.text, rest.map Word.text)
      | .separator => .error .misuse
      | .unknownOption => readGlobals { globals with leftover := true } rest
      | .option flag short attached =>
          match Joined.ofWord globalSpellings flag short attached with
          | .error stop => .error stop
          | .ok joined =>
              match joined.last with
              | none =>
                  match globals.apply joined.taken with
                  | .error stop => .error stop
                  | .ok globals => readGlobals globals rest
              | some last =>
                  if last.takesValue then
                    match rest with
                    | ⟨value, .plain⟩ :: rest =>
                        match globals.apply (joined.taken ++ [(last, some value)]) with
                        | .error stop => .error stop
                        | .ok globals => readGlobals globals rest
                    | _ => .error .misuse
                  else
                    match globals.apply (joined.taken ++ [(last, none)]) with
                    | .error stop => .error stop
                    | .ok globals => readGlobals globals rest

/-- How the first option behind a command stops it, if there is an option. An option that is not
understood stops it unless help is asked for later on. -/
def stopOf? : List Word → Option Stop
  | [] => none
  | word :: rest =>
      match word.kind with
      | .plain | .separator => stopOf? rest
      | .unknownOption => some ((stopOf? rest).getD .misuse)
      | .option flag short attached =>
          match Joined.ofWord commandSpellings flag short attached with
          | .error stop => some stop
          | .ok _ => some .help

/-- One argument at the start of words without options: a plain word with the separator before or
behind it. The result holds the texts of all of them. -/
def takeOne : List Word → Option (List String × List Word)
  | ⟨first, .separator⟩ :: ⟨second, .plain⟩ :: rest => some ([first, second], rest)
  | ⟨first, .plain⟩ :: ⟨second, .separator⟩ :: rest => some ([first, second], rest)
  | ⟨first, .plain⟩ :: rest => some ([first], rest)
  | _ => none

/-- The value of an argument: the first text that is the separator is left out. -/
def valueOf (texts : List String) : Json :=
  match texts.erase separatorText with
  | [text] => .str text
  | texts => .arr (texts.map Json.str)

def oneArgument (words : List Word) : Except Stop Json :=
  match takeOne words with
  | some (texts, []) => .ok (valueOf texts)
  | _ => .error .misuse

def optionalArgument (words : List Word) : Except Stop (Option Json) :=
  match words with
  | [] | [⟨_, .separator⟩] => .ok none
  | words => (oneArgument words).map some

def twoArguments (words : List Word) : Except Stop (Json × Json) :=
  match takeOne words with
  | some (first, rest) => (oneArgument rest).map fun second => (valueOf first, second)
  | none => .error .misuse

def commandOf (name : String) (words : List Word) : Except Stop Command :=
  match name with
  | "test" => (oneArgument words).map .test
  | "summary" => (optionalArgument words).map .summary
  | "compare" => (twoArguments words).map fun (first, second) => .compare first second
  | "reboot-status" => (oneArgument words).map .rebootStatus
  | _ => .error .misuse

def commandNames : List String := ["test", "summary", "compare", "reboot-status"]

def readCommand (name : String) (texts : List String) : Except Stop Command :=
  if commandNames.contains name then do
    let words ← classify commandSpellings texts
    match stopOf? words with
    | some stop => .error stop
    | none => commandOf name words
  else .error .misuse

/-- Reads a command line. An option that was not understood stops it in the end, unless help was
asked for before. -/
def Arguments.read (texts : List String) : Except Stop Arguments := do
  let words ← classify globalSpellings texts
  let (globals, name, behind) ← readGlobals ⟨none, false⟩ words
  let command ← readCommand name behind
  if globals.leftover then .error .misuse else .ok ⟨globals.inventory, command⟩

end FleetPatch.CommandLine
