import FleetPatch.CommandLine.Arguments
import FleetPatch.Endpoint
import FleetPatch.Executor.Restart
import FleetPatch.Inventory.Location
import FleetPatch.Query.Keys

/-!
# The program

Each command looks up its assets, observes their hosts over transports that are
closed again, and prints what it found. A fault of this library is printed and
ends the program with one; what was printed before it stays.
-/

namespace FleetPatch.CommandLine

set_option autoImplicit false

/-- What the program works with: the files, the directory of the installation, the environment, what
the stack has room for when a credential is expanded, and the transport to each host. -/
structure Site (σ : Type) where
  files : Inventory.Files
  installation : String
  environment : Environment
  stack : Credential.Stack
  hosts : String → Transport σ

abbrev Printing (σ α : Type) := Run Fault (String × σ) α

variable {σ : Type}

def line (text : String) : Printing σ Unit := Run.first (Run.update (· ++ text ++ "\n"))

def lines (texts : List String) : Printing σ Unit := texts.forM line

def findAsset (inventory : Inventory) (name : Json) : Except Fault (Asset × String) :=
  match inventory.find? name with
  | none => .error (.commandLine (.unknownAsset name.text))
  | some asset => do
      match ← asset.ecosystem with
      | none => .error (.commandLine (.unsupportedSystem name.text asset.os.text))
      | some ecosystem => .ok (asset, ecosystem)

namespace Site

variable (site : Site σ)

/-- Does some work on the transport to an asset, which is connected before and closed behind. -/
def withTransport {α : Type} (inventory : Inventory) (asset : Asset)
    (work : Transport σ → Run Fault σ α) : Run Fault σ α := do
  let _ ← Run.lift (inventory.endpoint ⟨site.environment, site.stack⟩ asset)
  let host := site.hosts asset.hostname.text
  host.session (work host)

end Site

/-- The text of a stream without the blanks at its ends; a stream that is not there has none. -/
def streamText : Option String → Except Fault String
  | some text => .ok (Text.trimmed text)
  | none => .error .unsupportedOperation

def printReply (reply : Reply) : Printing σ Nat := do
  line "\nResult:"
  let stdout ← Run.lift (streamText reply.stdout)
  line ("  stdout: " ++ stdout)
  let stderr ← Run.lift (streamText reply.stderr)
  if stderr ≠ "" then line ("  stderr: " ++ stderr)
  line ("  exit_code: " ++ exitCodeText reply.exitCode)
  if reply.succeeded then do
    line "\nConnection test successful!"
    pure 0
  else do
    line "\nConnection test failed"
    pure 1

variable (site : Site σ) (inventory : Inventory)

def nameCommand : String := "hostname"

def test (name : Json) : Printing σ Nat := do
  let (asset, _) ← Run.lift (findAsset inventory name)
  lines [
    "Connecting to " ++ asset.hostname.text ++ " (" ++ asset.ip.text ++ ")...",
    "  OS: " ++ asset.os.text,
    "  Credential: " ++ asset.credentialRef.text]
  let reply ← Run.second (site.withTransport inventory asset fun host => host.execute nameCommand)
  printReply reply

def summarize (name : Option Json) : Printing σ Nat :=
  match name.filter Json.isPresent with
  | none => do
      let text ← Run.lift inventory.summary
      line text
      pure 0
  | some name => do
      let (asset, ecosystemName) ← Run.lift (findAsset inventory name)
      let text ← Run.second (site.withTransport inventory asset fun host => do
        let ecosystem ← Run.lift (Ecosystem.ofJson (.str ecosystemName))
        ecosystem.summary host)
      lines [asset.text, text]
      pure 0

def onlyLines (asset : Asset) (keys : List String) : List String :=
  s!"  Only on {asset.hostname.text}: {keys.length}" :: keys.map ("    - " ++ ·)

def compare (first second : Json) : Printing σ Nat := do
  let (left, leftName) ← Run.lift (findAsset inventory first)
  let (right, rightName) ← Run.lift (findAsset inventory second)
  let leftWindows ← Run.lift left.isWindows
  let rightWindows ← Run.lift right.isWindows
  if leftWindows ≠ rightWindows then Run.fail (.commandLine .mixedSystems)
  let comparison ← Run.second (site.withTransport inventory left fun leftHost =>
    site.withTransport inventory right fun rightHost => do
      let leftEcosystem ← Run.lift (Ecosystem.ofJson (.str leftName))
      let rightEcosystem ← Run.lift (Ecosystem.ofJson (.str rightName))
      Comparison.ofRuns (leftEcosystem.keys leftHost) (rightEcosystem.keys rightHost))
  lines ([
    "Comparing " ++ left.hostname.text ++ " with " ++ right.hostname.text,
    s!"  Common: {comparison.common.length}"] ++
    onlyLines left comparison.onlyFirst ++ onlyLines right comparison.onlySecond)
  pure 0

def pendingOn (asset : Asset) (ecosystemName : String) (host : Transport σ) :
    Run Fault σ (Bool × List (String × Bool)) := do
  let ecosystem ← Run.lift (Ecosystem.ofJson (.str ecosystemName))
  if ← Run.lift asset.isWindows then do
    let signals ← UpdateExecutor.rebootSignals host
    pure (signals.pending, signals.named)
  else do
    let pending ← ecosystem.rebootRequired host
    pure (pending, [])

def markerText (value : Bool) : String := (Json.bool value).text

def rebootStatus (name : Json) : Printing σ Nat := do
  let (asset, ecosystemName) ← Run.lift (findAsset inventory name)
  let (pending, markers) ← Run.second
    (site.withTransport inventory asset (pendingOn asset ecosystemName))
  line (asset.hostname.text ++ ": " ++
    if pending then "reboot required" else "no reboot pending")
  lines (markers.map fun (marker, value) => "  " ++ marker ++ ": " ++ markerText value)
  if asset.deepFreeze then line "  Deep Freeze: enabled (manual reboots are refused)"
  pure 0

def perform : Command → Printing σ Nat
  | .test host => test site inventory host
  | .summary host => summarize site inventory host
  | .compare first second => compare site inventory first second
  | .rebootStatus host => rebootStatus site inventory host

def carryOut (arguments : Arguments) : Printing σ Nat := do
  let path := Inventory.location site.installation site.environment arguments.inventory
  let inventory ← Run.lift (Inventory.load site.files path)
  perform site inventory arguments.command

/-- The line that tells a fault, if it is one of this library. -/
def faultLine? (fault : Fault) : Option String :=
  match fault with
  | .authentication _ => some ("Authentication failed: " ++ fault.message)
  | .connection _ => some ("Connection failed: " ++ fault.message)
  | _ => if fault.isOwn then some ("Error: " ++ fault.message) else none

/-- A run whose own faults are printed and end it with one. -/
def tellingFaults (run : Printing σ Nat) : Printing σ Nat :=
  Run.orHandle run fun fault =>
    match faultLine? fault with
    | some text => do
        line text
        pure 1
    | none => Run.fail fault

/-- How a run of the program ended: with an exit code or by a fault that nothing handles. -/
structure Ending where
  outcome : Except Fault Nat
  printed : String

/-- Runs the program on the words of a command line. Help ends it with zero and misuse with two. -/
def run (words : List String) (hosts : σ) : Ending × σ :=
  match Arguments.read words with
  | .error .help => (⟨.ok 0, ""⟩, hosts)
  | .error .misuse => (⟨.ok 2, ""⟩, hosts)
  | .ok arguments =>
      match tellingFaults (carryOut site arguments) ("", hosts) with
      | (outcome, (printed, after)) => (⟨outcome, printed⟩, after)

end FleetPatch.CommandLine
