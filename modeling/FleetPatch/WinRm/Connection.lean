import FleetPatch.Text.Utf8
import FleetPatch.Transport
import FleetPatch.WinRm.Clixml
import FleetPatch.WinRm.Config
import FleetPatch.WinRm.Invocation

/-!
# Remote management connections

A connection probes the port, opens one shell and runs every command in it. A worker
makes the handshake that opens the shell, and looks once, when it has the shell, whether
the caller has given up: it then closes the shell, and otherwise hands it over. A caller
that gives up behind that look is handed a shell that it does not take. Each command is
cleaned up after its output has been asked for, and a fault of cleaning up replaces the
outcome.
-/

namespace FleetPatch.WinRm

set_option autoImplicit false

inductive Stream where
  | absent
  | text (value : String)
  | bytes (value : List UInt8)
  deriving Repr, DecidableEq

def Stream.decoded : Stream → String
  | .absent => ""
  | .text value => value
  | .bytes value => Text.Utf8.decodeIgnoring value

/-- What becomes of one probe of the port: the faults of reaching it and of closing the socket. That
the system refuses a time limit that is no number is a fault of reaching like any other. -/
structure Probe where
  reaching : Option Fault
  closing : Option Fault
  deriving Repr

def Probe.plain : Probe := ⟨none, none⟩

/-- What becomes of one command: the faults of running it, of asking for its output and of cleaning
it up, and the output. -/
structure Command where
  running : Option Fault
  reading : Option Fault
  cleaning : Option Fault
  stdout : Stream
  stderr : Stream
  exitCode : Option Int
  deriving Repr

def Command.silent : Command := ⟨none, none, none, .absent, .absent, some 0⟩

/-- How a handshake stands to its limit: it ends in time, or the caller gives up before the worker
looks for that, or behind that look and before the worker has ended. -/
inductive Pace where
  | timely
  | late
  | crossed
  deriving Repr, DecidableEq

/-- What becomes of one handshake: the faults of building the client, of opening the shell and of
closing it, how it stands to its limit, the shell, and the commands to come. -/
structure Handshake where
  building : Option Fault
  opening : Option Fault
  closing : Option Fault
  pace : Pace
  shell : Json
  commands : List Command
  deriving Repr

def Handshake.plain : Handshake := ⟨none, none, none, .timely, .str "shell-1", []⟩

/-- How a handshake stands to the limit that it is given; without one the caller
waits for its end. -/
def Handshake.paceUnder (limit : Json) (handshake : Handshake) : Pace :=
  match limit with
  | .null => .timely
  | _ => handshake.pace

def Handshake.outlasts (limit : Json) (handshake : Handshake) : Bool :=
  handshake.paceUnder limit != .timely

/-- A shell that is held, with the number of its handshake, the fault of closing it, the commands to
come and the count of those that ran. -/
structure Shell where
  handshake : Nat
  id : Json
  closing : Option Fault
  commands : List Command
  ran : Nat
  deriving Repr

/-- One call to the network or to the client library. Clients are told apart by the number of their
handshake. -/
inductive Call where
  | probe
  | closeSocket
  | build (handshake : Nat)
  | openShell (handshake : Nat)
  | run (handshake : Nat) (shell : Json) (arguments : List String)
  | output (handshake : Nat) (shell : Json) (command : String)
  | cleanUp (handshake : Nat) (shell : Json) (command : String)
  | closeShell (handshake : Nat) (shell : Json)
  deriving Repr

/-- A connection with the shell that it holds, the handshakes it has abandoned, what is to come, and
the calls made so far. -/
structure State where
  probes : List Probe
  upcoming : List Handshake
  started : Nat
  held : Option Shell
  abandoned : List (Nat × Handshake)
  calls : List Call

namespace State

def fresh (probes : List Probe) (upcoming : List Handshake) : State :=
  ⟨probes, upcoming, 0, none, [], []⟩

def connected (now : State) : Bool :=
  match now.held with
  | some shell =>
      match shell.id with
      | .null => false
      | _ => true
  | none => false

def record (call : Call) (now : State) : State := { now with calls := now.calls ++ [call] }

end State

def callOr (made : Call) (failure : Option Fault) : Run Fault State Unit := do
  Run.update (State.record made)
  match failure with
  | some fault => Run.fail fault
  | none => pure ()

/-- How a fault of probing the port is told; one that is not the system's is not told. -/
def probeFault (config : Config) (fault : Fault) : Fault :=
  let host := config.hostname.text
  let port := config.port.text
  match fault with
  | .foreign .nameResolution _ => .connection (.unresolved host fault.describe)
  | .foreign .refused _ => .connection (.refused host port)
  | .foreign .timeout _ => .connection (.silent host port config.connectTimeout.text)
  | .foreign cause _ =>
      if cause.isSystem then .connection (.unreachable host port fault.describe) else fault
  | _ => fault

def probe (config : Config) : Run Fault State Unit := do
  let now ← Run.state
  let probe := now.probes.headD .plain
  Run.update fun now => { now with probes := now.probes.tail }
  Run.orHandle (callOr .probe probe.reaching) fun fault => Run.fail (probeFault config fault)
  callOr .closeSocket probe.closing

def nextHandshake : Run Fault State (Nat × Handshake) := fun now =>
  let number := now.started
  match now.upcoming with
  | next :: rest => (.ok (number, next), { now with upcoming := rest, started := number + 1 })
  | [] => (.ok (number, .plain), { now with started := number + 1 })

def outlasted (config : Config) : Fault :=
  .connection (.handshakeTimedOut config.hostname.text config.port.text config.connectTimeout.text)

/-- What kind of value a time limit is that cannot be compared with a number; null is no limit. -/
def unorderedKind? : Json → Option String
  | .str _ => some "str"
  | .arr _ => some "list"
  | .obj _ => some "dict"
  | _ => none

def openShell (config : Config) (number : Nat) (handshake : Handshake) : Run Fault State Unit := do
  callOr (.build number) handshake.building
  callOr (.openShell number)
    (if handshake.outlasts config.connectTimeout then none else handshake.opening)

/-- Makes a handshake and waits for it. One that outlasts its limit is abandoned. One that nobody
can wait for, since its limit is no number, goes on to its end without being told that nobody
waits, and what becomes of it is lost. -/
def shakeHands (config : Config) : Run Fault State Shell := do
  let (number, handshake) ← nextHandshake
  match unorderedKind? config.connectTimeout with
  | some kind => do
      Run.orHandle (openShell config number handshake) fun _ => pure ()
      Run.fail (.connection (.unorderedLimit config.hostname.text kind))
  | none => do
      openShell config number handshake
      if handshake.outlasts config.connectTimeout then do
        Run.update fun now => { now with abandoned := now.abandoned ++ [(number, handshake)] }
        Run.fail (outlasted config)
      else pure ⟨number, handshake.shell, handshake.closing, handshake.commands, 0⟩

def handshakeFault (config : Config) (fault : Fault) : Fault :=
  let host := config.hostname.text
  match fault with
  | .authentication _ | .connection _ => fault
  | .foreign cause _ =>
      if cause.isRemoteAuthentication then
        .authentication (.rejected config.fullUsername.text host fault.describe)
      else if cause = .requestConnection ∨ cause = .requestReadTimeout then
        .connection (.failed host config.port.text fault.describe)
      else .connection (.other host fault.describe)
  | _ => .connection (.other host fault.describe)

def connect (config : Config) : Run Fault State Unit := do
  let now ← Run.state
  unless now.connected do
    probe config
    let shell ← Run.orHandle (shakeHands config) fun fault =>
      Run.fail (handshakeFault config fault)
    Run.update fun now => { now with held := some shell }

def isTransportFault : Fault → Bool
  | .foreign cause _ => cause.isRemote || cause == .remoteOperationTimeout || cause.isRequest
  | _ => false

def commandFault (config : Config) (fault : Fault) : Fault :=
  let host := config.hostname.text
  match fault with
  | .foreign cause _ =>
      if cause.isRemoteAuthentication then
        .notAuthorized (.remoteManagement config.fullUsername.text host fault.describe)
      else if isTransportFault fault then .command (.interrupted host fault.describe)
      else fault
  | _ => fault

/-- Runs a command in the held shell; the result is the identifier that the shell gives it. -/
def start (shell : Shell) (command : Command) (script : String) : Run Fault State String := do
  Run.update fun now => { now with held := some { shell with commands := shell.commands.tail } }
  callOr (.run shell.handshake shell.id (invocation script)) command.running
  Run.update fun now =>
    { now with held := some { shell with commands := shell.commands.tail, ran := shell.ran + 1 } }
  pure s!"cmd-{shell.ran + 1}"

def converse (shell : Shell) (script : String) : Run Fault State Reply := do
  let command := shell.commands.headD .silent
  let name ← start shell command script
  Run.ensuring (callOr (.output shell.handshake shell.id name) command.reading)
    (callOr (.cleanUp shell.handshake shell.id name) command.cleaning)
  pure ⟨some command.stdout.decoded, some (Clixml.errorText command.stderr.decoded),
    command.exitCode⟩

def heldShell : Run Fault State Shell := do
  let now ← Run.state
  match now.held with
  | none => Run.fail .unsupportedOperation
  | some shell => pure shell

def dispatch (config : Config) (script : String) : Run Fault State Reply := do
  let shell ← heldShell
  Run.orHandle (converse shell script) fun fault => Run.fail (commandFault config fault)

/-- Closes a shell; failures of the transport do not matter then. -/
def closeShell (handshake : Nat) (shell : Json) (failure : Option Fault) : Run Fault State Unit :=
  Run.orHandle (callOr (.closeShell handshake shell) failure) fun fault =>
    if isTransportFault fault then pure () else Run.fail fault

def close : Run Fault State Unit := do
  let now ← Run.state
  Run.update fun now => { now with held := none }
  match now.held with
  | none => pure ()
  | some shell =>
      match shell.id with
      | .null => pure ()
      | id => closeShell shell.handshake id shell.closing

/-- An abandoned handshake comes to its end, and no fault of it reaches anyone. The worker closes
the shell that it opens, unless it looked before it was abandoned: it then hands the shell over, and
nobody takes it. -/
def finish (number : Nat) (handshake : Handshake) : Run Fault State Unit :=
  match handshake.opening with
  | some _ => pure ()
  | none =>
      if handshake.pace = .crossed then pure ()
      else Run.orHandle (closeShell number handshake.shell handshake.closing) fun _ => pure ()

def complete (number : Nat) : Run Fault State Unit := do
  let now ← Run.state
  match now.abandoned.lookup number with
  | none => pure ()
  | some handshake => do
      Run.update fun now => { now with abandoned := now.abandoned.filter (·.1 != number) }
      finish number handshake

/-- All abandoned handshakes come to their ends, in the order in which they were abandoned. -/
def release : Run Fault State Unit := do
  let now ← Run.state
  now.abandoned.forM fun (number, _) => complete number

def transport (config : Config) : Transport State where
  connected := State.connected
  connect := connect config
  dispatch := dispatch config
  close := close

end FleetPatch.WinRm
