import FleetPatch.Ssh.Channel
import FleetPatch.Ssh.Config
import FleetPatch.Text.Utf8
import FleetPatch.Transport

/-!
# Shell connections

A connection logs on with a private key that exists and can be loaded, or else
with a password, and runs each command on a channel of its own. A client that
does not get through is closed before its fault is told; a channel is closed
however its command ends. Only the faults that the client and the system are
known to raise are told in the words of this library, any other passes as it is,
and so does every fault of closing.
-/

namespace FleetPatch.Ssh

set_option autoImplicit false

inductive KeyKind where
  | rsa
  | ed25519
  | ecdsa
  deriving Repr, DecidableEq

def keyKinds : List KeyKind := [.rsa, .ed25519, .ecdsa]

/-- The private keys on disk by path, each with the faults of loading it as a key of some kind. -/
abbrev KeyFiles := List (String × List (KeyKind × Fault))

inductive Secret where
  | key (kind : KeyKind)
  | password (value : Json)
  | nothing
  deriving Repr

inductive Link where
  | active
  | inactive
  | absent
  deriving Repr, DecidableEq

/-- What becomes of one client: the faults of connecting and of closing it, its transport, and its
channels to come. -/
structure Client where
  connecting : Option Fault
  closing : Option Fault
  link : Link
  channels : List Channel
  deriving Repr

def Client.plain : Client := ⟨none, none, .active, []⟩

/-- One call to the client library. Clients are told apart by their number. -/
inductive Call where
  | loadKey (kind : KeyKind) (path : String) (passphrase : Json)
  | create (client : Nat)
  | trustUnknownHosts (client : Nat)
  | connect (client : Nat) (secret : Secret)
  | closeClient (client : Nat)
  | openChannel (client : Nat)
  | send (command : String)
  | read (way : ChannelRead)
  | closeChannel
  deriving Repr

/-- A connection with the client that it holds, what is to come, and the calls made so far. -/
structure State where
  keyFiles : KeyFiles
  upcoming : List Client
  created : Nat
  current : Option (Nat × Client)
  calls : List Call

namespace State

def fresh (keyFiles : KeyFiles) (upcoming : List Client) : State :=
  ⟨keyFiles, upcoming, 0, none, []⟩

def connected (now : State) : Bool :=
  match now.current with
  | some (_, client) => client.link == .active
  | none => false

def record (call : Call) (now : State) : State := { now with calls := now.calls ++ [call] }

def setLink (link : Link) (now : State) : State :=
  { now with current := now.current.map fun (number, client) => (number, { client with link }) }

end State

def call (made : Call) : Run Fault State Unit := Run.update (State.record made)

/-- Makes a call that a script may let fail. -/
def callOr (made : Call) (failure : Option Fault) : Run Fault State Unit := do
  call made
  match failure with
  | some fault => Run.fail fault
  | none => pure ()

def noUsableKey (path : String) : Fault :=
  .foreign .shell ("Could not load private key from " ++ path)

/-- Loads a key as the first kind that the client library accepts; a fault that is not the
library's own stops the trying. -/
def loadKey (passphrase : Json) (path : String) (faults : List (KeyKind × Fault)) :
    List KeyKind → Run Fault State KeyKind
  | [] => Run.fail (noUsableKey path)
  | kind :: rest => do
      call (.loadKey kind path passphrase)
      match faults.lookup kind with
      | none => pure kind
      | some fault =>
          match fault with
          | .foreign cause _ =>
              if cause.isShell then loadKey passphrase path faults rest else Run.fail fault
          | _ => Run.fail fault

def passwordSecret (config : Config) : Secret :=
  if config.password.isPresent then .password config.password else .nothing

def isKeyFault : Fault → Bool
  | .foreign cause _ => cause.isShell || cause.isSystem
  | _ => false

/-- What to log on with: the key if its file exists and it loads, else the password. A key that
does not load is told only when there is no password. -/
def chooseSecret (homes : Path.Homes) (config : Config) : Run Fault State Secret := do
  let now ← Run.state
  match ← Run.lift (config.keyPath homes) with
  | none => pure (passwordSecret config)
  | some path =>
      match now.keyFiles.lookup path with
      | none => pure (passwordSecret config)
      | some faults =>
          Run.orHandle (do
            let kind ← loadKey config.privateKeyPassphrase path faults keyKinds
            pure (.key kind))
            fun fault =>
              if isKeyFault fault then
                if config.password.isPresent then pure (.password config.password)
                else Run.fail (.authentication (.unusableKey path fault.describe))
              else Run.fail fault

/-- How a fault of connecting is told; one that is not known is not told. -/
def connectFault? (config : Config) (fault : Fault) : Option Fault :=
  let host := config.hostname.text
  let port := config.port.text
  match fault with
  | .foreign cause _ =>
      if cause.isShellAuthentication then
        some (.authentication (.rejected config.username.text host fault.describe))
      else if cause = .nameResolution then some (.connection (.unresolved host fault.describe))
      else if cause = .timeout then
        some (.connection (.timedOut host port config.connectTimeout.text))
      else if cause.isSystem || cause.isShell then
        some (.connection (.failed host port fault.describe))
      else none
  | _ => none

def nextClient : Run Fault State (Nat × Client) := fun now =>
  let number := now.created
  match now.upcoming with
  | client :: rest => (.ok (number, client), { now with upcoming := rest, created := number + 1 })
  | [] => (.ok (number, .plain), { now with created := number + 1 })

/-- Gives a client up that could not connect. One that a known fault stopped is closed before that
is told. -/
def giveUp (config : Config) (number : Nat) (client : Client) (fault : Fault) :
    Run Fault State Unit :=
  match connectFault? config fault with
  | some told => do
      callOr (.closeClient number) client.closing
      Run.fail told
  | none => Run.fail fault

def connectClient (config : Config) (secret : Secret) : Run Fault State Unit := do
  let (number, client) ← nextClient
  call (.create number)
  call (.trustUnknownHosts number)
  Run.orHandle (callOr (.connect number secret) client.connecting) (giveUp config number client)
  Run.update fun now => { now with current := some (number, client) }

def connect (homes : Path.Homes) (config : Config) : Run Fault State Unit := do
  let now ← Run.state
  unless now.connected do
    let secret ← chooseSecret homes config
    connectClient config secret

def isChannelFault : Fault → Bool
  | .foreign cause _ => cause.isShell || cause.isSystem || cause == .endOfInput
  | _ => false

def tellingChannelFaults {α : Type} (cause : String → CommandCause) (run : Run Fault State α) :
    Run Fault State α :=
  Run.orHandle run fun fault =>
    Run.fail (if isChannelFault fault then .command (cause fault.describe) else fault)

/-- Opens the next channel of the held client; a client without a transport has none. -/
def openChannel (host : String) : Run Fault State Channel := do
  let now ← Run.state
  match now.current with
  | none => Run.fail .unsupportedOperation
  | some (number, client) =>
      if client.link = .absent then Run.fail .unsupportedOperation
      else
        let channel := client.channels.headD .silent
        Run.update fun now =>
          { now with current := some (number, { client with channels := client.channels.tail }) }
        tellingChannelFaults (.noChannel host) (callOr (.openChannel number) channel.opening)
        pure channel

def receive (channel : Channel) : Run Fault State Reply := do
  let transcript := channel.transcript
  transcript.reads.forM fun way => call (.read way)
  match transcript.broken.or channel.ending with
  | some fault => Run.fail fault
  | none =>
      pure ⟨some (Text.Utf8.decodeIgnoring transcript.stdout),
        some (Text.Utf8.decodeIgnoring transcript.stderr), channel.exitCode⟩

def converse (host command : String) (channel : Channel) : Run Fault State Reply :=
  tellingChannelFaults (.interrupted host) (do
    callOr (.send command) channel.sending
    receive channel)

def dispatch (config : Config) (command : String) : Run Fault State Reply := do
  let host := config.hostname.text
  let channel ← openChannel host
  Run.ensuring (converse host command channel) (callOr .closeChannel channel.closing)

def close : Run Fault State Unit := do
  let now ← Run.state
  match now.current with
  | none => pure ()
  | some (number, client) => do
      Run.update fun now => { now with current := none }
      callOr (.closeClient number) client.closing

def transport (homes : Path.Homes) (config : Config) : Transport State where
  connected := State.connected
  connect := connect homes config
  dispatch := dispatch config
  close := close

end FleetPatch.Ssh
