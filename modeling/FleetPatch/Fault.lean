import FleetPatch.Json.Text
import FleetPatch.Text.Blank

/-!
# Faults

A fault is the cause for which an operation stopped. The first constructors are
this library's own findings; `foreign` is a failure of a client library or of
the system below, kept as it came; the last five say that a value does not
support what was asked of it.
-/

namespace FleetPatch

set_option autoImplicit false

inductive AuthenticationCause where
  | reported (text : String)
  | rejected (user host detail : String)
  | unusableKey (path detail : String)
  deriving Repr, DecidableEq

inductive ConnectionCause where
  | reported (text : String)
  | unresolved (host detail : String)
  | timedOut (host port limit : String)
  | failed (host port detail : String)
  | refused (host port : String)
  | silent (host port limit : String)
  | unreachable (host port detail : String)
  | handshakeTimedOut (host port limit : String)
  | unorderedLimit (host kind : String)
  | other (host detail : String)
  deriving Repr, DecidableEq

inductive CommandCause where
  | reported (text : String)
  | noChannel (host detail : String)
  | interrupted (host detail : String)
  | exitStatus (label operation : String) (code : Option Int) (errors : String)
  | remoteError (operation text : String)
  | unreadable (operation : String)
  deriving Repr, DecidableEq

inductive AuthorizationCause where
  | reported (text : String)
  | remoteManagement (user host detail : String)
  deriving Repr, DecidableEq

inductive AssetCause where
  | reported (text : String)
  | system (name : String)
  deriving Repr, DecidableEq

inductive InventoryCause where
  | unsetVariable (name : String)
  | missingField (field entry : String)
  | noFile (path : String)
  | invalidDocument (path : String)
  | noCredential (asset : String)
  | unknownCredential (name : String)
  deriving Repr, DecidableEq

inductive CommandLineCause where
  | unknownAsset (name : String)
  | unsupportedSystem (name system : String)
  | mixedSystems
  deriving Repr, DecidableEq

inductive ValueCause where
  | reported (text : String)
  | noPackageName
  | notKbIdentifier (quoted : String)
  | unknownAction (name : String)
  | timeouts (read operation : String)
  | packageStatus (name : String)
  | tooManyDigits (count : Nat)
  | embeddedNul
  deriving Repr, DecidableEq

/-- Failures of the client libraries and of the system. Shell kinds belong to the secure shell
client, remote kinds to the Windows management client, request kinds to its web requests. -/
inductive ForeignKind where
  | shell
  | shellAuthentication
  | keyPassphrase
  | remote
  | remoteAuthentication
  | remoteCredentials
  | remoteOperationTimeout
  | request
  | requestConnection
  | requestReadTimeout
  | system
  | timeout
  | refused
  | reset
  | nameResolution
  | directory
  | runtime
  | endOfInput
  deriving Repr, DecidableEq

namespace ForeignKind

def isShell : ForeignKind → Bool
  | .shell | .shellAuthentication | .keyPassphrase => true
  | _ => false

def isShellAuthentication : ForeignKind → Bool
  | .shellAuthentication | .keyPassphrase => true
  | _ => false

/-- Every failure of the Windows management protocol other than an operation timeout. -/
def isRemote : ForeignKind → Bool
  | .remote | .remoteAuthentication | .remoteCredentials => true
  | _ => false

def isRemoteAuthentication : ForeignKind → Bool
  | .remoteAuthentication | .remoteCredentials => true
  | _ => false

def isRequest : ForeignKind → Bool
  | .request | .requestConnection | .requestReadTimeout => true
  | _ => false

/-- Every failure of the system below: sockets, files and web requests. -/
def isSystem : ForeignKind → Bool
  | .system | .timeout | .refused | .reset | .nameResolution | .directory => true
  | kind => kind.isRequest

def label : ForeignKind → String
  | .shell => "SSHException"
  | .shellAuthentication => "AuthenticationException"
  | .keyPassphrase => "PasswordRequiredException"
  | .remote => "WinRMError"
  | .remoteAuthentication => "AuthenticationError"
  | .remoteCredentials => "InvalidCredentialsError"
  | .remoteOperationTimeout => "WinRMOperationTimeoutError"
  | .request => "RequestException"
  | .requestConnection => "ConnectionError"
  | .requestReadTimeout => "ReadTimeout"
  | .system => "OSError"
  | .timeout => "TimeoutError"
  | .refused => "ConnectionRefusedError"
  | .reset => "ConnectionResetError"
  | .nameResolution => "gaierror"
  | .directory => "IsADirectoryError"
  | .runtime => "RuntimeError"
  | .endOfInput => "EOFError"

end ForeignKind

inductive Fault where
  | authentication (cause : AuthenticationCause)
  | connection (cause : ConnectionCause)
  | command (cause : CommandCause)
  | notAuthorized (cause : AuthorizationCause)
  | unsupportedAsset (cause : AssetCause)
  | inventory (cause : InventoryCause)
  | unsupportedManager (name : String)
  | denied (reason : String)
  | commandLine (cause : CommandLineCause)
  | general (text : String)
  | invalidValue (cause : ValueCause)
  | foreign (kind : ForeignKind) (text : String)
  | wrongType
  | unsupportedOperation
  | unknownName
  | tooLarge
  | tooDeep
  deriving Repr, DecidableEq

def AuthenticationCause.message : AuthenticationCause → String
  | .reported text => text
  | .rejected user host detail => s!"Authentication failed for {user}@{host}: {detail}"
  | .unusableKey path detail => s!"Could not load private key {path}: {detail}"

def ConnectionCause.message : ConnectionCause → String
  | .reported text => text
  | .unresolved host detail => s!"DNS resolution failed for {host}: {detail}"
  | .timedOut host port limit => s!"Connection to {host}:{port} timed out after {limit}s"
  | .failed host port detail => s!"Failed to connect to {host}:{port}: {detail}"
  | .refused host port =>
      s!"Connection refused at {host}:{port} - WinRM may not be enabled. Run: winrm quickconfig"
  | .silent host port limit => s!"Cannot reach {host}:{port} (timed out after {limit}s)"
  | .unreachable host port detail => s!"Cannot reach {host}:{port}: {detail}"
  | .handshakeTimedOut host port limit =>
      s!"WinRM negotiate timed out for {host}:{port} after {limit}s"
  | .unorderedLimit host kind =>
      s!"Connection error for {host}: '>' not supported between instances of 'int' and '{kind}'"
  | .other host detail => s!"Connection error for {host}: {detail}"

def exitCodeText (code : Option Int) : String := (Json.ofInteger? code).text

def CommandCause.message : CommandCause → String
  | .reported text => text
  | .noChannel host detail => s!"Could not open a channel on {host}: {detail}"
  | .interrupted host detail => s!"Command execution failed on {host}: {detail}"
  | .exitStatus label operation code errors =>
      s!"{label} {operation} failed (exit code {exitCodeText code}): {errors}"
  | .remoteError operation text => s!"Windows Update {operation} failed: {text}"
  | .unreadable operation => s!"Windows Update {operation} returned no readable result"

def AuthorizationCause.message : AuthorizationCause → String
  | .reported text => text
  | .remoteManagement user host detail =>
      s!"WinRM authorization failed for {user}@{host}: {detail}\n\n" ++
      "The user can connect but doesn't have permission to execute PowerShell commands.\n" ++
      s!"To fix this, run these commands on {host} as Administrator:\n\n" ++
      "1. Add user to Remote Management Users group:\n" ++
      s!"   net localgroup \"Remote Management Users\" \"{user}\" /add\n\n" ++
      "2. Grant PowerShell remoting permissions:\n" ++
      "   Set-PSSessionConfiguration -Name Microsoft.PowerShell -ShowSecurityDescriptorUI\n\n" ++
      "3. Or, if domain user needs admin rights:\n" ++
      s!"   net localgroup \"Administrators\" \"{user}\" /add\n"

def AssetCause.message : AssetCause → String
  | .reported text => text
  | .system name => s!"Unsupported OS type: {name}"

def InventoryCause.message : InventoryCause → String
  | .unsetVariable name => s!"Environment variable not set: {name}"
  | .missingField field entry => s!"Asset entry missing required field {field}: {entry}"
  | .noFile path => s!"Inventory file not found: {path}"
  | .invalidDocument path => s!"Invalid JSON in inventory file {path}"
  | .noCredential asset => s!"No credential_ref set for asset {asset}"
  | .unknownCredential name => s!"Credential not found: {name}"

def CommandLineCause.message : CommandLineCause → String
  | .unknownAsset name => s!"Asset '{name}' not found in inventory"
  | .unsupportedSystem name system => s!"Unsupported OS for {name}: {system}"
  | .mixedSystems => "Cannot compare Windows and Linux assets"

def ValueCause.message : ValueCause → String
  | .reported text => text
  | .noPackageName => "At least one package name is required"
  | .notKbIdentifier quoted => s!"Not a KB identifier: {quoted}"
  | .unknownAction name => s!"Unknown Windows Update action: {name}"
  | .timeouts read operation =>
      s!"read_timeout ({read}s) must exceed operation_timeout ({operation}s)"
  | .packageStatus name => s!"Invalid package status: {name}"
  | .tooManyDigits count =>
      s!"Exceeds the limit (4300 digits) for integer string conversion: value has {count} " ++
      "digits; use sys.set_int_max_str_digits() to increase the limit"
  | .embeddedNul => "embedded null byte"

namespace Fault

def message : Fault → String
  | .authentication cause => cause.message
  | .connection cause => cause.message
  | .command cause => cause.message
  | .notAuthorized cause => cause.message
  | .unsupportedAsset cause => cause.message
  | .inventory cause => cause.message
  | .unsupportedManager name => s!"Unknown package manager: {name}"
  | .denied reason => reason
  | .commandLine cause => cause.message
  | .general text => text
  | .invalidValue cause => cause.message
  | .foreign _ text => text
  | .wrongType | .unsupportedOperation | .unknownName | .tooLarge | .tooDeep => ""

def label : Fault → String
  | .authentication _ => "AuthenticationError"
  | .connection _ => "ConnectionError"
  | .command _ => "CommandError"
  | .notAuthorized _ => "CommandNotAuthorizedError"
  | .unsupportedAsset _ => "UnsupportedAssetError"
  | .inventory _ => "InventoryError"
  | .unsupportedManager _ => "UnsupportedPackageManagerError"
  | .denied _ => "DestructiveActionDenied"
  | .commandLine _ => "CommandLineError"
  | .general _ => "PatchPilotError"
  | .invalidValue _ => "ValueError"
  | .foreign kind _ => kind.label
  | .wrongType => "WrongType"
  | .unsupportedOperation => "UnsupportedOperation"
  | .unknownName => "UnknownName"
  | .tooLarge => "TooLarge"
  | .tooDeep => "TooDeep"

/-- Whether the fault is a finding of this library rather than of what lies below it. -/
def isOwn : Fault → Bool
  | .authentication _ | .connection _ | .command _ | .notAuthorized _ | .unsupportedAsset _
  | .inventory _ | .unsupportedManager _ | .denied _ | .commandLine _ | .general _ => true
  | _ => false

/-- A short description: the trimmed text, or the label when there is no text. -/
def describe (fault : Fault) : String :=
  let text := Text.trimmed fault.message
  if text = "" then fault.label else text

def describe? : Option Fault → String
  | none => "unknown error"
  | some fault => fault.describe

end Fault

end FleetPatch
