import FleetPatch.Json.Convert
import FleetPatch.Path

/-!
# Settings of a shell connection

The values are kept as they are given, and messages show them as they are. A
private key is named by a path that may begin at a home directory.
-/

namespace FleetPatch.Ssh

set_option autoImplicit false

structure Config where
  hostname : Json
  username : Json
  port : Json
  privateKeyPath : Json
  privateKeyPassphrase : Json
  password : Json
  connectTimeout : Json
  deriving Repr

namespace Config

def ofHost (hostname username : Json) : Config :=
  ⟨hostname, username, .int 22, .null, .null, .null, .int 10⟩

def ofMembers (members : List (String × Json)) : Except Fault Config := do
  Json.requireNames ["hostname", "username"]
    ["hostname", "username", "port", "private_key_path", "private_key_passphrase", "password",
      "connect_timeout"] members
  let given (name : String) : Json := Json.memberOrNull name members
  .ok {
    hostname := given "hostname"
    username := given "username"
    port := Json.memberOr (.int 22) "port" members
    privateKeyPath := given "private_key_path"
    privateKeyPassphrase := given "private_key_passphrase"
    password := given "password"
    connectTimeout := Json.memberOr (.int 10) "connect_timeout" members }

/-- The path of the private key, if one is given; what is no text is no path. -/
def keyPath (homes : Path.Homes) (config : Config) : Except Fault (Option String) :=
  if config.privateKeyPath.isPresent then
    match config.privateKeyPath with
    | .str path => (Path.expandHome homes path).map some
    | _ => .error .wrongType
  else .ok none

end Config

end FleetPatch.Ssh
