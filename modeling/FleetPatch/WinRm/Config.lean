import FleetPatch.Json.Convert
import FleetPatch.Number.Order

/-!
# Settings of a remote management connection

The time after which the client gives up reading has to exceed the time after
which the host gives up the operation, or else the client would be gone before
the host could report. A user of a domain is written behind its name.
-/

namespace FleetPatch.WinRm

set_option autoImplicit false

structure Config where
  hostname : Json
  username : Json
  password : Json
  domain : Json
  port : Json
  useSsl : Json
  transport : Json
  connectTimeout : Json
  operationTimeout : Json
  readTimeout : Json
  deriving Repr

namespace Config

def readMargin : Int := 10

def readTimeoutFor (operation read : Json) : Except Fault Json :=
  match read with
  | .null => operation.plus readMargin
  | given => .ok given

/-- Whether an operation has at least a second and reading outlasts it. A limit that is no number
cannot be compared. -/
def timeoutsFit (operation read : Json) : Except Fault Bool := do
  let limit ← operation.magnitude
  if limit.before (.ratio 1 1) then .ok false
  else do
    let reading ← read.magnitude
    .ok (!reading.notBehind limit)

def checked (config : Config) : Except Fault Config := do
  let read ← readTimeoutFor config.operationTimeout config.readTimeout
  if ← timeoutsFit config.operationTimeout read then .ok { config with readTimeout := read }
  else .error (.invalidValue (.timeouts read.text config.operationTimeout.text))

def ofMembers (members : List (String × Json)) : Except Fault Config := do
  Json.requireNames ["hostname", "username", "password"]
    ["hostname", "username", "password", "domain", "port", "use_ssl", "transport",
      "connect_timeout", "operation_timeout", "read_timeout"] members
  let given (name : String) : Json := Json.memberOrNull name members
  checked {
    hostname := given "hostname"
    username := given "username"
    password := given "password"
    domain := given "domain"
    port := Json.memberOr (.int 5985) "port" members
    useSsl := Json.memberOr (.bool false) "use_ssl" members
    transport := Json.memberOr (.str "ntlm") "transport" members
    connectTimeout := Json.memberOr (.int 10) "connect_timeout" members
    operationTimeout := Json.memberOr (.int 60) "operation_timeout" members
    readTimeout := given "read_timeout" }

def ofHost (hostname username password domain : Json) : Config where
  hostname := hostname
  username := username
  password := password
  domain := domain
  port := .int 5985
  useSsl := .bool false
  transport := .str "ntlm"
  connectTimeout := .int 10
  operationTimeout := .int 60
  readTimeout := .int 70

def endpoint (config : Config) : String :=
  let scheme := if config.useSsl.isPresent then "https" else "http"
  scheme ++ "://" ++ config.hostname.text ++ ":" ++ config.port.text ++ "/wsman"

def fullUsername (config : Config) : Json :=
  if config.domain.isPresent then .str (config.domain.text ++ "\\" ++ config.username.text)
  else config.username

def certificateCheck (config : Config) : String :=
  if config.useSsl.isPresent then "ignore" else "validate"

end Config

end FleetPatch.WinRm
