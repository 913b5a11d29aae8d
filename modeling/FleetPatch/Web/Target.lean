import FleetPatch.Json.Reader
import FleetPatch.Text.Quoted
import FleetPatch.Text.Utf8

/-!
# Request targets

A target is a path and a query. Scheme, authority and fragment do not count. In
the path, percent escapes stand for bytes, and ill-formed bytes become the
replacement character. A query is a list of parameters joined with ampersands;
in it a plus sign stands for a blank and ill-formed bytes keep their escapes.
-/

namespace FleetPatch.Web

set_option autoImplicit false

structure Target where
  path : String
  parameters : List (String × String)
  deriving Repr, DecidableEq

namespace Target

def isSchemeCharacter (character : Char) : Bool :=
  character.isAlphanum || character = '+' || character = '-' || character = '.'

def withoutScheme (text : List Char) : List Char :=
  match Text.cutAt? [':'] text with
  | some (first :: scheme, rest) =>
      if first.isAlpha && scheme.all isSchemeCharacter then rest else text
  | _ => text

def withoutAuthority : List Char → List Char
  | '/' :: '/' :: rest =>
      rest.dropWhile fun character => character != '/' && character != '?' && character != '#'
  | text => text

/-- Path and query of a reference. Blanks and control characters in front and line ends and tabs
anywhere do not count. -/
def pathAndQuery (text : List Char) : List Char × List Char :=
  let visible := (text.dropWhile fun character => character.toNat ≤ 32).filter fun character =>
    character != '\t' && character != '\r' && character != '\n'
  let reference := (withoutAuthority (withoutScheme visible)).takeWhile (· != '#')
  (reference.takeWhile (· != '?'), (reference.dropWhile (· != '?')).drop 1)

/-- The bytes of a text with its percent escapes; what is no escape stands for itself. -/
def percentDecoded : List Char → List UInt8
  | '%' :: high :: low :: rest =>
      match Json.hexValue? high, Json.hexValue? low with
      | some high, some low => UInt8.ofNat (16 * high + low) :: percentDecoded rest
      | _, _ => 0x25 :: percentDecoded (high :: low :: rest)
  | character :: rest => Text.Utf8.encode (String.singleton character) ++ percentDecoded rest
  | [] => []

def percentEscape (byte : UInt8) : List Char :=
  '%' :: (Text.hex 2 byte.toNat).map Char.toUpper

/-- The text of bytes in which ill-formed bytes keep their escapes. -/
def textKeepingEscapes (bytes : List UInt8) : String :=
  String.ofList ((Text.Utf8.parts bytes).flatMap fun part =>
    match part with
    | .character value => [value]
    | .illFormed bytes => bytes.flatMap percentEscape)

def queryText (text : List Char) : String :=
  textKeepingEscapes (percentDecoded (text.map fun character =>
    if character = '+' then ' ' else character))

/-- The parameter of one entry of a query; an entry without an equals sign has an empty value. -/
def parameter? (entry : List Char) : Option (String × String) :=
  if entry.isEmpty then none
  else
    match Text.cutAt? ['='] entry with
    | some (name, value) => some (queryText name, queryText value)
    | none => some (queryText entry, "")

def parametersOf (query : List Char) : List (String × String) :=
  (Text.pieces (· == '&') query).filterMap parameter?

def plainPath (path : List Char) : String :=
  let decoded := Text.Utf8.decodeReplacing (percentDecoded path)
  if decoded = "" then "" else String.ofList ('/' :: decoded.toList.dropWhile (· == '/'))

/-- The target of a text. The reference is taken apart twice: path and query of a full reference
make up the reference that the request line holds. -/
def ofText (text : String) : Target :=
  let (path, query) := pathAndQuery text.toList
  let (path, query) := pathAndQuery (if query.isEmpty then path else path ++ '?' :: query)
  ⟨plainPath path, parametersOf query⟩

def value? (name : String) (target : Target) : Option String := target.parameters.lookup name

end Target

end FleetPatch.Web
