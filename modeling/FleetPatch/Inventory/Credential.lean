import FleetPatch.Environment
import FleetPatch.Json.Basic

/-!
# Credentials

Credentials may name variables of the environment in place of secrets. Every
string of a credential is expanded once, from left to right; what is put in is
never expanded again. One variable that is not set makes the whole credential
unusable, and so does a value for which there is no room on the stack.
-/

namespace FleetPatch.Credential

set_option autoImplicit false

/-- The steps of an expansion, for each of which there has to be room on the stack. -/
inductive Step where
  | value
  | items
  | members
  | text
  | lookup (name : String)

/-- What there is room for on the stack from which a credential is expanded: a step inside so many
lists and member sets. How much a step takes is up to the interpreter; but no stack is endless, so
that from some depth on not even a value can be begun. -/
structure Stack where
  has : Step → Nat → Bool
  limit : Nat
  ends : ∀ depth, limit ≤ depth → has .value depth = false

def Stack.upTo (limit : Nat) : Stack where
  has _ depth := depth < limit
  limit := limit
  ends _ beyond := decide_eq_false (Nat.not_lt.mpr beyond)

structure Resolver where
  environment : Environment
  stack : Stack

/-- The name in a placeholder at the start of a text: a dollar sign and braces around a name that
is not empty. -/
def placeholder? : List Char → Option (List Char)
  | '$' :: '\x7b' :: rest =>
      let name := rest.takeWhile (· != '\x7d')
      if name.isEmpty || (rest.drop name.length).isEmpty then none else some name
  | _ => none

namespace Resolver

variable (resolver : Resolver)

def enter (step : Step) (depth : Nat) : Except Fault Unit :=
  if resolver.stack.has step depth then .ok () else .error .tooDeep

def lookup (depth : Nat) (name : String) : Except Fault String := do
  resolver.enter (.lookup name) depth
  match resolver.environment.value? name with
  | none => .error (.inventory (.unsetVariable name))
  | some value => .ok value

/-- Copies a text with the values of its placeholders; `skip` counts the characters of the
placeholder just replaced that are still to be passed over. -/
def expandFrom (depth : Nat) : (skip : Nat) → List Char → Except Fault (List Char)
  | _, [] => .ok []
  | skip + 1, _ :: rest => expandFrom depth skip rest
  | 0, character :: rest =>
      match placeholder? (character :: rest) with
      | none => do
          let rest ← expandFrom depth 0 rest
          .ok (character :: rest)
      | some name => do
          let value ← resolver.lookup depth (String.ofList name)
          let rest ← expandFrom depth (name.length + 2) rest
          .ok (value.toList ++ rest)

def expand (depth : Nat) (text : String) : Except Fault String := do
  resolver.enter .text depth
  let text ← resolver.expandFrom depth 0 text.toList
  .ok (String.ofList text)

mutual

/-- A value inside so many lists and member sets, with every string in it expanded; names of members
stay as they are. -/
def resolveAt (depth : Nat) : Json → Except Fault Json
  | .obj members => do
      resolver.enter .value depth
      resolver.enter .members depth
      let members ← resolveMembers (depth + 1) members
      .ok (.obj members)
  | .arr items => do
      resolver.enter .value depth
      resolver.enter .items depth
      let items ← resolveItems (depth + 1) items
      .ok (.arr items)
  | .str text => do
      resolver.enter .value depth
      let text ← resolver.expand depth text
      .ok (.str text)
  | value => do
      resolver.enter .value depth
      .ok value

def resolveItems (depth : Nat) : List Json → Except Fault (List Json)
  | [] => .ok []
  | item :: rest => do
      let item ← resolveAt depth item
      let rest ← resolveItems depth rest
      .ok (item :: rest)

def resolveMembers (depth : Nat) : List (String × Json) → Except Fault (List (String × Json))
  | [] => .ok []
  | (name, value) :: rest => do
      let value ← resolveAt depth value
      let rest ← resolveMembers depth rest
      .ok ((name, value) :: rest)

end

def resolve (value : Json) : Except Fault Json := resolver.resolveAt 0 value

end Resolver

end FleetPatch.Credential
