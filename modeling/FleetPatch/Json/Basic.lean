import FleetPatch.Number.Shortest

/-!
# JSON values

Inventories, credentials and the answers of Windows hosts are JSON of any
shape, so values are kept as they were read. Members keep the order of their
first mention. Integers are unbounded; a number with a point or an exponent is a
double.
-/

namespace FleetPatch

set_option autoImplicit false

inductive Json where
  | null
  | bool (value : Bool)
  | int (value : Int)
  | real (value : Binary64)
  | str (value : String)
  | arr (items : List Json)
  | obj (members : List (String × Json))
  deriving Repr, Inhabited

namespace Json

/-- A member set: a name that is present keeps its place, a new one goes to the end. -/
def putMember (name : String) (value : Json) : List (String × Json) → List (String × Json)
  | [] => [(name, value)]
  | (key, old) :: rest =>
      if key = name then (key, value) :: rest else (key, old) :: putMember name value rest

def member? (name : String) (members : List (String × Json)) : Option Json := members.lookup name

def memberOrNull (name : String) (members : List (String × Json)) : Json :=
  (members.lookup name).getD .null

/-- Whether a value counts as present: null, false, zero and everything empty do not. -/
def isPresent : Json → Bool
  | .null => false
  | .bool value => value
  | .int value => value != 0
  | .real value => !value.isZero
  | .str value => value != ""
  | .arr items => !items.isEmpty
  | .obj members => !members.isEmpty

def orElse (value other : Json) : Json := if value.isPresent then value else other

/-- The integer that a number is equal to; truth values count as one and zero. -/
def asInteger? : Json → Option Int
  | .bool value => some (if value then 1 else 0)
  | .int value => some value
  | .real value => value.toInt?
  | _ => none

def ofText? : Option String → Json
  | some text => .str text
  | none => .null

def ofInteger? : Option Int → Json
  | some value => .int value
  | none => .null

mutual

/-- Equality of values: numbers and truth values are compared as numbers, members without regard
to their order. -/
def same : Json → Json → Bool
  | .null, .null => true
  | .str left, .str right => left == right
  | .arr left, .arr right => sameItems left right
  | .obj left, .obj right => left.length == right.length && sameMembers left right
  | .real left, .real right => left.sameNumber right
  | left, right =>
      match asInteger? left, asInteger? right with
      | some left, some right => left == right
      | _, _ => false

def sameItems : List Json → List Json → Bool
  | [], [] => true
  | left :: lefts, right :: rights => same left right && sameItems lefts rights
  | _, _ => false

def sameMembers : List (String × Json) → List (String × Json) → Bool
  | [], _ => true
  | (name, value) :: rest, others =>
      (match others.lookup name with
        | some other => same value other
        | none => false) && sameMembers rest others

end

end Json

end FleetPatch
