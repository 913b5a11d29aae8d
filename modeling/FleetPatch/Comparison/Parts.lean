import FleetPatch.Comparison
import FleetPatch.Json.Convert
import FleetPatch.Number.Order

/-!
# Comparing the parts of two values

The parts of any two values can be compared as keys. Null is no key, lists and
member sets cannot be keys, and of equal keys the first mention stands for all.
Texts are put in order among texts and numbers among numbers; there is no order
between the two.
-/

namespace FleetPatch.Comparison

set_option autoImplicit false

def isNull : Json → Bool
  | .null => true
  | _ => false

/-- Whether a value has parts of its own, which a key has not. -/
def isComposite : Json → Bool
  | .arr _ | .obj _ => true
  | _ => false

def mentions (keys : List Json) (key : Json) : Bool := keys.any fun other => other.same key

def distinct : List Json → List Json
  | [] => []
  | key :: rest => key :: (distinct rest).filter fun later => !key.same later

def keysOf (value : Json) : Except Fault (List Json) := do
  let parts ← value.elements
  let keys := parts.filter fun part => !isNull part
  if keys.any isComposite then .error .wrongType else .ok (distinct keys)

def before : Json → Json → Except Fault Bool
  | .str left, .str right => .ok (decide (left < right))
  | left, right => do
      let left ← left.magnitude
      let right ← right.magnitude
      .ok (left.before right)

def insertPart (key : Json) : List Json → Except Fault (List Json)
  | [] => .ok [key]
  | head :: rest => do
      if ← before key head then .ok (key :: head :: rest)
      else (insertPart key rest).map (head :: ·)

def increasing : List Json → Except Fault (List Json)
  | [] => .ok []
  | key :: rest => do
      let rest ← increasing rest
      insertPart key rest

def texts? : List Json → Option (List String)
  | [] => some []
  | .str text :: rest => (texts? rest).map (text :: ·)
  | _ :: _ => none

/-- The comparison of two key lists, each of which holds no equal keys. Keys that both have are
taken from the shorter list. -/
def ofDistinct (first second : List Json) : Except Fault (Comparison Json) := do
  let common :=
    if second.length ≤ first.length then second.filter (mentions first)
    else first.filter (mentions second)
  let common ← increasing common
  let onlyFirst ← increasing (first.filter fun key => !mentions second key)
  let onlySecond ← increasing (second.filter fun key => !mentions first key)
  .ok ⟨common, onlyFirst, onlySecond⟩

def ofParts (first second : Json) : Except Fault (Comparison Json) := do
  let left ← keysOf first
  let right ← keysOf second
  match texts? left, texts? right with
  | some left, some right => .ok ((ofKeys left right).map Json.str)
  | _, _ => ofDistinct left right

end FleetPatch.Comparison
