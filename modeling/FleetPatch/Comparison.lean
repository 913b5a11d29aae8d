/-!
# Comparing the keys of two hosts

Two key lists are compared as sets. The three parts of the comparison are each
in increasing order by code point, whatever the order and number of mentions in
the lists.
-/

namespace FleetPatch

set_option autoImplicit false

structure Comparison (κ : Type) where
  common : List κ
  onlyFirst : List κ
  onlySecond : List κ
  deriving Repr, DecidableEq

namespace Comparison

def insertKey (key : String) : List String → List String
  | [] => [key]
  | head :: rest =>
      if key < head then key :: head :: rest
      else if key = head then head :: rest
      else head :: insertKey key rest

theorem mem_insert_key {key other : String} {keys : List String} :
    other ∈ insertKey key keys ↔ other = key ∨ other ∈ keys := by
  induction keys with
  | nil => simp [insertKey]
  | cons head rest induction =>
      by_cases below : key < head
      · simp [insertKey, below]
      · by_cases same : key = head
        · subst same
          simp [insertKey]
        · simp only [insertKey, below, same, if_false, List.mem_cons, induction]
          constructor
          · rintro (found | found | found) <;> simp [found]
          · rintro (found | found | found) <;> simp [found]

def keySet (keys : List String) : List String := keys.foldr insertKey []

theorem mem_key_set {key : String} {keys : List String} : key ∈ keySet keys ↔ key ∈ keys := by
  induction keys with
  | nil => simp [keySet]
  | cons head rest induction =>
      change key ∈ insertKey head (keySet rest) ↔ key ∈ head :: rest
      rw [mem_insert_key, induction, List.mem_cons]

def ofKeys (first second : List String) : Comparison String where
  common := (keySet first).filter (second.contains ·)
  onlyFirst := (keySet first).filter (!second.contains ·)
  onlySecond := (keySet second).filter (!first.contains ·)

def identical {κ : Type} (comparison : Comparison κ) : Bool :=
  comparison.onlyFirst.isEmpty && comparison.onlySecond.isEmpty

def map {κ ι : Type} (f : κ → ι) (comparison : Comparison κ) : Comparison ι :=
  ⟨comparison.common.map f, comparison.onlyFirst.map f, comparison.onlySecond.map f⟩

end Comparison

end FleetPatch
