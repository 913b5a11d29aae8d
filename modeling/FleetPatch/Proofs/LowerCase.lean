import FleetPatch.Text.Lower

/-!
# Plain names in lower case

The lower form of a letter beyond the basic alphabet goes beyond it as well, but for
the sign for kelvin, and no lower form is a capital of the basic alphabet. So a text
in lower case that becomes a plain name when it is put into lower case again is that
name already.
-/

namespace FleetPatch.Text

set_option autoImplicit false

def IsCapital (character : Char) : Prop := 65 ≤ character.toNat ∧ character.toNat ≤ 90

/-- The characters of the basic alphabet but the letter k, which is the lower form of the sign for
kelvin. -/
def IsPlain (character : Char) : Prop := character.toNat < 128 ∧ character ≠ 'k'

instance (character : Char) : Decidable (IsPlain character) := inferInstanceAs (Decidable (_ ∧ _))

def staysBeyond (run : Nat × Nat × Nat × Nat) : Bool :=
  let (first, last, _, target) := run
  128 ≤ target && target + (last - first) < 0xD800 ||
    0xE000 ≤ target && target + (last - first) < 0x110000

theorem lowerRuns_beyond : (lowerRuns.all fun run =>
    run.2.1 < 128 || run == (0x212A, 0x212A, 1, 107) || staysBeyond run) = true := by
  decide +kernel

theorem toNat_ofNat_of_valid {code : Nat} (valid : code.isValidChar) :
    (Char.ofNat code).toNat = code := by
  rw [Char.ofNat, dif_pos valid]
  rfl

/-- The lower form in a run of letters beyond the basic alphabet: a k, or a character beyond it. -/
theorem lowered_of_run {first last step target code : Nat}
    (listed : (first, last, step, target) ∈ lowerRuns) (above : first ≤ code) (below : code ≤ last)
    (beyond : 128 ≤ code) :
    Char.ofNat (target + (code - first)) = 'k' ∨
      128 ≤ (Char.ofNat (target + (code - first))).toNat := by
  have checked := List.all_eq_true.mp lowerRuns_beyond _ listed
  simp only [Bool.or_eq_true, decide_eq_true_eq, beq_iff_eq, Prod.mk.injEq, staysBeyond,
    Bool.and_eq_true] at checked
  rcases checked with (plain | ⟨rfl, rfl, rfl, rfl⟩) | low | high
  · omega
  · have same : code = 0x212A := by omega
    subst same
    exact .inl rfl
  · have valid : (target + (code - first)).isValidChar := .inl (by omega)
    exact .inr (by rw [toNat_ofNat_of_valid valid]; omega)
  · have valid : (target + (code - first)).isValidChar := .inr ⟨by omega, by omega⟩
    exact .inr (by rw [toNat_ofNat_of_valid valid]; omega)

theorem exists_not_plain {character : Char} (beyond : 128 ≤ character.toNat) :
    ∃ lowered ∈ lowerChar character, ¬ IsPlain lowered := by
  unfold lowerChar
  dsimp only
  rw [if_neg (by omega)]
  split
  · exact ⟨Char.ofNat 0x307, by simp, by decide⟩
  · split
    next first last step target found =>
        have covered := List.find?_some found
        simp only [Bool.and_eq_true, decide_eq_true_eq] at covered
        refine ⟨_, List.mem_singleton_self _, fun plain => ?_⟩
        rcases lowered_of_run (List.mem_of_find?_eq_some found) covered.1.1 covered.1.2 beyond with
          kelvin | high
        · exact plain.2 kelvin
        · exact absurd plain.1 (by omega)
    next => exact ⟨character, List.mem_singleton_self _, fun plain => absurd plain.1 (by omega)⟩

theorem not_capital_of_mem_lowerChar {character lowered : Char}
    (member : lowered ∈ lowerChar character) : ¬ IsCapital lowered := by
  intro capital
  unfold lowerChar at member
  dsimp only at member
  split at member
  · split at member
    next held =>
        have valid : (character.toNat + 32).isValidChar := .inl (by omega)
        rw [List.mem_singleton.mp member, IsCapital, toNat_ofNat_of_valid valid] at capital
        omega
    next small =>
        rw [List.mem_singleton.mp member] at capital
        exact small capital
  · split at member
    · simp only [List.mem_cons, List.not_mem_nil, or_false] at member
      rcases member with rfl | rfl <;> revert capital <;> unfold IsCapital <;> decide
    · split at member
      next first last step target found =>
          have covered := List.find?_some found
          simp only [Bool.and_eq_true, decide_eq_true_eq] at covered
          rw [List.mem_singleton.mp member] at capital
          rcases lowered_of_run (List.mem_of_find?_eq_some found) covered.1.1 covered.1.2
              (by omega) with
            kelvin | high
          · rw [kelvin] at capital
            revert capital
            unfold IsCapital
            decide
          · exact absurd capital.2 (by omega)
      next =>
          rw [List.mem_singleton.mp member] at capital
          exact absurd capital.2 (by omega)

theorem not_capital_of_mem_lowerFrom {before text : List Char} {lowered : Char}
    (member : lowered ∈ lowerFrom before text) : ¬ IsCapital lowered := by
  induction text generalizing before with
  | nil => cases member
  | cons character rest continued =>
      rcases List.mem_append.mp member with first | later
      · split at first
        · have sigma : lowered = Char.ofNat 0x3C2 ∨ lowered = Char.ofNat 0x3C3 := by
            split at first
            · exact .inl (List.mem_singleton.mp first)
            · exact .inr (List.mem_singleton.mp first)
          rcases sigma with rfl | rfl <;> unfold IsCapital <;> decide
        · exact not_capital_of_mem_lowerChar first
      · exact continued later

theorem lowerChar_of_small {character : Char} (basic : character.toNat < 128)
    (small : ¬ IsCapital character) : lowerChar character = [character] := by
  unfold lowerChar
  dsimp only
  rw [if_pos basic]
  exact if_neg small

theorem lowerFrom_of_small {before text : List Char}
    (small : ∀ character ∈ text, character.toNat < 128 ∧ ¬ IsCapital character) :
    lowerFrom before text = text := by
  induction text generalizing before with
  | nil => rfl
  | cons character rest continued =>
      obtain ⟨basic, lowered⟩ := small character List.mem_cons_self
      have unsigned : character.toNat ≠ 0x3A3 := by omega
      rw [lowerFrom, if_neg unsigned, lowerChar_of_small basic lowered,
        continued fun other member => small other (List.mem_cons_of_mem _ member)]
      rfl

theorem lowerChar_of_plain {character : Char}
    (plain : ∀ lowered ∈ lowerChar character, IsPlain lowered) (small : ¬ IsCapital character) :
    lowerChar character = [character] := by
  have basic : character.toNat < 128 := by
    apply Nat.lt_of_not_le
    intro beyond
    obtain ⟨lowered, member, other⟩ := exists_not_plain beyond
    exact other (plain lowered member)
  exact lowerChar_of_small basic small

/-- A text without capitals whose lower form is plain is that form. -/
theorem lowerFrom_of_plain {before text : List Char}
    (small : ∀ character ∈ text, ¬ IsCapital character)
    (plain : ∀ lowered ∈ lowerFrom before text, IsPlain lowered) :
    lowerFrom before text = text := by
  induction text generalizing before with
  | nil => rfl
  | cons character rest continued =>
      have unsigned : character.toNat ≠ 0x3A3 := by
        intro sigma
        have formed : ∃ lowered ∈ lowerFrom before (character :: rest), ¬ IsPlain lowered := by
          simp only [lowerFrom, sigma, if_true]
          split
          · exact ⟨Char.ofNat 0x3C2, by simp, by decide⟩
          · exact ⟨Char.ofNat 0x3C3, by simp, by decide⟩
        obtain ⟨lowered, member, other⟩ := formed
        exact other (plain lowered member)
      simp only [lowerFrom, unsigned, if_false, List.forall_mem_append] at plain ⊢
      rw [lowerChar_of_plain plain.1 (small character List.mem_cons_self),
        continued (fun other member => small other (List.mem_cons_of_mem _ member)) plain.2]
      rfl

theorem lower_eq_self {text : String}
    (small : ∀ character ∈ text.toList, character.toNat < 128 ∧ ¬ IsCapital character) :
    lower text = text := by
  rw [lower, lowerFrom_of_small small, String.ofList_toList]

theorem lower_eq_of_lower_lower {text name : String}
    (plain : ∀ character ∈ name.toList, IsPlain character)
    (lowered : lower (lower text) = name) : lower text = name := by
  rw [← lowered]
  unfold lower at lowered ⊢
  rw [String.toList_ofList] at lowered ⊢
  rw [← lowered, String.toList_ofList] at plain
  rw [lowerFrom_of_plain (fun _ member => not_capital_of_mem_lowerFrom member) plain]

end FleetPatch.Text
