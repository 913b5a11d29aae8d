import FleetPatch.Proofs.Words

/-!
# Lines of a text

A text is its lines with their ends, and its lines are the only ones that it can be
parted into. A carriage return and the line feed behind it are one end, and the last
line may be without an end unless it is empty.
-/

namespace FleetPatch.Text

set_option autoImplicit false

def Unbroken (line : List Char) : Prop := ∀ character ∈ line, isLineEnd character = false

/-- A text that consists of lines. -/
inductive Parted : List Char → List (List Char) → Prop where
  | nothing : Parted [] []
  | unended {line : List Char} (inhabited : line ≠ []) (unbroken : Unbroken line) :
      Parted line [line]
  | ended {line rest : List Char} {lines : List (List Char)} {last : Char}
      (unbroken : Unbroken line) (ends : isLineEnd last = true)
      (single : last = '\r' → rest.head? ≠ some '\n') (behind : Parted rest lines) :
      Parted (line ++ last :: rest) (line :: lines)
  | returned {line rest : List Char} {lines : List (List Char)} (unbroken : Unbroken line)
      (behind : Parted rest lines) : Parted (line ++ '\r' :: '\n' :: rest) (line :: lines)

section Returns

theorem mergeReturns_cons_of_ne {character : Char} (other : character ≠ '\r')
    (rest : List Char) : mergeReturns (character :: rest) = character :: mergeReturns rest := by
  rw [mergeReturns]
  rintro _ rfl
  exact absurd rfl other

theorem mergeReturns_cons_of_head {character : Char} {rest : List Char}
    (single : character = '\r' → rest.head? ≠ some '\n') :
    mergeReturns (character :: rest) = character :: mergeReturns rest := by
  rw [mergeReturns]
  rintro more rfl rfl
  exact absurd rfl (single rfl)

theorem mergeReturns_unbroken_append {line : List Char} (unbroken : Unbroken line)
    (rest : List Char) : mergeReturns (line ++ rest) = line ++ mergeReturns rest := by
  induction line with
  | nil => rfl
  | cons first line ih =>
      obtain ⟨stays, unbroken⟩ := List.forall_mem_cons.mp unbroken
      have other : first ≠ '\r' := by
        rintro rfl
        cases stays
      rw [List.cons_append, mergeReturns_cons_of_ne other, ih unbroken, List.cons_append]

end Returns

section Lines

theorem lines_of_unbroken {line : List Char} (inhabited : line ≠ []) (unbroken : Unbroken line) :
    lines line = [line] := by
  have merged : mergeReturns line = line := by
    simpa [mergeReturns] using mergeReturns_unbroken_append unbroken []
  rw [lines, merged, pieces_of_uncut_end unbroken]
  exact if_neg (by simpa using inhabited)

/-- A line end that is one character parts a line from the lines behind it. -/
theorem lines_ended {line rest : List Char} {last : Char} (unbroken : Unbroken line)
    (ends : isLineEnd last = true) (single : last = '\r' → rest.head? ≠ some '\n') :
    lines (line ++ last :: rest) = line :: lines rest := by
  obtain ⟨piece, others, parted⟩ :=
    List.exists_cons_of_ne_nil (pieces_ne_nil isLineEnd (mergeReturns rest))
  rw [lines, lines, mergeReturns_unbroken_append unbroken, mergeReturns_cons_of_head single,
    pieces_of_uncut unbroken ends, parted, List.getLast?_cons_cons]
  split
  · rfl
  · rfl

theorem lines_returned {line : List Char} (unbroken : Unbroken line) (rest : List Char) :
    lines (line ++ '\r' :: '\n' :: rest) = line :: lines rest := by
  have merged : mergeReturns (line ++ '\r' :: '\n' :: rest) =
      mergeReturns (line ++ '\n' :: rest) := by
    rw [mergeReturns_unbroken_append unbroken, mergeReturns_unbroken_append unbroken]
    rfl
  have fed : lines (line ++ '\n' :: rest) = line :: lines rest :=
    lines_ended unbroken rfl (by simp)
  rw [← fed, lines, merged]
  rfl

theorem lines_of_parted {text : List Char} {found : List (List Char)} (parted : Parted text found) :
    lines text = found := by
  induction parted with
  | nothing => rfl
  | unended inhabited unbroken => exact lines_of_unbroken inhabited unbroken
  | ended unbroken ends single _ ih => rw [lines_ended unbroken ends single, ih]
  | returned unbroken _ ih => rw [lines_returned unbroken, ih]

theorem exists_first_line {text : List Char} (broken : ¬ Unbroken text) :
    ∃ line last rest, Unbroken line ∧ isLineEnd last = true ∧ text = line ++ last :: rest := by
  induction text with
  | nil => exact absurd (fun _ member => nomatch member) broken
  | cons first text ih =>
      cases ends : isLineEnd first with
      | true => exact ⟨[], first, text, fun _ member => (nomatch member), ends, rfl⟩
      | false =>
          have later : ¬ Unbroken text := fun unbroken =>
            broken (List.forall_mem_cons.mpr ⟨ends, unbroken⟩)
          obtain ⟨line, last, rest, unbroken, lastEnds, rfl⟩ := ih later
          exact ⟨first :: line, last, rest, List.forall_mem_cons.mpr ⟨ends, unbroken⟩,
            lastEnds, rfl⟩

theorem parted_lines (text : List Char) : Parted text (lines text) := by
  by_cases unbroken : Unbroken text
  · by_cases inhabited : text = []
    · rw [inhabited]
      exact .nothing
    · rw [lines_of_unbroken inhabited unbroken]
      exact .unended inhabited unbroken
  · obtain ⟨line, last, rest, unbroken, ends, shape⟩ := exists_first_line unbroken
    rw [shape]
    -- The line end is one character, or a carriage return with its line feed.
    by_cases single : last = '\r' → rest.head? ≠ some '\n'
    · rw [lines_ended unbroken ends single]
      exact .ended unbroken ends single (parted_lines rest)
    · simp only [Classical.not_imp, ne_eq, Classical.not_not] at single
      obtain ⟨rfl, feeds⟩ := single
      obtain ⟨more, rfl⟩ := List.head?_eq_some_iff.mp feeds
      rw [lines_returned unbroken]
      exact .returned unbroken (parted_lines more)
termination_by text.length
decreasing_by
  all_goals simp [shape]
  all_goals omega

theorem lines_eq_iff {text : List Char} {found : List (List Char)} :
    lines text = found ↔ Parted text found :=
  ⟨fun same => same ▸ parted_lines text, lines_of_parted⟩

/-- Behind a line feed a text begins a line, whatever stands before it. -/
theorem Parted.append {text rest : List Char} {found behind : List (List Char)}
    (parted : Parted text found) (closed : text.getLast? = some '\n') (next : Parted rest behind) :
    Parted (text ++ rest) (found ++ behind) := by
  induction parted with
  | nothing => cases closed
  | unended inhabited unbroken =>
      cases unbroken '\n' (List.mem_of_getLast? closed)
  | @ended line more lines last unbroken ends single later ih =>
      rw [List.append_assoc, List.cons_append, List.cons_append]
      cases more with
      | nil =>
          obtain rfl : last = '\n' := by simpa using closed
          obtain rfl : [] = lines := lines_of_parted later
          exact .ended unbroken rfl (by simp) next
      | cons first more =>
          refine .ended unbroken ends single (ih ?_)
          simpa using closed
  | @returned line more lines unbroken later ih =>
      rw [List.append_assoc, List.cons_append, List.cons_append, List.cons_append]
      cases more with
      | nil =>
          obtain rfl : [] = lines := lines_of_parted later
          exact .returned unbroken next
      | cons first more =>
          refine .returned unbroken (ih ?_)
          simpa using closed

end Lines

end FleetPatch.Text
