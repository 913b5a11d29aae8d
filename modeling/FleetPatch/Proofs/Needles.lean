import FleetPatch.Proofs.Commands
import FleetPatch.Proofs.Words

/-!
# Texts without a needle

A text keeps clear of a needle when no occurrence of the needle begins in it,
whatever stands behind the text. Texts that keep clear may be put together, a
search passes over them, and so does a replacement.
-/

namespace FleetPatch.Text

set_option autoImplicit false

def differ (needle text : List Char) : Bool :=
  (needle.zip text).any fun (expected, found) => expected != found

theorem differ_append_append {needle text : List Char} (differs : differ needle text = true)
    (rest behind : List Char) : differ (needle ++ rest) (text ++ behind) = true := by
  induction needle generalizing text with
  | nil => cases differs
  | cons expected needle ih =>
      cases text with
      | nil => cases differs
      | cons found text =>
          simp only [differ, List.cons_append, List.zip_cons_cons, List.any_cons,
            Bool.or_eq_true] at differs ⊢
          exact differs.imp_right ih

theorem differ_append {needle text : List Char} (differs : differ needle text = true)
    (behind : List Char) : differ needle (text ++ behind) = true := by
  simpa only [List.append_nil] using differ_append_append differs [] behind

theorem differ_needle_append {needle text : List Char} (differs : differ needle text = true)
    (rest : List Char) : differ (needle ++ rest) text = true := by
  simpa only [List.append_nil] using differ_append_append differs rest []

theorem not_isPrefixOf_of_differ {needle text : List Char} (differs : differ needle text = true) :
    needle.isPrefixOf text = false := by
  rw [Bool.eq_false_iff]
  intro begins
  obtain ⟨behind, same⟩ := List.isPrefixOf_iff_prefix.mp begins
  refine append_ne_append_of_zip needle text behind [] differs ?_
  rw [List.append_nil, same]

/-- Whether no occurrence of the needle begins in the text, whatever stands behind it. -/
def isClear (needle : List Char) : List Char → Bool
  | [] => true
  | character :: rest => differ needle (character :: rest) && isClear needle rest

theorem isClear_cons {needle : List Char} {character : Char} {rest : List Char} :
    isClear needle (character :: rest) = true ↔
      differ needle (character :: rest) = true ∧ isClear needle rest = true := by
  rw [isClear, Bool.and_eq_true]

theorem isClear_append {needle first second : List Char} (clear : isClear needle first = true)
    (behind : isClear needle second = true) : isClear needle (first ++ second) = true := by
  induction first with
  | nil => exact behind
  | cons character rest ih =>
      obtain ⟨differs, clear⟩ := isClear_cons.mp clear
      exact isClear_cons.mpr ⟨differ_append differs second, ih clear⟩

theorem isClear_needle_append {needle text : List Char} (clear : isClear needle text = true)
    (rest : List Char) : isClear (needle ++ rest) text = true := by
  induction text with
  | nil => rfl
  | cons character behind ih =>
      obtain ⟨differs, clear⟩ := isClear_cons.mp clear
      exact isClear_cons.mpr ⟨differ_needle_append differs rest, ih clear⟩

/-- A text that does not hold the first character of a needle keeps clear of it. -/
theorem isClear_of_not_mem {head : Char} {needle text : List Char} (absent : head ∉ text) :
    isClear (head :: needle) text = true := by
  induction text with
  | nil => rfl
  | cons character rest ih =>
      obtain ⟨other, absent⟩ := not_or.mp (mt List.mem_cons.mpr absent)
      refine isClear_cons.mpr ⟨?_, ih absent⟩
      simp only [differ, List.zip_cons_cons, List.any_cons, bne_iff_ne.mpr other, Bool.true_or]

section Replacement

variable {old : List Char} (new : List Char)

theorem replaceFrom_skip (passed rest : List Char) :
    replaceFrom old new passed.length (passed ++ rest) = replaceFrom old new 0 rest := by
  induction passed with
  | nil => rfl
  | cons character passed ih => exact ih

/-- A replacement passes over what keeps clear of its needle. -/
theorem replaceAll_of_clear {text : List Char} (clear : isClear old text = true)
    (rest : List Char) : replaceAll old new (text ++ rest) = text ++ replaceAll old new rest := by
  unfold replaceAll
  induction text with
  | nil => rfl
  | cons character text ih =>
      obtain ⟨differs, clear⟩ := isClear_cons.mp clear
      have unbegun := not_isPrefixOf_of_differ (differ_append differs rest)
      rw [List.cons_append] at unbegun ⊢
      rw [replaceFrom, unbegun, Bool.and_false, ih clear]
      rfl

theorem replaceAll_of_clear_end {text : List Char} (clear : isClear old text = true) :
    replaceAll old new text = text := by
  have passed := replaceAll_of_clear new clear []
  rw [List.append_nil] at passed
  exact passed.trans (List.append_nil text)

theorem replaceAll_needle (head : Char) (needle rest : List Char) :
    replaceAll (head :: needle) new (head :: needle ++ rest) =
      new ++ replaceAll (head :: needle) new rest := by
  have begins : (head :: needle).isPrefixOf (head :: (needle ++ rest)) = true :=
    List.isPrefixOf_iff_prefix.mpr (List.prefix_append (head :: needle) rest)
  rw [replaceAll, List.cons_append, replaceFrom, begins]
  exact congrArg (new ++ ·) (replaceFrom_skip new needle rest)

end Replacement

theorem after_eq_none_of_differ {needle text : List Char} (differs : differ needle text = true) :
    after? needle text = none := by
  induction needle generalizing text with
  | nil => cases differs
  | cons expected needle ih =>
      cases text with
      | nil => rfl
      | cons found rest =>
          rw [after?]
          split
          next same =>
              simp only [differ, List.zip_cons_cons, List.any_cons, same, bne_self_eq_false,
                Bool.false_or] at differs
              exact ih differs
          · rfl

theorem not_occurs_of_clear {needle text : List Char} (inhabited : needle ≠ [])
    (clear : isClear needle text = true) : occurs needle text = false := by
  suffices absent : cutAt? needle text = none by rw [occurs, absent]; rfl
  induction text with
  | nil =>
      cases needle with
      | nil => exact absurd rfl inhabited
      | cons => rfl
  | cons character rest ih =>
      obtain ⟨differs, clear⟩ := isClear_cons.mp clear
      rw [cutAt?, after_eq_none_of_differ differs, ih clear]
      rfl

def Clear (needle text : String) : Prop := isClear needle.toList text.toList = true

instance (needle text : String) : Decidable (Clear needle text) :=
  inferInstanceAs (Decidable (isClear needle.toList text.toList = true))

def replaced (old new text : String) : String :=
  String.ofList (replaceAll old.toList new.toList text.toList)

section Clear

variable {needle first second : String}

theorem clear_ofList {text : List Char} (clear : isClear needle.toList text = true) :
    Clear needle (String.ofList text) := by
  rw [Clear, String.toList_ofList]
  exact clear

theorem Clear.append (clear : Clear needle first) (behind : Clear needle second) :
    Clear needle (first ++ second) := by
  rw [Clear, String.toList_append]
  exact isClear_append clear behind

/-- A text that keeps clear together with the line break behind it. -/
theorem clear_append_behind (clear : Clear needle (first ++ "\n")) (begins : Begins "\n" second)
    (behind : Clear needle second) : Clear needle (first ++ second) := by
  obtain ⟨rest, rfl⟩ := begins
  rw [Clear, String.toList_append] at behind
  rw [Clear, ← String.append_assoc, String.toList_append]
  exact isClear_append clear (isClear_cons.mp behind).2

theorem Clear.of_begins {lead : String} (clear : Clear lead second) (begins : Begins lead needle) :
    Clear needle second := by
  obtain ⟨rest, rfl⟩ := begins
  rw [Clear, String.toList_append]
  exact isClear_needle_append clear rest.toList

theorem Clear.contains (clear : Clear needle second) (inhabited : needle ≠ "") :
    contains second needle = false :=
  not_occurs_of_clear (mt String.toList_eq_nil_iff.mp inhabited) clear

theorem Clear.replaced_append (clear : Clear needle first) (new : String) :
    replaced needle new (first ++ second) = first ++ replaced needle new second := by
  rw [replaced, String.toList_append, replaceAll_of_clear _ clear, String.ofList_append,
    String.ofList_toList]
  rfl

theorem Clear.replaced_eq (clear : Clear needle second) (new : String) :
    replaced needle new second = second := by
  rw [replaced, replaceAll_of_clear_end _ clear, String.ofList_toList]

theorem replaced_needle_append (inhabited : needle ≠ "") (new : String) :
    replaced needle new (needle ++ second) = new ++ replaced needle new second := by
  rw [replaced, replaced, String.toList_append]
  cases spelled : needle.toList with
  | nil => exact absurd (String.toList_eq_nil_iff.mp spelled) inhabited
  | cons head rest =>
      rw [replaceAll_needle, String.ofList_append, String.ofList_toList]

end Clear

end FleetPatch.Text
