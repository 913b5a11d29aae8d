import FleetPatch.Proofs.Marks
import FleetPatch.Proofs.Needles
import FleetPatch.WinRm.Clixml

/-!
# Texts of error streams

A search for a needle passes over a text in which no occurrence begins, so a cut is at the first
occurrence and a replacement is of the first one and of those behind it. The tags around the error
elements of a stream hold their first character only once: no tag runs over the end of a text
without it, and reading finds the next tag again whatever stands between two.
-/

namespace FleetPatch.Text

set_option autoImplicit false

section Needles

variable {needle lead text rest : List Char}

theorem free_of_absent (absent : ¬ needle <:+: text) : Free (· = needle) text [] := by
  rintro suffix inhabited ends mark rfl begins
  rw [List.append_nil] at begins
  exact absent (begins.isInfix.trans ends.isInfix)

theorem free_of_first (inhabited : needle ≠ []) (first : ¬ needle <:+: lead ++ needle.dropLast)
    (rest : List Char) : Free (· = needle) lead (needle ++ rest) := by
  rintro suffix given ends mark rfl begins
  apply first
  have short : mark <+: suffix ++ mark.dropLast := by
    have cut : suffix ++ mark.dropLast <+: suffix ++ (mark ++ rest) :=
      (List.prefix_append_right_inj suffix).mpr
        ((List.dropLast_prefix mark).trans (List.prefix_append mark rest))
    apply List.prefix_of_prefix_length_le begins cut
    have long := List.length_pos_of_ne_nil given
    simp only [List.length_append, List.length_dropLast]
    omega
  obtain ⟨before, rfl⟩ := ends
  rw [List.append_assoc]
  exact short.isInfix.trans (List.suffix_append before _).isInfix

/-- A needle that holds its first character only once begins nowhere in a text without it, if that
character stands behind the text. -/
theorem free_of_single {head : Char} (once : head ∉ needle) (absent : ¬ (head :: needle) <:+: lead)
    (begins : ∀ next ∈ rest.head?, next = head) : Free (· = head :: needle) lead rest := by
  obtain rfl | ⟨body, last, rfl⟩ := List.eq_nil_or_concat lead
  · exact free_nil rest
  · rw [List.concat_eq_append] at absent ⊢
    have others : ∀ next ∈ needle, next ≠ head := by
      rintro next member rfl
      exact once member
    have chained : (head :: needle).IsChain fun _ next => next ≠ head := by
      apply List.Pairwise.isChain
      exact List.pairwise_cons.mpr ⟨others, List.pairwise_of_forall_mem_list
        fun _ _ next member => others next member⟩
    apply free_of_parted
    · rintro mark rfl
      exact chained
    · rintro mark rfl
      exact absent
    · intro next first
      exact fun other => other (begins next first)

theorem free_of_clear (clear : isClear needle lead = true) (rest : List Char) :
    Free (· = needle) lead rest := by
  induction lead with
  | nil => exact free_nil rest
  | cons first lead ih =>
      obtain ⟨differs, clear⟩ := isClear_cons.mp clear
      refine free_cons_iff.mpr ⟨?_, ih clear⟩
      rintro mark rfl begins
      have unbegun := not_isPrefixOf_of_differ (differ_append differs rest)
      rw [List.cons_append, List.isPrefixOf_iff_prefix.mpr begins] at unbegun
      cases unbegun

theorem after_needle (needle rest : List Char) : after? needle (needle ++ rest) = some rest :=
  after_eq_some_iff.mpr rfl

theorem after_eq_none_of_not_prefix (unbegun : ¬ needle <+: text) : after? needle text = none := by
  cases found : after? needle text with
  | none => rfl
  | some behind => exact absurd ⟨behind, (after_eq_some_iff.mp found).symm⟩ unbegun

theorem cutAt_of_free (inhabited : needle ≠ []) (free : Free (· = needle) lead (needle ++ rest)) :
    cutAt? needle (lead ++ (needle ++ rest)) = some (lead, rest) := by
  induction lead with
  | nil =>
      obtain ⟨head, more, rfl⟩ := List.exists_cons_of_ne_nil inhabited
      have found := after_needle (head :: more) rest
      rw [List.cons_append] at found
      rw [List.nil_append, List.cons_append, cutAt?, found]
  | cons first lead ih =>
      obtain ⟨here, later⟩ := free_cons_iff.mp free
      rw [List.cons_append, cutAt?, after_eq_none_of_not_prefix (here needle rfl), ih later]
      rfl

theorem replaceAll_of_free {old : List Char} (new : List Char) (free : Free (· = old) lead rest) :
    replaceAll old new (lead ++ rest) = lead ++ replaceAll old new rest := by
  unfold replaceAll
  induction lead with
  | nil => rfl
  | cons first lead ih =>
      obtain ⟨here, later⟩ := free_cons_iff.mp free
      have unbegun : old.isPrefixOf (first :: (lead ++ rest)) = false :=
        Bool.eq_false_iff.mpr (mt List.isPrefixOf_iff_prefix.mp (here old rfl))
      rw [List.cons_append, replaceFrom, unbegun, Bool.and_false, ih later]
      rfl

end Needles

/-- A text with `new` for the first occurrence of `old`, the first one behind it, and so on. -/
inductive Replaced (old new : List Char) : List Char → List Char → Prop where
  | kept {text : List Char} (absent : ¬ old <:+: text) : Replaced old new text text
  | next {before rest result : List Char} (first : ¬ old <:+: before ++ old.dropLast)
      (behind : Replaced old new rest result) :
      Replaced old new (before ++ (old ++ rest)) (before ++ (new ++ result))

theorem replaceAll_of_replaced {old new text result : List Char} (inhabited : old ≠ [])
    (replaced : Replaced old new text result) : replaceAll old new text = result := by
  induction replaced with
  | @kept text absent =>
      have passed := replaceAll_of_free new (free_of_absent absent)
      rw [List.append_nil] at passed
      rw [passed]
      exact List.append_nil text
  | @next before rest result first behind ih =>
      obtain ⟨head, more, rfl⟩ := List.exists_cons_of_ne_nil inhabited
      rw [replaceAll_of_free new (free_of_first inhabited first rest), replaceAll_needle, ih]

theorem exists_first_occurrence {needle text : List Char} (inhabited : needle ≠ [])
    (occurs : needle <:+: text) :
    ∃ before rest, text = before ++ (needle ++ rest) ∧ ¬ needle <:+: before ++ needle.dropLast := by
  induction text with
  | nil => exact absurd (List.infix_nil.mp occurs) inhabited
  | cons first text ih =>
      by_cases begins : needle <+: first :: text
      · obtain ⟨rest, shape⟩ := begins
        refine ⟨[], rest, shape.symm, fun early => ?_⟩
        have fits := early.length_le
        have long := List.length_pos_of_ne_nil inhabited
        simp only [List.nil_append, List.length_dropLast] at fits
        omega
      · have later := (List.infix_cons_iff.mp occurs).resolve_left begins
        obtain ⟨before, rest, rfl, foremost⟩ := ih later
        refine ⟨first :: before, rest, rfl, fun early => ?_⟩
        obtain here | later := List.infix_cons_iff.mp early
        · apply begins
          have within : before ++ needle.dropLast <+: before ++ (needle ++ rest) :=
            (List.prefix_append_right_inj before).mpr
              ((List.dropLast_prefix needle).trans (List.prefix_append needle rest))
          exact here.trans ((List.prefix_cons_inj first).mpr within)
        · exact foremost later

theorem exists_replaced {old : List Char} (inhabited : old ≠ []) (new text : List Char) :
    ∃ result, Replaced old new text result := by
  by_cases absent : old <:+: text
  · obtain ⟨before, rest, shape, first⟩ := exists_first_occurrence inhabited absent
    obtain ⟨result, behind⟩ := exists_replaced inhabited new rest
    rw [shape]
    exact ⟨before ++ (new ++ result), .next first behind⟩
  · exact ⟨text, .kept absent⟩
termination_by text.length
decreasing_by
  have long := List.length_pos_of_ne_nil inhabited
  simp only [shape, List.length_append]
  omega

theorem replaceAll_eq_iff {old new text result : List Char} (inhabited : old ≠ []) :
    replaceAll old new text = result ↔ Replaced old new text result := by
  refine ⟨?_, replaceAll_of_replaced inhabited⟩
  rintro rfl
  obtain ⟨result, replaced⟩ := exists_replaced inhabited new text
  rw [replaceAll_of_replaced inhabited replaced]
  exact replaced

end FleetPatch.Text

namespace FleetPatch.WinRm.Clixml

set_option autoImplicit false

open Text (Free Replaced)

/-- What stands behind the marker: error elements with their contents, and anything that opens no
element around them. -/
inductive Stream : (contents : List (List Char)) → List Char → Prop where
  | ended {noise : List Char} (unopened : ¬ opening <:+: noise) : Stream [] noise
  | element {noise content rest : List Char} {contents : List (List Char)}
      (unopened : ¬ opening <:+: noise) (unclosed : ¬ closing <:+: content)
      (behind : Stream contents rest) :
      Stream (content :: contents) (noise ++ (opening ++ (content ++ (closing ++ rest))))

section Elements

variable {lead content rest : List Char}

theorem opening_free (unopened : ¬ opening <:+: lead) (rest : List Char) :
    Free (· = opening) lead (opening ++ rest) := by
  apply Text.free_of_single (by decide) unopened
  rintro next ⟨⟩
  rfl

theorem closing_free (unclosed : ¬ closing <:+: content) (rest : List Char) :
    Free (· = closing) content (closing ++ rest) := by
  apply Text.free_of_single (by decide) unclosed
  rintro next ⟨⟩
  rfl

theorem elementsFrom_skip (passed rest : List Char) :
    elementsFrom passed.length (passed ++ rest) = elementsFrom 0 rest := by
  induction passed with
  | nil => rfl
  | cons character passed ih => exact ih

theorem elements_of_free (free : Free (· = opening) lead rest) :
    elements (lead ++ rest) = elements rest := by
  unfold elements
  induction lead with
  | nil => rfl
  | cons first lead ih =>
      obtain ⟨here, later⟩ := Text.free_cons_iff.mp free
      rw [List.cons_append, elementsFrom, Text.after_eq_none_of_not_prefix (here opening rfl)]
      exact ih later

theorem elements_element (unclosed : ¬ closing <:+: content) (rest : List Char) :
    elements (opening ++ (content ++ (closing ++ rest))) = content :: elements rest := by
  have opened := Text.after_needle opening (content ++ (closing ++ rest))
  have closed : Text.cutAt? closing (content ++ (closing ++ rest)) = some (content, rest) :=
    Text.cutAt_of_free (by decide) (closing_free unclosed rest)
  have passed := elementsFrom_skip (opening.tail ++ (content ++ closing)) rest
  have counted : (opening.tail ++ (content ++ closing)).length =
      opening.length + content.length + closing.length - 1 := by
    simp only [List.length_append, List.length_tail]
    have inhabited : opening.length = 13 := rfl
    omega
  rw [counted, List.append_assoc, List.append_assoc] at passed
  have head : opening ++ (content ++ (closing ++ rest)) =
      '<' :: (opening.tail ++ (content ++ (closing ++ rest))) := rfl
  rw [elements, head, elementsFrom, ← head, opened, Option.bind_some, closed]
  exact congrArg (content :: ·) passed

theorem elements_stream {contents : List (List Char)} {body : List Char}
    (stream : Stream contents body) : elements body = contents := by
  induction stream with
  | @ended noise unopened =>
      have passed := elements_of_free (Text.free_of_absent unopened)
      rw [List.append_nil] at passed
      exact passed
  | @element noise content rest contents unopened unclosed behind ih =>
      rw [elements_of_free (opening_free unopened _), elements_element unclosed, ih]

theorem elements_marked (body : List Char) : elements (marker ++ body) = elements body :=
  elements_of_free (Text.free_of_clear (by decide) body)

end Elements

/-- The error text of a marked stream is made of the contents of its error elements, all of them and
in order, each with a line feed for every escaped line end, without the blanks at both ends. A
stream without the marker is its own error text. -/
theorem errors_extracted :
    (∀ contents body, Stream contents body → ∃ lines core,
      List.Forall₂ (Replaced escapedLineEnd ['\n']) contents lines ∧
      Text.Trims lines.flatten core ∧
      errorText (String.ofList (marker ++ body)) = String.ofList core) ∧
    ∀ stream, ¬ marker <+: stream.toList → errorText stream = stream := by
  constructor
  · intro contents body stream
    let lines := contents.map (Text.replaceAll escapedLineEnd ['\n'])
    refine ⟨lines, Text.trim lines.flatten, ?_, Text.trims_trim lines.flatten, ?_⟩
    · rw [List.forall₂_map_right_iff, List.forall₂_same]
      intro content member
      exact (Text.replaceAll_eq_iff (by decide)).mp rfl
    · have marked : marker.isPrefixOf (marker ++ body) = true :=
        List.isPrefixOf_iff_prefix.mpr (List.prefix_append marker body)
      have read : elements (marker ++ body) = contents :=
        (elements_marked body).trans (elements_stream stream)
      rw [errorText, String.toList_ofList]
      simp only [marked, read, if_true]
      rfl
  · intro stream unmarked
    have plain : marker.isPrefixOf stream.toList = false :=
      Bool.eq_false_iff.mpr (mt List.isPrefixOf_iff_prefix.mp unmarked)
    rw [errorText]
    simp only [plain]
    rfl

/-- Tags that are cut short stand in the contents, and progress before the elements. -/
theorem errors_extracted_around_progress : ∃ lines core,
    List.Forall₂ (Replaced escapedLineEnd ['\n'])
      [" a</S".toList, "<S_x000D__x000A_".toList] lines ∧
    Text.Trims lines.flatten core ∧
    errorText (String.ofList (marker ++ ("<S S=\"Progress\">1</S>".toList ++ (opening ++
      (" a</S".toList ++ (closing ++ ([] ++ (opening ++ ("<S_x000D__x000A_".toList ++
        (closing ++ "</Objs>".toList)))))))))) = String.ofList core := by
  apply errors_extracted.1
  apply Stream.element (by decide +kernel) (by decide +kernel)
  apply Stream.element (by decide +kernel) (by decide +kernel)
  exact .ended (by decide +kernel)

example : errorText
    "#< CLIXML<S S=\"Progress\">1</S><S S=\"Error\"> a</S</S><S S=\"Error\"><S_x000D__x000A_</S>" =
      "a</S<S" := by decide +kernel

end FleetPatch.WinRm.Clixml
