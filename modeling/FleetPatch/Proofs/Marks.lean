import FleetPatch.Package.Apt
import FleetPatch.Proofs.Words
import Mathlib.Data.List.Chain

/-!
# Marks in the output of an upgrade

The number of upgraded packages and the block of their names are found by the first
mark in the output: a text of a certain form, such as digits, blanks and a word. A
search passes over every text in which no mark begins. That is so for a text
without marks if no mark can run over its end.
-/

namespace FleetPatch.Text

set_option autoImplicit false

section Searching

variable {α : Type} {Mark : List Char → Prop} {read search : List Char → Option α}

/-- A search that answers with what is read at the first place where a mark begins. -/
structure Seeks (Mark : List Char → Prop) (read search : List Char → Option α) : Prop where
  unread : read [] = none
  unfound : search [] = none
  step : ∀ first rest, search (first :: rest) = (read (first :: rest)).or (search rest)
  reads_iff : ∀ text, (read text).isSome = true ↔ ∃ mark, Mark mark ∧ mark <+: text

/-- No mark begins in the lead when the rest stands behind it. -/
def Free (Mark : List Char → Prop) (lead rest : List Char) : Prop :=
  ∀ suffix, suffix ≠ [] → suffix <:+ lead → ∀ mark, Mark mark → ¬ mark <+: suffix ++ rest

theorem free_nil (rest : List Char) : Free Mark [] rest :=
  fun _ inhabited ends => absurd (List.suffix_nil.mp ends) inhabited

theorem free_cons_iff {first : Char} {lead rest : List Char} :
    Free Mark (first :: lead) rest ↔
      (∀ mark, Mark mark → ¬ mark <+: first :: (lead ++ rest)) ∧ Free Mark lead rest := by
  constructor
  · intro free
    exact ⟨free _ (List.cons_ne_nil first lead) List.suffix_rfl, fun suffix inhabited ends =>
      free suffix inhabited (ends.trans (List.suffix_cons first lead))⟩
  · rintro ⟨here, later⟩ suffix inhabited ends
    obtain rfl | ends := List.suffix_cons_iff.mp ends
    · exact here
    · exact later suffix inhabited ends

/-- A mark that begins in a text without marks goes on behind it, so it holds the last character
of the text and the next one side by side. -/
theorem free_of_parted {Beside : Char → Char → Prop} {body rest : List Char} {last : Char}
    (chained : ∀ mark, Mark mark → mark.IsChain Beside)
    (unmarked : ∀ mark, Mark mark → ¬ mark <:+: body ++ [last])
    (parted : ∀ next ∈ rest.head?, ¬ Beside last next) : Free Mark (body ++ [last]) rest := by
  rintro suffix inhabited ends mark marks ⟨behind, shape⟩
  obtain none | ⟨start, rfl, _⟩ := List.suffix_concat_iff.mp ends
  · exact absurd none inhabited
  -- The mark ends within the text, or it goes on behind the last character.
  · obtain ⟨more, within, _⟩ | ⟨beyond, runs, shape⟩ := List.append_eq_append_iff.mp shape
    · have begins : mark <+: start ++ [last] := ⟨more, within.symm⟩
      exact unmarked mark marks (begins.isInfix.trans ends.isInfix)
    · cases beyond with
      | nil =>
          rw [List.append_nil] at runs
          exact unmarked mark marks (runs ▸ ends.isInfix)
      | cons next behind =>
          have beside := chained mark marks
          rw [runs, List.append_assoc, List.singleton_append] at beside
          exact parted next (by rw [shape]; rfl) (List.isChain_append_cons_cons.mp beside).2.1

def EndsLine (text : List Char) : Prop := text = [] ∨ ∃ body, text = body ++ ['\n']

theorem free_of_endsLine {Beside : Char → Char → Prop} {lead rest : List Char}
    (chained : ∀ mark, Mark mark → mark.IsChain Beside) (ends : EndsLine lead)
    (unmarked : ∀ mark, Mark mark → ¬ mark <:+: lead)
    (parted : ∀ next ∈ rest.head?, ¬ Beside '\n' next) : Free Mark lead rest := by
  obtain rfl | ⟨body, rfl⟩ := ends
  · exact free_nil rest
  · exact free_of_parted chained unmarked parted

namespace Seeks

theorem read_eq_none_iff (seeks : Seeks Mark read search) {text : List Char} :
    read text = none ↔ ∀ mark, Mark mark → ¬ mark <+: text := by
  rw [← Option.not_isSome_iff_eq_none, seeks.reads_iff]
  simp

theorem eq_some_of_read (seeks : Seeks Mark read search) {text : List Char} {found : α}
    (reads : read text = some found) : search text = some found := by
  cases text with
  | nil => rw [seeks.unread] at reads; cases reads
  | cons first rest => rw [seeks.step, reads, Option.some_or]

theorem append_of_free (seeks : Seeks Mark read search) {lead rest : List Char}
    (free : Free Mark lead rest) : search (lead ++ rest) = search rest := by
  induction lead with
  | nil => rfl
  | cons first lead ih =>
      obtain ⟨here, later⟩ := free_cons_iff.mp free
      rw [List.cons_append, seeks.step, seeks.read_eq_none_iff.mpr here, Option.none_or, ih later]

theorem eq_none_iff (seeks : Seeks Mark read search) {text : List Char} :
    search text = none ↔ ∀ mark, Mark mark → ¬ mark <:+: text := by
  induction text with
  | nil =>
      have nowhere := seeks.read_eq_none_iff.mp seeks.unread
      simp only [seeks.unfound, List.infix_nil, true_iff]
      rintro mark marks rfl
      exact nowhere [] marks List.prefix_rfl
  | cons first rest ih =>
      rw [seeks.step, Option.or_eq_none_iff, seeks.read_eq_none_iff, ih]
      simp only [List.infix_cons_iff, not_or, ← forall_and]

end Seeks

end Searching

end FleetPatch.Text

namespace FleetPatch.Apt

set_option autoImplicit false

open Text (AllBlank Blanks Gap Seeks Free)

def classicHeader : List Char := "The following packages will be upgraded:".toList

def recentHeader : List Char := "Upgrading:".toList

inductive Summary : List Char → Prop where
  | counted {digits : List Char} (inhabited : digits ≠ [])
      (digital : ∀ digit ∈ digits, Text.isDigit digit = true) (gap : Gap) :
      Summary (digits ++ (gap.characters ++ "upgraded".toList))

inductive Heading : List Char → Prop where
  | ended (tail : Blanks) : Heading (classicHeader ++ (tail.characters ++ ['\n']))

section Searches

def summaryAt? (text : List Char) : Option (List Char) :=
  let digits := text.takeWhile Text.isDigit
  let behind := text.dropWhile Text.isDigit
  if !digits.isEmpty && behind.head?.any Text.isBlank &&
      (Text.after? "upgraded".toList (behind.dropWhile Text.isBlank)).isSome then some digits
  else none

def blockAt? (text : List Char) : Option (List Char) :=
  (Text.after? classicHeader text).bind blockBelow?

theorem summaryAt_eq_some_iff {text digits : List Char} :
    summaryAt? text = some digits ↔
      digits ≠ [] ∧ (∀ digit ∈ digits, Text.isDigit digit = true) ∧
        ∃ (gap : Gap) (rest : List Char),
          text = digits ++ (gap.characters ++ ("upgraded".toList ++ rest)) := by
  constructor
  · intro read
    simp only [summaryAt?, Option.ite_none_right_eq_some, Option.some.injEq, Bool.and_eq_true,
      Bool.not_eq_true', List.isEmpty_eq_false_iff, Option.any_eq_true, Text.after_isSome_iff]
      at read
    obtain ⟨⟨⟨inhabited, ⟨first, begins, blank⟩⟩, ⟨rest, word⟩⟩, rfl⟩ := read
    refine ⟨inhabited, fun digit => List.mem_takeWhile_imp, ?_⟩
    let behind := text.dropWhile Text.isDigit
    let gap : Gap := {
      characters := behind.takeWhile Text.isBlank
      blank := fun character => List.mem_takeWhile_imp
      inhabited := by
        obtain ⟨more, shape⟩ := List.head?_eq_some_iff.mp begins
        change (text.dropWhile Text.isDigit).takeWhile Text.isBlank ≠ []
        rw [shape, List.takeWhile_cons_of_pos blank]
        exact List.cons_ne_nil _ _ }
    refine ⟨gap, rest, ?_⟩
    rw [← word, List.takeWhile_append_dropWhile, List.takeWhile_append_dropWhile]
  · rintro ⟨inhabited, digital, gap, rest, rfl⟩
    have stops : ∀ next ∈ (gap.characters ++ ("upgraded".toList ++ rest)).head?,
        Text.isDigit next = false :=
      fun next first => Text.not_digit_of_blank (gap.head_blank _ next first)
    have visible : ∀ next ∈ ("upgraded".toList ++ rest).head?, Text.isBlank next = false := by
      rintro next ⟨⟩
      rfl
    obtain ⟨first, more, shape⟩ := List.exists_cons_of_ne_nil gap.inhabited
    have blank : Text.isBlank first = true := gap.blank first (by simp [shape])
    rw [summaryAt?, Text.takeWhile_run digital stops, Text.dropWhile_run digital stops,
      Text.dropWhile_run gap.blank visible, shape]
    simp [inhabited, blank, Text.after_isSome_iff]

theorem summary_seeks : Seeks Summary summaryAt? summaryCount? where
  unread := rfl
  unfound := rfl
  step first rest := by
    rw [summaryCount?, summaryAt?]
    split <;> rfl
  reads_iff text := by
    simp only [Option.isSome_iff_exists, summaryAt_eq_some_iff]
    constructor
    · rintro ⟨digits, inhabited, digital, gap, rest, rfl⟩
      exact ⟨_, .counted inhabited digital gap, rest, by simp⟩
    · rintro ⟨_, ⟨inhabited, digital, gap⟩, rest, rfl⟩
      exact ⟨_, inhabited, digital, gap, rest, by simp⟩

/-- There is a block below a header if a line feed stands among the blanks behind it. -/
theorem blockBelow_isSome_iff {behind : List Char} :
    (blockBelow? behind).isSome = true ↔ ∃ tail : Blanks, tail.characters ++ ['\n'] <+: behind := by
  have ended : (blockBelow? behind).isSome = true ↔ '\n' ∈ behind.takeWhile Text.isBlank := by
    rw [← not_iff_not, ← Text.cutAtLast_eq_none_iff, blockBelow?]
    cases Text.cutAtLast? '\n' (behind.takeWhile Text.isBlank) <;> simp
  rw [ended]
  constructor
  · intro member
    obtain ⟨before, after, shape⟩ := List.append_of_mem member
    have within : before ++ ['\n'] <+: behind.takeWhile Text.isBlank :=
      ⟨after, by rw [shape, List.append_assoc, List.singleton_append]⟩
    exact ⟨⟨before, fun character inside =>
      List.mem_takeWhile_imp (within.subset (List.mem_append_left _ inside))⟩,
      within.trans (List.takeWhile_prefix _)⟩
  · rintro ⟨tail, rest, rfl⟩
    have blank : AllBlank (tail.characters ++ ['\n']) :=
      List.forall_mem_append.mpr ⟨tail.blank, List.forall_mem_singleton.mpr rfl⟩
    rw [List.takeWhile_append_of_pos blank]
    simp

theorem heading_seeks : Seeks Heading blockAt? classicBlock? where
  unread := rfl
  unfound := rfl
  step first rest := by
    have read : (Text.after? "The following packages will be upgraded:".toList
      (first :: rest)).bind blockBelow? = blockAt? (first :: rest) := rfl
    rw [classicBlock?, read]
    cases blockAt? (first :: rest) <;> rfl
  reads_iff text := by
    simp only [blockAt?, Option.isSome_bind, Option.any_eq_true, Text.after_eq_some_iff,
      blockBelow_isSome_iff]
    constructor
    · rintro ⟨_, rfl, tail, rest, rfl⟩
      exact ⟨_, .ended tail, rest, by simp⟩
    · rintro ⟨_, ⟨tail⟩, rest, rfl⟩
      exact ⟨tail.characters ++ ['\n'] ++ rest, by simp, tail, rest, rfl⟩

end Searches

section Breaks

/-- Characters that may stand side by side in a summary. -/
def InSummary (first second : Char) : Prop :=
  Text.isDigit first = true ∨ first ∈ "upgraded".toList ∨
    Text.isBlank first = true ∧ (Text.isBlank second = true ∨ second = 'u')

def InHeading (first second : Char) : Prop :=
  first ∈ classicHeader ∨ Text.isBlank first = true ∧ Text.isBlank second = true

instance (first second : Char) : Decidable (InSummary first second) :=
  inferInstanceAs (Decidable (_ ∨ _ ∨ _ ∧ (_ ∨ _)))

instance (first second : Char) : Decidable (InHeading first second) :=
  inferInstanceAs (Decidable (_ ∨ _ ∧ _))

theorem Summary.chained {mark : List Char} (summary : Summary mark) : mark.IsChain InSummary := by
  obtain ⟨inhabited, digital, gap⟩ := summary
  have word : "upgraded".toList.IsChain InSummary :=
    (List.pairwise_of_forall_mem_list fun _ member _ _ => .inr (.inl member)).isChain
  have blanks : gap.characters.IsChain InSummary :=
    (List.pairwise_of_forall_mem_list fun first member second behind =>
      .inr (.inr ⟨gap.blank first member, .inl (gap.blank second behind)⟩)).isChain
  have behind : (gap.characters ++ "upgraded".toList).IsChain InSummary := by
    refine List.isChain_append.mpr ⟨blanks, word, ?_⟩
    rintro last ends next ⟨⟩
    exact .inr (.inr ⟨gap.blank last (List.mem_of_mem_getLast? ends), .inr rfl⟩)
  refine List.isChain_append.mpr ⟨?_, behind, fun last ends _ _ =>
    .inl (digital last (List.mem_of_mem_getLast? ends))⟩
  exact (List.pairwise_of_forall_mem_list fun first member _ _ =>
    .inl (digital first member)).isChain

theorem Heading.chained {mark : List Char} (heading : Heading mark) : mark.IsChain InHeading := by
  obtain ⟨tail⟩ := heading
  have blank : AllBlank (tail.characters ++ ['\n']) :=
    List.forall_mem_append.mpr ⟨tail.blank, List.forall_mem_singleton.mpr rfl⟩
  have behind : (tail.characters ++ ['\n']).IsChain InHeading :=
    (List.pairwise_of_forall_mem_list fun first member second later =>
      .inr ⟨blank first member, blank second later⟩).isChain
  refine List.isChain_append.mpr ⟨?_, behind, fun last ends _ _ =>
    .inl (List.mem_of_mem_getLast? ends)⟩
  exact (List.pairwise_of_forall_mem_list fun _ member _ _ => .inl member).isChain

theorem free_of_undigital {lead : List Char}
    (undigital : ∀ character ∈ lead, Text.isDigit character = false) (rest : List Char) :
    Free Summary lead rest := by
  rintro suffix inhabited ends _ ⟨counted, digital, gap⟩ ⟨behind, shape⟩
  obtain ⟨digit, digits, rfl⟩ := List.exists_cons_of_ne_nil counted
  obtain ⟨first, suffix, rfl⟩ := List.exists_cons_of_ne_nil inhabited
  obtain ⟨rfl, _⟩ := List.cons.inj shape
  have digit := digital _ List.mem_cons_self
  rw [undigital _ (ends.subset List.mem_cons_self)] at digit
  cases digit

end Breaks

section Lines

structure Margin where
  characters : List Char
  indents : ∀ character ∈ characters, isIndent character = true

def Margin.none : Margin where
  characters := []
  indents := List.forall_mem_nil _

def Titled (line : List Char) : Prop := ∃ tail : Margin, line = recentHeader ++ tail.characters

def Counts (digits line : List Char) : Prop :=
  digits ≠ [] ∧ (∀ digit ∈ digits, Text.isDigit digit = true) ∧
    ∃ (indent gap : Margin) (rest : List Char), (∀ next ∈ rest.head?, Text.isDigit next = false) ∧
      line = indent.characters ++ (recentHeader ++ (gap.characters ++ (digits ++ rest)))

theorem blank_of_indent {character : Char} (indent : isIndent character = true) :
    Text.isBlank character = true := by
  simp only [isIndent, Bool.or_eq_true, decide_eq_true_eq] at indent
  obtain rfl | rfl := indent <;> rfl

theorem not_indent_of_visible {character : Char} (visible : Text.isBlank character = false) :
    isIndent character = false := by
  apply Bool.eq_false_iff.mpr
  intro indent
  rw [blank_of_indent indent] at visible
  cases visible

theorem isHeader_iff {line : List Char} : isHeader line = true ↔ Titled line := by
  constructor
  · intro headed
    unfold isHeader at headed
    split at headed
    · next behind read =>
        exact ⟨⟨behind, List.all_eq_true.mp headed⟩, Text.after_eq_some_iff.mp read⟩
    · cases headed
  · rintro ⟨tail, rfl⟩
    have read : Text.after? "Upgrading:".toList (recentHeader ++ tail.characters) =
        some tail.characters := Text.after_eq_some_iff.mpr rfl
    rw [isHeader, read]
    exact List.all_eq_true.mpr tail.indents

theorem headerCount_eq_some_iff {line digits : List Char} :
    headerCount? line = some digits ↔ Counts digits line := by
  constructor
  · intro counted
    unfold headerCount? at counted
    split at counted
    · next behind read =>
        rw [Option.ite_none_left_eq_some] at counted
        obtain ⟨inhabited, same⟩ := counted
        cases same
        have header := Text.after_eq_some_iff.mp read
        refine ⟨by simpa using inhabited, fun digit => List.mem_takeWhile_imp,
          ⟨line.takeWhile isIndent, fun character => List.mem_takeWhile_imp⟩,
          ⟨behind.takeWhile isIndent, fun character => List.mem_takeWhile_imp⟩,
          (behind.dropWhile isIndent).dropWhile Text.isDigit, Text.head_dropWhile _ _, ?_⟩
        have parted : recentHeader ++ behind = line.dropWhile isIndent := header.symm
        rw [List.takeWhile_append_dropWhile, List.takeWhile_append_dropWhile, parted,
          List.takeWhile_append_dropWhile]
    · cases counted
  · rintro ⟨inhabited, digital, indent, gap, rest, stops, rfl⟩
    let behind := gap.characters ++ (digits ++ rest)
    have unindented : ∀ next ∈ (recentHeader ++ behind).head?, isIndent next = false := by
      rintro next ⟨⟩
      rfl
    have visible : ∀ next ∈ (digits ++ rest).head?, isIndent next = false := by
      obtain ⟨first, more, rfl⟩ := List.exists_cons_of_ne_nil inhabited
      rintro next ⟨⟩
      exact not_indent_of_visible (Text.not_blank_of_digit (digital first List.mem_cons_self))
    have read : Text.after? "Upgrading:".toList
        ((indent.characters ++ (recentHeader ++ behind)).dropWhile isIndent) = some behind := by
      rw [Text.dropWhile_run indent.indents unindented]
      exact Text.after_eq_some_iff.mpr rfl
    have taken : (behind.dropWhile isIndent).takeWhile Text.isDigit = digits := by
      rw [Text.dropWhile_run gap.indents visible, Text.takeWhile_run digital stops]
    rw [headerCount?, read]
    simp only [taken, List.isEmpty_iff, inhabited, if_false]

theorem headerCount_eq_none_iff {line : List Char} :
    headerCount? line = none ↔ ∀ digits, ¬ Counts digits line := by
  simp only [Option.eq_none_iff_forall_ne_some, ne_eq, headerCount_eq_some_iff]

end Lines

/-- A text that neither names nor counts upgraded packages: it has no header, of either dialect,
and no summary. -/
structure Quiet (text : List Char) : Prop where
  unheaded : ∀ mark, Heading mark → ¬ mark <:+: text
  untitled : ∀ line ∈ feedLines text, ¬ Titled line
  unsummed : ∀ mark, Summary mark → ¬ mark <:+: text
  uncounted : ∀ line ∈ feedLines text, ∀ digits, ¬ Counts digits line

section Quiet

variable {text : List Char}

theorem quiet_iff :
    Quiet text ↔ (classicBlock? text = none ∧ ∀ line ∈ feedLines text, ¬ isHeader line = true) ∧
      summaryCount? text = none ∧ ∀ line ∈ feedLines text, headerCount? line = none := by
  simp only [heading_seeks.eq_none_iff, summary_seeks.eq_none_iff, isHeader_iff,
    headerCount_eq_none_iff]
  exact ⟨fun quiet => ⟨⟨quiet.unheaded, quiet.untitled⟩, quiet.unsummed, quiet.uncounted⟩,
    fun parts => ⟨parts.1.1, parts.1.2, parts.2.1, parts.2.2⟩⟩

instance (text : List Char) : Decidable (Quiet text) := decidable_of_iff _ quiet_iff.symm

/-- A text of which no word begins like the last word of a mark does not hold the mark. -/
theorem not_infix_of_words (plain : ∀ word ∈ Text.words text, ¬ "upgraded".toList <+: word)
    (before : List Char) {character : Char} (blank : Text.isBlank character = true)
    (behind : List Char) : ¬ before ++ character :: ("upgraded".toList ++ behind) <:+: text := by
  rintro ⟨first, last, rfl⟩
  let lead : Text.Word := .ofVisible ['u', 'p', 'g', 'r', 'a', 'd', 'e', 'd'] rfl
  obtain ⟨word, member, begins⟩ :=
    Text.exists_word_begins (first ++ before) blank lead (behind ++ last)
  refine plain word ?_ begins
  simpa [lead, Text.Word.ofVisible] using member

theorem unsummed_of_words (plain : ∀ word ∈ Text.words text, ¬ "upgraded".toList <+: word) :
    ∀ mark, Summary mark → ¬ mark <:+: text := by
  rintro _ ⟨_, _, gap⟩
  obtain none | ⟨blanks, last, shape⟩ := List.eq_nil_or_concat gap.characters
  · exact absurd none gap.inhabited
  · have blank : Text.isBlank last = true := gap.blank last (by simp [shape])
    rw [shape, List.concat_eq_append, List.append_assoc, ← List.append_assoc]
    exact not_infix_of_words plain _ blank []

theorem unheaded_of_words (plain : ∀ word ∈ Text.words text, ¬ "upgraded".toList <+: word) :
    ∀ mark, Heading mark → ¬ mark <:+: text := by
  have header : classicHeader =
      "The following packages will be".toList ++ ' ' :: ("upgraded".toList ++ [':']) := by
    decide +kernel
  rintro _ ⟨tail⟩
  rw [header, List.append_assoc, List.cons_append, List.append_assoc]
  exact not_infix_of_words plain _ rfl _

end Quiet

end FleetPatch.Apt
