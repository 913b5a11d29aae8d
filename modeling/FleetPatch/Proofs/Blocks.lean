import FleetPatch.Proofs.Marks

/-!
# Blocks of names

The names of upgraded packages stand on indented lines below a header. Below the
classic header the block goes up to a line that is not indented, below that of
version 3 it is the indented lines themselves. Both have the names as their words.
Numbers are read back from their decimal digits.
-/

namespace FleetPatch.Text

set_option autoImplicit false

section Numerals

variable (number : Nat)

theorem plain_repr : ∀ digit ∈ (Nat.repr number).toList, digit.isDigit = true := by
  rw [Nat.toList_repr]
  exact fun digit => Nat.isDigit_of_mem_toDigits (by decide) (by decide)

theorem digitValue_of_plain {digit : Char} (plain : digit.isDigit = true) :
    digitValue? digit = some (digit.toNat - 48) := by
  obtain ⟨lower, upper⟩ := Char.isDigit_iff_toNat.mp plain
  have lower : 48 ≤ digit.toNat := lower
  have upper : digit.toNat ≤ 57 := upper
  rw [digitValue?, if_pos (by omega), if_pos ⟨lower, upper⟩]

theorem digital_repr : ∀ digit ∈ (Nat.repr number).toList, isDigit digit = true := by
  intro digit member
  rw [isDigit, digitValue_of_plain (plain_repr number digit member)]
  rfl

theorem repr_inhabited : (Nat.repr number).toList ≠ [] := by
  rw [Nat.toList_repr]
  exact Nat.toDigits_ne_nil

theorem foldl_digits {digits : List Char} (plain : ∀ digit ∈ digits, digit.isDigit = true)
    (total : Nat) :
    digits.foldl (fun total digit => 10 * total + (digitValue? digit).getD 0) total =
      Nat.ofDigitChars 10 digits total := by
  induction digits generalizing total with
  | nil => rfl
  | cons digit digits ih =>
      obtain ⟨first, plain⟩ := List.forall_mem_cons.mp plain
      rw [List.foldl_cons, digitValue_of_plain first, Option.getD_some, ih plain,
        Nat.ofDigitChars_cons]
      rfl

theorem digitsValue_repr : digitsValue (Nat.repr number).toList = number := by
  rw [digitsValue, foldl_digits (plain_repr number), Nat.toList_repr]
  exact Nat.ofDigitChars_ten_toDigits

end Numerals

end FleetPatch.Text

namespace FleetPatch.Apt

set_option autoImplicit false

open Text (Word AllBlank)

structure Spacing extends Margin where
  inhabited : characters ≠ []

/-- A word that begins neither like the header of version 3 nor like the last word of a summary. -/
structure Name extends Word where
  unsummed : ¬ "upgraded".toList <+: characters
  untitled : ¬ recentHeader <+: characters

structure NameLine where
  entries : List (Spacing × Name)
  inhabited : entries ≠ []

structure Block where
  lines : List NameLine
  inhabited : lines ≠ []

def spaced (entry : Spacing × Name) : List Char := entry.1.characters ++ entry.2.characters

namespace NameLine

def characters (line : NameLine) : List Char := line.entries.flatMap spaced

def names (line : NameLine) : List (List Char) := line.entries.map fun entry => entry.2.characters

def ended (line : NameLine) : List Char := line.characters ++ ['\n']

end NameLine

namespace Block

def characters (block : Block) : List Char := block.lines.flatMap NameLine.ended

def names (block : Block) : List (List Char) := block.lines.flatMap NameLine.names

end Block

section Lines

theorem Margin.blank (margin : Margin) : AllBlank margin.characters :=
  fun character member => blank_of_indent (margin.indents character member)

theorem Margin.line_feed_absent (margin : Margin) : '\n' ∉ margin.characters :=
  fun within => absurd (margin.indents '\n' within) (by decide)

theorem head_spaced (entries : List (Spacing × Name)) :
    ∀ next ∈ (entries.flatMap spaced).head?, isIndent next = true := by
  cases entries with
  | nil => simp
  | cons entry entries =>
      obtain ⟨first, more, shape⟩ := List.exists_cons_of_ne_nil entry.1.inhabited
      rw [List.flatMap_cons, spaced, shape]
      rintro next ⟨⟩
      exact entry.1.indents first (by simp [shape])

theorem words_spaced (entries : List (Spacing × Name)) :
    Text.words (entries.flatMap spaced) = entries.map fun entry => entry.2.characters := by
  induction entries with
  | nil => rfl
  | cons entry entries ih =>
      have ended : ∀ next ∈ (entries.flatMap spaced).head?, Text.isBlank next = true :=
        fun next first => blank_of_indent (head_spaced entries next first)
      rw [List.flatMap_cons, spaced, List.append_assoc,
        Text.words_blanks_append entry.1.blank, Text.words_word_append entry.2.toWord ended, ih,
        List.map_cons]

variable (line : NameLine)

theorem words_line : Text.words line.characters = line.names := words_spaced line.entries

theorem NameLine.line_feed_absent : '\n' ∉ line.characters := by
  simp only [NameLine.characters, List.mem_flatMap, spaced, List.mem_append]
  rintro ⟨entry, _, within | within⟩
  · exact entry.1.line_feed_absent within
  · exact absurd (entry.2.visible '\n' within) (by decide)

theorem exists_first_name : ∃ (spacing : Spacing) (name : Name) (rest : List Char),
    (∀ next ∈ rest.head?, Text.isBlank next = true) ∧
      line.characters = spacing.characters ++ (name.characters ++ rest) := by
  obtain ⟨entry, entries, shape⟩ := List.exists_cons_of_ne_nil line.inhabited
  refine ⟨entry.1, entry.2, entries.flatMap spaced,
    fun next first => blank_of_indent (head_spaced entries next first), ?_⟩
  rw [NameLine.characters, shape, List.flatMap_cons, spaced, List.append_assoc]

theorem Name.head_visible (name : Name) (rest : List Char) :
    ∀ next ∈ (name.characters ++ rest).head?, Text.isBlank next = false := by
  obtain ⟨first, more, shape⟩ := List.exists_cons_of_ne_nil name.inhabited
  rw [shape]
  rintro next ⟨⟩
  exact name.visible first (by simp [shape])

theorem Name.unindented (name : Name) (rest : List Char) :
    ∀ next ∈ (name.characters ++ rest).head?, isIndent next = false :=
  fun next first => not_indent_of_visible (name.head_visible rest next first)

theorem line_indented : isIndented line.characters = true := by
  obtain ⟨spacing, name, rest, _, shape⟩ := exists_first_name line
  obtain ⟨first, more, begins⟩ := List.exists_cons_of_ne_nil spacing.inhabited
  obtain ⟨letter, letters, starts⟩ := List.exists_cons_of_ne_nil name.inhabited
  have indent : isIndent first = true := spacing.indents first (by simp [begins])
  have visible : Text.isBlank letter = false := name.visible letter (by simp [starts])
  rw [isIndented, shape, Text.dropWhile_run spacing.indents (name.unindented rest), begins, starts]
  simp [indent, visible]

theorem header_visible : ∀ character ∈ recentHeader, Text.isBlank character = false := by
  have visible : recentHeader.all (fun character => !Text.isBlank character) = true := by
    decide +kernel
  intro character member
  simpa using List.all_eq_true.mp visible character member

theorem line_uncounted : headerCount? line.characters = none := by
  rw [headerCount_eq_none_iff]
  rintro digits ⟨_, _, indent, gap, behind, _, counted⟩
  obtain ⟨spacing, name, rest, ended, shape⟩ := exists_first_name line
  have unindented : ∀ next ∈ (recentHeader ++ (gap.characters ++ (digits ++ behind))).head?,
      isIndent next = false := by
    rintro next ⟨⟩
    rfl
  have header : recentHeader ++ (gap.characters ++ (digits ++ behind)) =
      name.characters ++ rest := by
    rw [← Text.dropWhile_run indent.indents unindented, ← counted, shape,
      Text.dropWhile_run spacing.indents (name.unindented rest)]
  exact name.untitled (Text.prefix_of_prefix_append header_visible ended ⟨_, header⟩)

end Lines

section Blocks

theorem lines_cons_append (line : NameLine) (lines : List NameLine) (rest : List Char) :
    (line :: lines).flatMap NameLine.ended ++ rest =
      line.characters ++ '\n' :: (lines.flatMap NameLine.ended ++ rest) := by
  rw [List.flatMap_cons, NameLine.ended, List.append_assoc, List.append_assoc,
    List.singleton_append]

theorem words_lines_append (lines : List NameLine) (rest : List Char) :
    Text.words (lines.flatMap NameLine.ended ++ rest) =
      lines.flatMap NameLine.names ++ Text.words rest := by
  induction lines with
  | nil => rfl
  | cons line lines ih =>
      rw [lines_cons_append, Text.words_append_blank line.characters rfl, words_line, ih,
        List.flatMap_cons, List.append_assoc]

theorem feedLines_line {line : List Char} (unbroken : '\n' ∉ line) (rest : List Char) :
    feedLines (line ++ '\n' :: rest) = line :: feedLines rest := by
  refine Text.pieces_of_uncut (fun character member => ?_) rfl rest
  rw [beq_eq_false_iff_ne]
  rintro rfl
  exact unbroken member

theorem feedLines_lines_append (lines : List NameLine) (rest : List Char) :
    feedLines (lines.flatMap NameLine.ended ++ rest) =
      lines.map NameLine.characters ++ feedLines rest := by
  induction lines with
  | nil => rfl
  | cons line lines ih =>
      rw [lines_cons_append, feedLines_line line.line_feed_absent, ih, List.map_cons,
        List.cons_append]

theorem untilUnindented_line {line : List Char} (unbroken : '\n' ∉ line) (next : Char)
    (rest : List Char) : untilUnindented (line ++ '\n' :: next :: rest) =
      line ++ if Text.isBlank next then '\n' :: untilUnindented (next :: rest) else [] := by
  induction line with
  | nil => rw [List.nil_append, untilUnindented, List.nil_append]
  | cons first line ih =>
      rw [List.mem_cons, not_or] at unbroken
      obtain ⟨other, unbroken⟩ := unbroken
      rw [List.cons_append, untilUnindented, ih unbroken, List.cons_append]
      · rintro next rest rfl
        exact absurd rfl other

theorem exists_first_of_lines {lines : List NameLine} (inhabited : lines ≠ [])
    (rest : List Char) : ∃ (spacing : Spacing) (name : Name) (behind : List Char),
      lines.flatMap NameLine.ended ++ rest = spacing.characters ++ (name.characters ++ behind) := by
  obtain ⟨line, lines, rfl⟩ := List.exists_cons_of_ne_nil inhabited
  obtain ⟨spacing, name, behind, _, shape⟩ := exists_first_name line
  refine ⟨spacing, name, behind ++ ('\n' :: (lines.flatMap NameLine.ended ++ rest)), ?_⟩
  rw [lines_cons_append, shape, List.append_assoc, List.append_assoc]

theorem words_untilUnindented (lines : List NameLine) (inhabited : lines ≠ []) {next : Char}
    (visible : Text.isBlank next = false) (rest : List Char) :
    Text.words (untilUnindented (lines.flatMap NameLine.ended ++ next :: rest)) =
      lines.flatMap NameLine.names := by
  induction lines with
  | nil => exact absurd rfl inhabited
  | cons line lines ih =>
      rw [lines_cons_append, List.flatMap_cons]
      -- The text is cut behind a line unless another line of names follows.
      cases lines with
      | nil =>
          rw [List.flatMap_nil, List.nil_append, untilUnindented_line line.line_feed_absent,
            if_neg (by simp [visible]), List.append_nil, words_line]
          exact (List.append_nil _).symm
      | cons second lines =>
          have later := ih (List.cons_ne_nil second lines)
          obtain ⟨spacing, name, behind, shape⟩ :=
            exists_first_of_lines (List.cons_ne_nil second lines) (next :: rest)
          obtain ⟨first, more, begins⟩ := List.exists_cons_of_ne_nil spacing.inhabited
          have indent : Text.isBlank first = true := spacing.blank first (by simp [begins])
          rw [shape, begins, List.cons_append] at later ⊢
          rw [untilUnindented_line line.line_feed_absent, if_pos indent,
            Text.words_append_blank line.characters rfl, words_line, later]

variable (block : Block)

theorem words_block : Text.words block.characters = block.names := by
  have read := words_lines_append block.lines []
  have none : Text.words [] = [] := rfl
  rwa [List.append_nil, none, List.append_nil] at read

theorem exists_block_end : ∃ body, block.characters = body ++ ['\n'] := by
  obtain none | ⟨before, last, shape⟩ := List.eq_nil_or_concat block.lines
  · exact absurd none block.inhabited
  · refine ⟨before.flatMap NameLine.ended ++ last.characters, ?_⟩
    rw [Block.characters, shape, List.concat_eq_append, List.flatMap_append, List.flatMap_singleton,
      NameLine.ended, List.append_assoc]

theorem names_unsummed : ∀ word ∈ block.names, ¬ "upgraded".toList <+: word := by
  simp only [Block.names, NameLine.names, List.mem_flatMap, List.mem_map]
  rintro word ⟨line, _, entry, _, rfl⟩
  exact entry.2.unsummed

end Blocks

section Reading

theorem blockBelow_lines {lines : List NameLine} (inhabited : lines ≠ []) (rest : List Char) :
    blockBelow? ('\n' :: (lines.flatMap NameLine.ended ++ rest)) =
      some (untilUnindented (lines.flatMap NameLine.ended ++ rest)) := by
  obtain ⟨spacing, name, behind, shape⟩ := exists_first_of_lines inhabited rest
  have blank : ∀ character ∈ '\n' :: spacing.characters, Text.isBlank character = true :=
    List.forall_mem_cons.mpr ⟨rfl, spacing.blank⟩
  have stops := name.head_visible behind
  have cut : Text.cutAtLast? '\n' ('\n' :: spacing.characters) = some ([], spacing.characters) :=
    Text.cutAtLast_eq_some_iff.mpr ⟨rfl, spacing.line_feed_absent⟩
  rw [shape, ← List.cons_append, blockBelow?, Text.takeWhile_run blank stops,
    Text.dropWhile_run blank stops, cut]

theorem headedLines_append {before rest : List (List Char)}
    (untitled : ∀ line ∈ before, ¬ Titled line) :
    headedLines? (before ++ rest) = headedLines? rest := by
  induction before with
  | nil => rfl
  | cons line before ih =>
      obtain ⟨here, untitled⟩ := List.forall_mem_cons.mp untitled
      rw [← isHeader_iff, Bool.not_eq_true] at here
      rw [List.cons_append, headedLines?, here]
      exact ih untitled

theorem headedLines_titled {title : List Char} {lines rest : List (List Char)}
    (titled : Titled title) (inhabited : lines ≠ [])
    (indented : ∀ line ∈ lines, isIndented line = true)
    (stops : ∀ next ∈ rest.head?, isIndented next = false) :
    headedLines? (title :: (lines ++ rest)) = some lines := by
  rw [headedLines?, Text.takeWhile_run indented stops, isHeader_iff.mpr titled]
  simp [inhabited]

theorem flatMap_words_lines (lines : List NameLine) :
    (lines.map NameLine.characters).flatMap Text.words = lines.flatMap NameLine.names := by
  rw [List.flatMap_map]
  exact List.flatMap_congr fun line _ => words_line line

theorem blank_unindented (blank : Margin) : isIndented blank.characters = false := by
  have none : blank.characters.dropWhile isIndent = [] :=
    List.dropWhile_eq_nil_iff.mpr blank.indents
  rw [isIndented, none]
  simp

theorem blank_uncounted (blank : Margin) : headerCount? blank.characters = none := by
  rw [headerCount_eq_none_iff]
  rintro digits ⟨inhabited, digital, indent, gap, rest, _, shape⟩
  obtain ⟨digit, digits, rfl⟩ := List.exists_cons_of_ne_nil inhabited
  have visible : Text.isBlank digit = false :=
    Text.not_blank_of_digit (digital digit List.mem_cons_self)
  rw [blank.blank digit (by simp [shape])] at visible
  cases visible

end Reading

end FleetPatch.Apt
