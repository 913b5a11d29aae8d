import FleetPatch.Package.Manager
import FleetPatch.Proofs.Blocks

/-!
# Outputs of an upgrade in two dialects

An output has a block of names and their number. In the classic dialect the number
stands below the block, in that of version 3 further below, in a section of its
own. Either way the names and the number are read as they were written, whatever
else the output says.
-/

namespace FleetPatch.Apt

set_option autoImplicit false

open Text (Word Free)

/-- The form of an output; in that of version 3 a line without names parts the block from the
section with the number, where the number stands on an indented line. -/
inductive Dialect where
  | classic
  | recent (blank : Margin) (indent : Spacing)

def Dialect.statement (dialect : Dialect) (block : Block) (count : Nat) : List Char :=
  match dialect with
  | classic =>
      classicHeader ++ '\n' :: (block.characters ++
        ((Nat.repr count).toList ++ " upgraded,".toList))
  | recent blank indent =>
      recentHeader ++ '\n' :: (block.characters ++ (blank.characters ++ '\n' ::
        ("Summary:".toList ++ '\n' :: (indent.characters ++
          (recentHeader ++ ' ' :: ((Nat.repr count).toList ++ [',']))))))

structure Output where
  preamble : List Char
  dialect : Dialect
  block : Block
  count : Nat
  trailing : List Char
  begun : Text.EndsLine preamble
  quiet_before : Quiet preamble
  quiet_behind : Quiet trailing
  short : (Nat.repr count).length ≤ 4300

def Output.characters (output : Output) : List Char :=
  output.preamble ++ (output.dialect.statement output.block output.count ++ output.trailing)

section Searching

variable (block : Block) (count : Nat) (trailing : List Char)

/-- No mark runs over a line end that stands before a header. -/
theorem head_statement (dialect : Dialect) :
    ∀ next ∈ (dialect.statement block count ++ trailing).head?,
      ¬ InSummary '\n' next ∧ ¬ InHeading '\n' next := by
  cases dialect with
  | classic =>
      rintro next ⟨⟩
      decide
  | recent blank indent =>
      rintro next ⟨⟩
      decide

theorem exists_digits : ∃ digit digits, (Nat.repr count).toList = digit :: digits ∧
    Text.isDigit digit = true := by
  obtain ⟨digit, digits, shape⟩ := List.exists_cons_of_ne_nil (Text.repr_inhabited count)
  exact ⟨digit, digits, shape, Text.digital_repr count digit (by simp [shape])⟩

/-- Digits are no part of a summary that begins before them. -/
theorem not_inSummary_of_digit {digit : Char} (digital : Text.isDigit digit = true) :
    ¬ InSummary '\n' digit := by
  rintro (feed | letter | ⟨_, blank | rfl⟩)
  · exact absurd feed (by decide)
  · exact absurd letter (by decide)
  · rw [Text.not_blank_of_digit digital] at blank
    cases blank
  · exact absurd digital (by decide)

theorem block_free {digit : Char} (digital : Text.isDigit digit = true) (rest : List Char) :
    Free Summary ('\n' :: block.characters) (digit :: rest) := by
  have plain : ∀ word ∈ Text.words ('\n' :: block.characters), ¬ "upgraded".toList <+: word := by
    rw [Text.words_cons_blank rfl, words_block]
    exact names_unsummed block
  obtain ⟨body, ends⟩ := exists_block_end block
  rw [ends, ← List.cons_append] at plain ⊢
  refine Text.free_of_parted (fun _ => Summary.chained) (unsummed_of_words plain) ?_
  rintro next ⟨⟩
  exact not_inSummary_of_digit digital

/-- The number below the block is the first summary in an output of the classic dialect. -/
theorem classic_summary :
    summaryCount? (Dialect.classic.statement block count ++ trailing) =
      some (Nat.repr count).toList := by
  have shape : Dialect.classic.statement block count ++ trailing =
      classicHeader ++ (('\n' :: block.characters) ++ ((Nat.repr count).toList ++
        (" ".toList ++ ("upgraded".toList ++ (',' :: trailing))))) := by
    simp [Dialect.statement]
  -- The header ends with the word of a summary, so it is passed over for its lack of digits.
  have undigital : classicHeader.all (fun character => !Text.isDigit character) = true := by
    decide +kernel
  have header : ∀ character ∈ classicHeader, Text.isDigit character = false :=
    fun character member => by simpa using List.all_eq_true.mp undigital character member
  have lines : Free Summary ('\n' :: block.characters) ((Nat.repr count).toList ++
      (" ".toList ++ ("upgraded".toList ++ (',' :: trailing)))) := by
    obtain ⟨digit, digits, begins, digital⟩ := exists_digits count
    rw [begins]
    exact block_free block digital _
  have read : summaryAt? ((Nat.repr count).toList ++
      (" ".toList ++ ("upgraded".toList ++ (',' :: trailing)))) =
        some (Nat.repr count).toList :=
    summaryAt_eq_some_iff.mpr ⟨Text.repr_inhabited count, Text.digital_repr count, .spaces 0,
      ',' :: trailing, rfl⟩
  rw [shape, summary_seeks.append_of_free (free_of_undigital header _),
    summary_seeks.append_of_free lines, summary_seeks.eq_some_of_read read]

theorem classic_block : ∃ found,
    classicBlock? (Dialect.classic.statement block count ++ trailing) = some found ∧
      Text.words found = block.names := by
  obtain ⟨digit, digits, begins, digital⟩ := exists_digits count
  have shape : Dialect.classic.statement block count ++ trailing =
      classicHeader ++ '\n' :: (block.lines.flatMap NameLine.ended ++
        digit :: (digits ++ (" upgraded,".toList ++ trailing))) := by
    simp [Dialect.statement, Block.characters, begins]
  refine ⟨_, ?_, words_untilUnindented block.lines block.inhabited
    (Text.not_blank_of_digit digital) (digits ++ (" upgraded,".toList ++ trailing))⟩
  rw [shape]
  refine heading_seeks.eq_some_of_read ?_
  rw [blockAt?, Text.after_eq_some_iff.mpr rfl, Option.bind_some,
    blockBelow_lines block.inhabited]

variable (blank : Margin) (indent : Spacing)

/-- No word from the header of version 3 to the number begins like the last word of a mark. -/
theorem recent_unsummed :
    ∀ word ∈ Text.words ((Dialect.recent blank indent).statement block count),
      ¬ "upgraded".toList <+: word := by
  obtain ⟨digit, digits, begins, digital⟩ := exists_digits count
  let number : Word := {
    characters := (Nat.repr count).toList ++ [',']
    inhabited := by simp
    visible := by
      simp only [List.mem_append, List.mem_singleton]
      rintro character (member | rfl)
      · exact Text.not_blank_of_digit (Text.digital_repr count character member)
      · rfl }
  have header : Text.words recentHeader = [recentHeader] := by decide +kernel
  have heading : Text.words "Summary:".toList = ["Summary:".toList] := by decide +kernel
  have words : Text.words ((Dialect.recent blank indent).statement block count) =
      [recentHeader] ++ (block.names ++ (["Summary:".toList] ++ ([recentHeader] ++
        [number.characters]))) := by
    rw [Dialect.statement, Text.words_append_blank recentHeader rfl, Block.characters,
      words_lines_append, Text.words_blanks_append blank.blank, Text.words_cons_blank rfl,
      Text.words_append_blank "Summary:".toList rfl, Text.words_blanks_append indent.blank,
      Text.words_append_blank recentHeader rfl, Text.words_word number, header, heading]
    rfl
  have titled : ¬ "upgraded".toList <+: recentHeader := by decide +kernel
  have headed : ¬ "upgraded".toList <+: "Summary:".toList := by decide +kernel
  have counted : ¬ "upgraded".toList <+: number.characters := by
    rintro ⟨rest, starts⟩
    change _ = (Nat.repr count).toList ++ [','] at starts
    rw [begins] at starts
    obtain ⟨rfl, _⟩ := List.cons.inj starts
    exact absurd digital (by decide)
  intro word member
  rw [words] at member
  simp only [List.mem_append, List.mem_singleton] at member
  obtain rfl | named | rfl | rfl | rfl := member
  · exact titled
  · exact names_unsummed block word named
  · exact headed
  · exact titled
  · exact counted

/-- Searches for the marks of the classic dialect pass over an output of version 3. -/
theorem recent_free {Mark : List Char → Prop} {Beside : Char → Char → Prop}
    (chained : ∀ mark, Mark mark → mark.IsChain Beside)
    (unmarked : ∀ mark, Mark mark →
      ¬ mark <:+: (Dialect.recent blank indent).statement block count)
    (parted : ∀ next, ¬ Beside ',' next) :
    Free Mark ((Dialect.recent blank indent).statement block count) trailing := by
  obtain ⟨body, ends⟩ : ∃ body,
      (Dialect.recent blank indent).statement block count = body ++ [','] :=
    ⟨recentHeader ++ '\n' :: (block.characters ++ (blank.characters ++ '\n' ::
      ("Summary:".toList ++ '\n' :: (indent.characters ++
        (recentHeader ++ ' ' :: (Nat.repr count).toList))))), by simp [Dialect.statement]⟩
  rw [ends] at unmarked ⊢
  exact Text.free_of_parted chained unmarked fun next _ => parted next

theorem not_inSummary_of_comma (next : Char) : ¬ InSummary ',' next := by
  rintro (digit | letter | ⟨blank, _⟩)
  · exact absurd digit (by decide)
  · exact absurd letter (by decide)
  · exact absurd blank (by decide)

theorem not_inHeading_of_comma (next : Char) : ¬ InHeading ',' next := by
  rintro (letter | ⟨blank, _⟩)
  · exact absurd letter (by decide)
  · exact absurd blank (by decide)

theorem recent_lines : ∃ counting others,
    feedLines ((Dialect.recent blank indent).statement block count ++ trailing) =
      recentHeader :: (block.lines.map NameLine.characters ++
        blank.characters :: "Summary:".toList :: counting :: others) ∧
    Counts (Nat.repr count).toList counting := by
  let lead := indent.characters ++ (recentHeader ++ ' ' :: ((Nat.repr count).toList ++ [',']))
  have shape : (Dialect.recent blank indent).statement block count ++ trailing =
      recentHeader ++ '\n' :: (block.lines.flatMap NameLine.ended ++
        (blank.characters ++ '\n' :: ("Summary:".toList ++ '\n' :: (lead ++ trailing)))) := by
    simp [lead, Dialect.statement, Block.characters]
  have header : '\n' ∉ recentHeader := by decide +kernel
  have title : '\n' ∉ "Summary:".toList := by decide +kernel
  have unbroken : ∀ character ∈ lead, (character == '\n') = false := by
    intro character member
    rw [beq_eq_false_iff_ne]
    rintro rfl
    simp only [lead, List.mem_append, List.mem_cons] at member
    obtain within | within | space | digit | comma := member
    · exact indent.line_feed_absent within
    · exact header within
    · exact absurd space (by decide)
    · exact absurd (Text.digital_repr count _ digit) (by decide)
    · exact absurd comma (by decide)
  obtain ⟨piece, others, parted⟩ :=
    List.exists_cons_of_ne_nil (Text.pieces_ne_nil (· == '\n') trailing)
  have counting : feedLines (lead ++ trailing) = (lead ++ piece) :: others :=
    Text.pieces_uncut_append unbroken parted
  refine ⟨lead ++ piece, others, ?_, Text.repr_inhabited count, Text.digital_repr count,
    indent.toMargin, ⟨[' '], by simp [isIndent]⟩, ',' :: piece, ?_, by simp [lead]⟩
  · rw [shape, feedLines_line header, feedLines_lines_append,
      feedLines_line blank.line_feed_absent, feedLines_line title, counting]
  · rintro next ⟨⟩
    rfl

end Searching

section Reading

theorem feedLines_append {lead : List Char} (ends : Text.EndsLine lead) (rest : List Char) :
    ∃ before, feedLines (lead ++ rest) = before ++ feedLines rest ∧
      ∀ line ∈ before, line ∈ feedLines lead := by
  obtain rfl | ⟨body, rfl⟩ := ends
  · exact ⟨[], rfl, nofun⟩
  · refine ⟨feedLines body, ?_, fun line member => ?_⟩
    · rw [List.append_assoc, List.singleton_append]
      exact Text.pieces_append_cut body rfl rest
    · have parted : feedLines (body ++ ['\n']) = feedLines body ++ feedLines [] :=
        Text.pieces_append_cut body rfl []
      rw [parted]
      exact List.mem_append_left _ member

variable (output : Output)

theorem summary_behind_preamble : summaryCount? output.characters =
    summaryCount? (output.dialect.statement output.block output.count ++ output.trailing) :=
  summary_seeks.append_of_free (Text.free_of_endsLine (fun _ => Summary.chained) output.begun
    output.quiet_before.unsummed fun next first =>
      (head_statement output.block output.count output.trailing output.dialect next first).1)

theorem heading_behind_preamble : classicBlock? output.characters =
    classicBlock? (output.dialect.statement output.block output.count ++ output.trailing) :=
  heading_seeks.append_of_free (Text.free_of_endsLine (fun _ => Heading.chained) output.begun
    output.quiet_before.unheaded fun next first =>
      (head_statement output.block output.count output.trailing output.dialect next first).2)

/-- In an output of version 3 the searches for marks of the classic dialect find nothing. -/
theorem recent_unmarked {blank : Margin} {indent : Spacing}
    (recent : output.dialect = .recent blank indent) :
    summaryCount? output.characters = none ∧ classicBlock? output.characters = none := by
  have plain := recent_unsummed output.block output.count blank indent
  rw [summary_behind_preamble, heading_behind_preamble, recent]
  constructor
  · rw [summary_seeks.append_of_free (recent_free _ _ _ _ _ (fun _ => Summary.chained)
      (unsummed_of_words plain) not_inSummary_of_comma), summary_seeks.eq_none_iff]
    exact output.quiet_behind.unsummed
  · rw [heading_seeks.append_of_free (recent_free _ _ _ _ _ (fun _ => Heading.chained)
      (unheaded_of_words plain) not_inHeading_of_comma), heading_seeks.eq_none_iff]
    exact output.quiet_behind.unheaded

theorem recent_output_lines {blank : Margin} {indent : Spacing}
    (recent : output.dialect = .recent blank indent) : ∃ before counting others,
      (∀ line ∈ before, line ∈ feedLines output.preamble) ∧
      feedLines output.characters = before ++ recentHeader ::
        (output.block.lines.map NameLine.characters ++
          blank.characters :: "Summary:".toList :: counting :: others) ∧
      Counts (Nat.repr output.count).toList counting := by
  obtain ⟨before, parted, within⟩ := feedLines_append output.begun
    (output.dialect.statement output.block output.count ++ output.trailing)
  obtain ⟨counting, others, lines, counts⟩ :=
    recent_lines output.block output.count output.trailing blank indent
  refine ⟨before, counting, others, within, ?_, counts⟩
  rw [Output.characters, parted, recent, lines]

theorem names_read {text : String} (written : text.toList = output.characters) :
    upgradedNames text = output.block.names.map String.ofList := by
  rw [upgradedNames, written]
  cases dialect : output.dialect with
  | classic =>
      obtain ⟨found, read, words⟩ := classic_block output.block output.count output.trailing
      rw [heading_behind_preamble, dialect, read]
      exact congrArg (List.map String.ofList) words
  | recent blank indent =>
      obtain ⟨before, counting, others, within, lines, _⟩ := recent_output_lines output dialect
      have untitled : ∀ line ∈ before, ¬ Titled line :=
        fun line member => output.quiet_before.untitled line (within line member)
      have titled : Titled recentHeader := ⟨.none, (List.append_nil _).symm⟩
      have inhabited : output.block.lines.map NameLine.characters ≠ [] := by
        simp [output.block.inhabited]
      have indented : ∀ line ∈ output.block.lines.map NameLine.characters,
          isIndented line = true := by
        simp only [List.mem_map]
        rintro _ ⟨line, _, rfl⟩
        exact line_indented line
      have stops : ∀ next ∈ (blank.characters :: "Summary:".toList :: counting :: others).head?,
          isIndented next = false := by
        rintro next ⟨⟩
        exact blank_unindented blank
      rw [(recent_unmarked output dialect).2, lines, headedLines_append untitled,
        headedLines_titled titled inhabited indented stops]
      exact congrArg (List.map String.ofList) (flatMap_words_lines output.block.lines)

theorem stated_read {text : String} (written : text.toList = output.characters) :
    statedDigits? text = some (Nat.repr output.count).toList := by
  rw [statedDigits?, written]
  cases dialect : output.dialect with
  | classic =>
      rw [summary_behind_preamble, dialect, classic_summary]
      rfl
  | recent blank indent =>
      obtain ⟨before, counting, others, within, lines, counts⟩ :=
        recent_output_lines output dialect
      have earlier : before.findSome? headerCount? = none :=
        List.findSome?_eq_none_iff.mpr fun line member =>
          headerCount_eq_none_iff.mpr (output.quiet_before.uncounted line (within line member))
      have named : (output.block.lines.map NameLine.characters).findSome? headerCount? = none := by
        simp only [List.findSome?_eq_none_iff, List.mem_map]
        rintro _ ⟨line, _, rfl⟩
        exact line_uncounted line
      have header : headerCount? recentHeader = none := by decide +kernel
      have parting : headerCount? blank.characters = none := blank_uncounted blank
      have title : headerCount? "Summary:".toList = none := by decide +kernel
      have counted : headerCount? counting = some (Nat.repr output.count).toList :=
        headerCount_eq_some_iff.mpr counts
      rw [(recent_unmarked output dialect).1, lines, List.findSome?_append, earlier,
        List.findSome?_cons, header, List.findSome?_append, named, List.findSome?_cons, parting,
        List.findSome?_cons, title, List.findSome?_cons, counted]
      rfl

theorem count_read {text : String} (written : text.toList = output.characters) :
    statedCount text = .ok (some output.count) := by
  have within : ¬ Text.digitLimit < (Nat.repr output.count).toList.length :=
    Nat.not_lt.mpr output.short
  rw [statedCount, stated_read output written]
  change (if Text.digitLimit < (Nat.repr output.count).toList.length then _ else _) = _
  rw [if_neg within, Text.digitsValue_repr]

/-- An output is read as the names that stand in its block, in order, and the number that it
states, in either dialect. -/
theorem written_upgrade_read (reply : Reply)
    (written : (reply.stdout.getD "").toList = output.characters) :
    Manager.apt.upgradeResult reply =
      .ok ⟨reply.succeeded, output.count, output.block.names.map String.ofList,
        reply.stdout.getD "", reply.stderr.getD ""⟩ := by
  have count : Manager.apt.upgradedCount (reply.stdout.getD "")
      (Manager.apt.upgradedNames (reply.stdout.getD "")) = .ok output.count := by
    rw [Manager.upgradedCount, count_read output written]
    rfl
  have names : Manager.apt.upgradedNames (reply.stdout.getD "") =
      output.block.names.map String.ofList := names_read output written
  rw [Manager.upgradeResult, count, names]
  rfl

def Spacing.spaces (more : Nat) : Spacing where
  characters := List.replicate (more + 1) ' '
  indents character member := by
    rw [List.eq_of_mem_replicate member]
    rfl
  inhabited := Text.spaces_inhabited more

def libc : Name where
  toWord := .ofVisible ['l', 'i', 'b', 'c', '6'] rfl
  unsummed := by decide +kernel
  untitled := by decide +kernel

def curl : Name where
  toWord := .ofVisible ['c', 'u', 'r', 'l'] rfl
  unsummed := by decide +kernel
  untitled := by decide +kernel

def twoLines : Block where
  lines := [⟨[(.spaces 1, curl), (.spaces 0, libc)], List.cons_ne_nil _ _⟩,
    ⟨[(.spaces 1, curl)], List.cons_ne_nil _ _⟩]
  inhabited := List.cons_ne_nil _ _

/-- An output behind a line that is a number, with a remark behind its own number. -/
def Dialect.sample (dialect : Dialect) : Output where
  preamble := ['5', '\n']
  dialect := dialect
  block := twoLines
  count := 31
  trailing := [' ', '0', ' ', 'n', 'e', 'w', '\n']
  begun := .inr ⟨['5'], rfl⟩
  quiet_before := by decide +kernel
  quiet_behind := by decide +kernel
  short := by decide +kernel

def classicText : String :=
  "5\nThe following packages will be upgraded:\n  curl libc6\n  curl\n31 upgraded, 0 new\n"

def recentText : String :=
  "5\nUpgrading:\n  curl libc6\n  curl\n\nSummary:\n  Upgrading: 31, 0 new\n"

theorem sample_outputs_read :
    Manager.apt.upgradeResult ⟨some classicText, none, some 0⟩ =
        .ok ⟨true, 31, ["curl", "libc6", "curl"], classicText, ""⟩ ∧
      Manager.apt.upgradeResult ⟨some recentText, none, some 100⟩ =
        .ok ⟨false, 31, ["curl", "libc6", "curl"], recentText, ""⟩ := by
  have names : twoLines.names.map String.ofList = ["curl", "libc6", "curl"] := by decide +kernel
  have classic : classicText.toList = (Dialect.sample .classic).characters := by
    simp only [classicText, String.reduceToList]
    decide +kernel
  have recent : recentText.toList =
      (Dialect.sample (.recent .none (.spaces 1))).characters := by
    simp only [recentText, String.reduceToList]
    decide +kernel
  rw [← names]
  exact ⟨written_upgrade_read _ ⟨some classicText, none, some 0⟩ classic,
    written_upgrade_read _ ⟨some recentText, none, some 100⟩ recent⟩

end Reading

end FleetPatch.Apt
