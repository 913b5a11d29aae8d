import FleetPatch.Text.Digit
import FleetPatch.Text.Search
import Mathlib.Data.List.DropRight
import Mathlib.Data.List.TakeWhile

/-!
# Words of a text

A text is cut where a character says so, and what stands before a cut does not
matter for the pieces behind it. Hence words are read one by one, whatever blanks
part them, and trimming a line changes neither its words nor what it opens with.
-/

namespace FleetPatch.Text

set_option autoImplicit false

section Pieces

variable {cut : Char → Bool}

theorem pieces_ne_nil (cut : Char → Bool) (text : List Char) : pieces cut text ≠ [] := by
  cases text with
  | nil => simp [pieces]
  | cons first rest =>
      rw [pieces]
      split
      · simp
      · split <;> simp

theorem pieces_cons_of_cut {first : Char} (cuts : cut first = true) (rest : List Char) :
    pieces cut (first :: rest) = [] :: pieces cut rest := by
  rw [pieces, if_pos cuts]

theorem pieces_cons_of_stays {first : Char} {rest piece : List Char} {others : List (List Char)}
    (stays : cut first = false) (parted : pieces cut rest = piece :: others) :
    pieces cut (first :: rest) = (first :: piece) :: others := by
  rw [pieces, if_neg (by simp [stays]), parted]

theorem pieces_append_cut {character : Char} (before : List Char) (cuts : cut character = true)
    (rest : List Char) :
    pieces cut (before ++ character :: rest) = pieces cut before ++ pieces cut rest := by
  induction before with
  | nil => exact pieces_cons_of_cut cuts rest
  | cons first before ih =>
      rw [List.cons_append]
      cases stays : cut first with
      | true => rw [pieces_cons_of_cut stays, pieces_cons_of_cut stays, ih, List.cons_append]
      | false =>
          obtain ⟨piece, others, parted⟩ := List.exists_cons_of_ne_nil (pieces_ne_nil cut before)
          rw [parted, List.cons_append] at ih
          rw [pieces_cons_of_stays stays ih, pieces_cons_of_stays stays parted, List.cons_append]

theorem pieces_uncut_append {lead behind piece : List Char} {others : List (List Char)}
    (uncut : ∀ character ∈ lead, cut character = false)
    (parted : pieces cut behind = piece :: others) :
    pieces cut (lead ++ behind) = (lead ++ piece) :: others := by
  induction lead with
  | nil => exact parted
  | cons first lead ih =>
      obtain ⟨stays, uncut⟩ := List.forall_mem_cons.mp uncut
      exact pieces_cons_of_stays stays (ih uncut)

theorem pieces_of_uncut_end {text : List Char}
    (uncut : ∀ character ∈ text, cut character = false) : pieces cut text = [text] := by
  have parted : pieces cut (text ++ []) = [text ++ []] := pieces_uncut_append uncut rfl
  rwa [List.append_nil] at parted

theorem pieces_of_uncut {before : List Char} {character : Char}
    (uncut : ∀ earlier ∈ before, cut earlier = false) (cuts : cut character = true)
    (rest : List Char) : pieces cut (before ++ character :: rest) = before :: pieces cut rest := by
  rw [pieces_append_cut before cuts, pieces_of_uncut_end uncut, List.singleton_append]

theorem exists_first_piece (cut : Char → Bool) (text : List Char) :
    ∃ first rest, (∀ character ∈ first, cut character = false) ∧
      (∀ next ∈ rest.head?, cut next = true) ∧ text = first ++ rest := by
  refine ⟨text.takeWhile (!cut ·), text.dropWhile (!cut ·), fun character member => ?_,
    fun next begins => ?_, List.takeWhile_append_dropWhile.symm⟩
  · simpa using List.mem_takeWhile_imp member
  · have stops := List.head?_dropWhile_not (!cut ·) text
    rw [Option.mem_def.mp begins] at stops
    simpa using stops

theorem pieces_eq_cons_iff {text first : List Char} {others : List (List Char)} :
    pieces cut text = first :: others ↔
      (∀ character ∈ first, cut character = false) ∧
        ((text = first ∧ others = []) ∨
          ∃ character rest, text = first ++ character :: rest ∧ cut character = true ∧
            pieces cut rest = others) := by
  constructor
  · intro parted
    obtain ⟨piece, behind, uncut, stops, rfl⟩ := exists_first_piece cut text
    cases behind with
    | nil =>
        rw [List.append_nil, pieces_of_uncut_end uncut] at parted
        cases parted
        exact ⟨uncut, .inl ⟨List.append_nil _, rfl⟩⟩
    | cons character rest =>
        rw [pieces_of_uncut uncut (stops character rfl)] at parted
        cases parted
        exact ⟨uncut, .inr ⟨character, rest, rfl, stops character rfl, rfl⟩⟩
  · rintro ⟨uncut, ⟨rfl, rfl⟩ | ⟨character, rest, rfl, cuts, rfl⟩⟩
    · exact pieces_of_uncut_end uncut
    · exact pieces_of_uncut uncut cuts rest

end Pieces

section Runs

variable {α : Type} {kind : α → Bool} {run rest : List α}

theorem takeWhile_run (within : ∀ item ∈ run, kind item = true)
    (stops : ∀ next ∈ rest.head?, kind next = false) : (run ++ rest).takeWhile kind = run := by
  rw [List.takeWhile_append_of_pos within]
  cases rest with
  | nil => rw [List.takeWhile_nil, List.append_nil]
  | cons next rest =>
      rw [List.takeWhile_cons_of_neg (by simp [stops next rfl]), List.append_nil]

theorem dropWhile_run (within : ∀ item ∈ run, kind item = true)
    (stops : ∀ next ∈ rest.head?, kind next = false) : (run ++ rest).dropWhile kind = rest := by
  rw [List.dropWhile_append_of_pos within]
  cases rest with
  | nil => rfl
  | cons next rest => rw [List.dropWhile_cons_of_neg (by simp [stops next rfl])]

theorem head_dropWhile (kind : α → Bool) (text : List α) :
    ∀ next ∈ (text.dropWhile kind).head?, kind next = false := by
  intro next first
  have stops := List.head?_dropWhile_not kind text
  rw [Option.mem_def.mp first] at stops
  exact stops

theorem drop_takeWhile (kind : α → Bool) (text : List α) :
    text.drop (text.takeWhile kind).length = text.dropWhile kind := by
  have whole := List.takeWhile_append_dropWhile (p := kind) (l := text)
  calc text.drop (text.takeWhile kind).length
      = (text.takeWhile kind ++ text.dropWhile kind).drop (text.takeWhile kind).length := by
        rw [whole]
    _ = text.dropWhile kind := List.drop_left

/-- Items of a kind stand around what is left when they are taken from both ends. -/
theorem exists_around (kind : α → Bool) (text : List α) : ∃ before behind,
    (∀ item ∈ before, kind item = true) ∧ (∀ item ∈ behind, kind item = true) ∧
      text = before ++ (((text.dropWhile kind).reverse.dropWhile kind).reverse ++ behind) := by
  refine ⟨text.takeWhile kind, (text.dropWhile kind).rtakeWhile kind,
    fun item member => List.mem_takeWhile_imp member,
    fun item member => List.mem_rtakeWhile_imp member, ?_⟩
  have body : ((text.dropWhile kind).reverse.dropWhile kind).reverse ++
      (text.dropWhile kind).rtakeWhile kind = text.dropWhile kind :=
    List.rdropWhile_append_rtakeWhile
  rw [body, List.takeWhile_append_dropWhile]

theorem strip_around {before core behind : List α} (leading : ∀ item ∈ before, kind item = true)
    (trailing : ∀ item ∈ behind, kind item = true)
    (begun : ∃ first, core.head? = some first ∧ kind first = false)
    (ended : ∃ last, core.getLast? = some last ∧ kind last = false) :
    (((before ++ (core ++ behind)).dropWhile kind).reverse.dropWhile kind).reverse = core := by
  obtain ⟨first, begins, visible⟩ := begun
  obtain ⟨last, ends, seen⟩ := ended
  have left : (before ++ (core ++ behind)).dropWhile kind = core ++ behind := by
    refine dropWhile_run leading fun next first => ?_
    rw [List.head?_append, begins] at first
    cases first
    exact visible
  have right : (behind.reverse ++ core.reverse).dropWhile kind = core.reverse := by
    refine dropWhile_run (fun item member => trailing item (List.mem_reverse.mp member)) ?_
    intro next first
    rw [List.head?_reverse, ends] at first
    cases first
    exact seen
  rw [left, List.reverse_append, right, List.reverse_reverse]

end Runs

section Digits

/-- What holds of the ten characters of every run of digits holds of all digits. -/
theorem forall_digits {P : Char → Prop}
    (runs : ∀ start ∈ digitZeros, ∀ offset < 10, P (Char.ofNat (start + offset)))
    {character : Char} (digit : isDigit character = true) : P character := by
  have inRun : ∃ start ∈ digitZeros,
      start ≤ character.toNat ∧ character.toNat < start + 10 := by
    simp only [isDigit, digitValue?] at digit
    split at digit
    · split at digit
      · exact ⟨48, List.mem_cons_self, by omega, by omega⟩
      · cases digit
    · simp only [Option.isSome_map, List.find?_isSome, Bool.and_eq_true, decide_eq_true_eq] at digit
      exact digit
  obtain ⟨start, member, lower, upper⟩ := inRun
  have held := runs start member (character.toNat - start) (by omega)
  rw [Nat.add_sub_cancel' lower, Char.ofNat_toNat] at held
  exact held

theorem not_blank_of_digit {character : Char} (digit : isDigit character = true) :
    isBlank character = false :=
  forall_digits (P := fun found => isBlank found = false) (by decide +kernel) digit

theorem not_digit_of_blank {character : Char} (blank : isBlank character = true) :
    isDigit character = false := by
  apply Bool.eq_false_iff.mpr
  intro digit
  rw [not_blank_of_digit digit] at blank
  cases blank

end Digits

def AllBlank (text : List Char) : Prop := ∀ character ∈ text, isBlank character = true

instance (text : List Char) : Decidable (AllBlank text) :=
  inferInstanceAs (Decidable (∀ character ∈ text, isBlank character = true))

structure Word where
  characters : List Char
  inhabited : characters ≠ []
  visible : ∀ character ∈ characters, isBlank character = false

/-- Blanks that may stand around words, also none. -/
structure Blanks where
  characters : List Char
  blank : AllBlank characters

structure Gap extends Blanks where
  inhabited : characters ≠ []

def Word.ofVisible (characters : List Char)
    (visible : (!characters.isEmpty && characters.all fun found => !isBlank found) = true) :
    Word where
  characters
  inhabited := by
    rintro rfl
    cases visible
  visible found member := by
    rw [Bool.and_eq_true, List.all_eq_true] at visible
    simpa using visible.2 found member

def Blanks.spaces (count : Nat) : Blanks where
  characters := List.replicate count ' '
  blank character member := by
    rw [List.eq_of_mem_replicate member]
    rfl

theorem spaces_inhabited (more : Nat) : List.replicate (more + 1) ' ' ≠ [] :=
  List.cons_ne_nil _ _

def Gap.spaces (more : Nat) : Gap where
  toBlanks := .spaces (more + 1)
  inhabited := spaces_inhabited more

section Words

theorem words_append_blank (before : List Char) {character : Char}
    (blank : isBlank character = true) (rest : List Char) :
    words (before ++ character :: rest) = words before ++ words rest := by
  rw [words, pieces_append_cut before blank, List.filter_append]
  rfl

theorem words_cons_blank {character : Char} (blank : isBlank character = true)
    (rest : List Char) : words (character :: rest) = words rest :=
  words_append_blank [] blank rest

theorem words_blanks_append {blanks : List Char} (blank : AllBlank blanks) (rest : List Char) :
    words (blanks ++ rest) = words rest := by
  induction blanks with
  | nil => rfl
  | cons first blanks ih =>
      obtain ⟨cuts, blank⟩ := List.forall_mem_cons.mp blank
      rw [List.cons_append, words_cons_blank cuts, ih blank]

theorem words_of_blank {text : List Char} (blank : AllBlank text) : words text = [] := by
  have read := words_blanks_append blank []
  rwa [List.append_nil] at read

theorem words_append_blanks (text : List Char) {blanks : List Char} (blank : AllBlank blanks) :
    words (text ++ blanks) = words text := by
  cases blanks with
  | nil => rw [List.append_nil]
  | cons first more =>
      obtain ⟨cuts, behind⟩ := List.forall_mem_cons.mp blank
      rw [words_append_blank text cuts, words_of_blank behind, List.append_nil]

theorem words_word (word : Word) : words word.characters = [word.characters] := by
  rw [words, pieces_of_uncut_end word.visible, List.filter_cons_of_pos (by simp [word.inhabited]),
    List.filter_nil]

theorem words_word_blanks (word : Word) (tail : Blanks) :
    words (word.characters ++ tail.characters) = [word.characters] := by
  rw [words_append_blanks _ tail.blank, words_word]

theorem words_word_append (word : Word) {rest : List Char}
    (ended : ∀ next ∈ rest.head?, isBlank next = true) :
    words (word.characters ++ rest) = word.characters :: words rest := by
  cases rest with
  | nil =>
      rw [List.append_nil, words_word]
      rfl
  | cons next rest =>
      rw [words_append_blank word.characters (ended next rfl), words_word, List.singleton_append,
        words_cons_blank (ended next rfl)]

theorem Gap.head_blank (gap : Gap) (rest : List Char) :
    ∀ next ∈ (gap.characters ++ rest).head?, isBlank next = true := by
  obtain ⟨first, more, shape⟩ := List.exists_cons_of_ne_nil gap.inhabited
  rw [shape]
  rintro next ⟨⟩
  exact gap.blank first (by simp [shape])

theorem words_word_gap (word : Word) (gap : Gap) (rest : List Char) :
    words (word.characters ++ (gap.characters ++ rest)) = word.characters :: words rest := by
  rw [words_word_append word (gap.head_blank rest), words_blanks_append gap.blank]

/-- Visible characters behind a blank begin a word. -/
theorem exists_word_begins (before : List Char) {character : Char}
    (blank : isBlank character = true) (lead : Word) (behind : List Char) :
    ∃ word ∈ words (before ++ character :: (lead.characters ++ behind)),
      lead.characters <+: word := by
  obtain ⟨piece, others, parted⟩ := List.exists_cons_of_ne_nil (pieces_ne_nil isBlank behind)
  refine ⟨lead.characters ++ piece, ?_, List.prefix_append _ _⟩
  rw [words_append_blank before blank]
  refine List.mem_append_right _ (List.mem_filter.mpr ⟨?_, by simp [lead.inhabited]⟩)
  rw [pieces_uncut_append lead.visible parted]
  exact List.mem_cons_self

/-- What a word and a blank behind it begin with, the word begins with, if it is visible. -/
theorem prefix_of_prefix_append {lead word rest : List Char}
    (visible : ∀ character ∈ lead, isBlank character = false)
    (ended : ∀ next ∈ rest.head?, isBlank next = true) (begins : lead <+: word ++ rest) :
    lead <+: word := by
  obtain ⟨behind, shape⟩ := begins
  obtain ⟨more, within, _⟩ | ⟨more, runs, shape⟩ := List.append_eq_append_iff.mp shape
  · exact ⟨more, within.symm⟩
  · cases more with
    | nil => exact ⟨[], by rw [runs, List.append_nil, List.append_nil]⟩
    | cons first more =>
        have seen : isBlank first = false := visible first (by simp [runs])
        rw [ended first (by rw [shape]; rfl)] at seen
        cases seen

/-- A line whose first word is the word: blanks at most stand before it, and if anything stands
behind it, a blank does. -/
structure Leads (word : Word) (line : List Char) : Prop where
  parted : ∃ indent rest, AllBlank indent ∧ (∀ next ∈ rest.head?, isBlank next = true) ∧
    line = indent ++ (word.characters ++ rest)

theorem leads_of_gap (word : Word) {indent : List Char} (blank : AllBlank indent) (gap : Gap)
    (rest : List Char) :
    Leads word (indent ++ (word.characters ++ (gap.characters ++ rest))) :=
  ⟨indent, gap.characters ++ rest, blank, gap.head_blank rest, rfl⟩

theorem leads_of_blanks (word : Word) {indent : List Char} (blank : AllBlank indent)
    (tail : Blanks) : Leads word (indent ++ (word.characters ++ tail.characters)) :=
  ⟨indent, tail.characters, blank,
    fun next first => tail.blank next (List.mem_of_mem_head? first), rfl⟩

theorem Leads.words_eq {word : Word} {line : List Char} (leads : Leads word line) :
    ∃ more, words line = word.characters :: more := by
  obtain ⟨indent, rest, blank, ended, rfl⟩ := leads.parted
  exact ⟨words rest, by rw [words_blanks_append blank, words_word_append word ended]⟩

/-- A line that is not blank has a first word. -/
theorem exists_leads {line : List Char} (written : ¬ AllBlank line) :
    ∃ word, Leads word line := by
  let body := line.dropWhile isBlank
  have inhabited : body ≠ [] := fun none => written (List.dropWhile_eq_nil_iff.mp none)
  have visible : isBlank (body.head inhabited) = false := List.head_dropWhile_not isBlank inhabited
  let found : Word := {
    characters := body.takeWhile fun character => !isBlank character
    inhabited := by
      rw [← List.cons_head_tail inhabited, List.takeWhile_cons_of_pos (by simp [visible])]
      exact List.cons_ne_nil _ _
    visible := fun character member => by simpa using List.mem_takeWhile_imp member }
  refine ⟨found, line.takeWhile isBlank, body.dropWhile fun character => !isBlank character,
    fun character member => List.mem_takeWhile_imp member, fun next first => ?_, ?_⟩
  · simpa using head_dropWhile (fun character => !isBlank character) body next first
  · rw [List.takeWhile_append_dropWhile, List.takeWhile_append_dropWhile]

theorem words_eq_nil_iff {text : List Char} : words text = [] ↔ AllBlank text := by
  refine ⟨fun none => ?_, words_of_blank⟩
  by_contra written
  obtain ⟨word, leads⟩ := exists_leads written
  obtain ⟨more, read⟩ := leads.words_eq
  rw [none] at read
  cases read

/-- The first word of a text, and the words behind it. -/
theorem words_eq_cons_iff {text first : List Char} {others : List (List Char)} :
    words text = first :: others ↔
      ∃ (word : Word) (indent : Blanks) (rest : List Char), word.characters = first ∧
        (∀ next ∈ rest.head?, isBlank next = true) ∧ words rest = others ∧
        text = indent.characters ++ (word.characters ++ rest) := by
  constructor
  · intro read
    have written : ¬ AllBlank text := by
      intro blank
      rw [words_of_blank blank] at read
      cases read
    obtain ⟨word, indent, rest, blank, ended, rfl⟩ := exists_leads written
    rw [words_blanks_append blank, words_word_append word ended] at read
    cases read
    exact ⟨word, ⟨indent, blank⟩, rest, rfl, ended, rfl, rfl⟩
  · rintro ⟨word, indent, rest, rfl, ended, rfl, rfl⟩
    rw [words_blanks_append indent.blank, words_word_append word ended]

theorem exists_gap_of_words {text first : List Char} {others : List (List Char)}
    (read : words text = first :: others) (parted : ∀ next ∈ text.head?, isBlank next = true) :
    ∃ (word : Word) (gap : Gap) (rest : List Char), word.characters = first ∧
      (∀ next ∈ rest.head?, isBlank next = true) ∧ words rest = others ∧
      text = gap.characters ++ (word.characters ++ rest) := by
  obtain ⟨word, indent, rest, same, ended, behind, rfl⟩ := words_eq_cons_iff.mp read
  have inhabited : indent.characters ≠ [] := by
    intro unparted
    obtain ⟨visible, more, shape⟩ := List.exists_cons_of_ne_nil word.inhabited
    have seen : isBlank visible = false := word.visible visible (by simp [shape])
    rw [parted visible (by simp [unparted, shape])] at seen
    cases seen
  exact ⟨word, ⟨indent, inhabited⟩, rest, same, ended, behind, rfl⟩

/-- A text with a word as its last: blanks at most stand behind it, and if anything stands before
it, a blank does. -/
def LastWord (word : Word) (text : List Char) : Prop :=
  ∃ lead tail, (∀ last ∈ lead.getLast?, isBlank last = true) ∧ AllBlank tail ∧
    text = lead ++ (word.characters ++ tail)

theorem LastWord.getLast_words {word : Word} {text : List Char} (last : LastWord word text) :
    (words text).getLast? = some word.characters := by
  obtain ⟨lead, tail, parting, blank, rfl⟩ := last
  have alone : words (word.characters ++ tail) = [word.characters] :=
    words_word_blanks word ⟨tail, blank⟩
  cases lead using List.reverseRecOn with
  | nil => rw [List.nil_append, alone, List.getLast?_singleton]
  | append_singleton lead final =>
      have parts : isBlank final = true := parting final List.getLast?_concat
      rw [List.append_assoc, List.singleton_append, words_append_blank lead parts, alone,
        List.getLast?_concat]

theorem getLast_words_iff {word : Word} {text : List Char} :
    (words text).getLast? = some word.characters ↔ LastWord word text := by
  refine ⟨fun last => ?_, LastWord.getLast_words⟩
  generalize read : words text = found at last
  induction found generalizing text with
  | nil => cases last
  | cons first others ih =>
      obtain ⟨leading, indent, rest, rfl, ended, behind, rfl⟩ := words_eq_cons_iff.mp read
      cases others with
      | nil =>
          have same : leading.characters = word.characters := Option.some.inj last
          exact ⟨indent.characters, rest,
            fun last member => indent.blank last (List.mem_of_getLast? member),
            words_eq_nil_iff.mp behind, by rw [same]⟩
      | cons second others =>
          rw [List.getLast?_cons_cons] at last
          obtain ⟨lead, tail, parting, blank, rfl⟩ := ih behind last
          refine ⟨indent.characters ++ (leading.characters ++ lead), tail, fun final member => ?_,
            blank, by simp only [List.append_assoc]⟩
          cases lead using List.reverseRecOn with
          | nil =>
              -- The words behind the first one begin with a blank, so none begins with the last.
              obtain ⟨visible, more, shape⟩ := List.exists_cons_of_ne_nil word.inhabited
              have seen : isBlank visible = false := word.visible visible (by simp [shape])
              rw [ended visible (by simp [shape])] at seen
              cases seen
          | append_singleton lead closing =>
              refine parting final ?_
              rw [← List.append_assoc, ← List.append_assoc, List.getLast?_concat] at member
              rw [List.getLast?_concat]
              exact member

end Words

section Trimming

def isFramed (text : List Char) : Bool :=
  text.head?.any (fun first => !isBlank first) && text.getLast?.any (fun last => !isBlank last)

theorem exists_trim_parts (text : List Char) :
    ∃ before behind, AllBlank before ∧ AllBlank behind ∧
      text = before ++ (trim text ++ behind) :=
  exists_around isBlank text

theorem words_trim (text : List Char) : words (trim text) = words text := by
  obtain ⟨before, behind, leading, trailing, shape⟩ := exists_trim_parts text
  conv_rhs => rw [shape]
  rw [words_blanks_append leading, words_append_blanks _ trailing]

/-- A text without the blanks at its ends. -/
structure Trims (text core : List Char) : Prop where
  parted : ∃ before behind, AllBlank before ∧ AllBlank behind ∧ text = before ++ (core ++ behind)
  framed : core = [] ∨ isFramed core = true

theorem Trims.mem {text core : List Char} {character : Char} (trims : Trims text core)
    (member : character ∈ core) : character ∈ text := by
  obtain ⟨before, behind, _, _, rfl⟩ := trims.parted
  simp [member]

theorem trim_eq_nil_iff {text : List Char} : trim text = [] ↔ AllBlank text := by
  constructor
  · intro trimmed
    obtain ⟨before, behind, leading, trailing, shape⟩ := exists_trim_parts text
    rw [trimmed, List.nil_append] at shape
    rw [shape]
    exact List.forall_mem_append.mpr ⟨leading, trailing⟩
  · intro blank
    have dropped : text.dropWhile isBlank = [] := List.dropWhile_eq_nil_iff.mpr blank
    rw [trim, dropped]
    rfl

theorem trims_trim (text : List Char) : Trims text (trim text) := by
  refine ⟨exists_trim_parts text, or_iff_not_imp_left.mpr fun inhabited => ?_⟩
  have ended : isBlank ((trim text).getLast inhabited) = false :=
    Bool.eq_false_iff.mpr (List.rdropWhile_last_not isBlank (text.dropWhile isBlank) inhabited)
  obtain ⟨rest, shape⟩ : trim text <+: text.dropWhile isBlank := List.rdropWhile_prefix isBlank _
  have begun : isBlank ((trim text).head inhabited) = false := by
    refine head_dropWhile isBlank text _ ?_
    rw [← shape, List.head?_append_of_ne_nil _ inhabited]
    exact List.head?_eq_some_head inhabited
  rw [isFramed, List.getLast?_eq_some_getLast inhabited, List.head?_eq_some_head inhabited]
  simp [ended, begun]

/-- Blanks in front are trimmed up to a visible character. -/
theorem trim_blanks_append {blanks rest : List Char} {first : Char} (blank : AllBlank blanks)
    (visible : isBlank first = false) :
    trim (blanks ++ first :: rest) = (first :: rest).rdropWhile isBlank := by
  have dropped : (blanks ++ first :: rest).dropWhile isBlank = first :: rest := by
    rw [List.dropWhile_append_of_pos blank, List.dropWhile_cons_of_neg (by simp [visible])]
  rw [trim, dropped]
  rfl

/-- Blanks behind a visible character are trimmed, and nothing before it is. -/
theorem rdropWhile_visible (before : List Char) {last : Char} (visible : isBlank last = false)
    (rest : List Char) : ∃ kept,
      (before ++ last :: rest).rdropWhile isBlank = before ++ last :: kept ∧
      (AllBlank rest → kept = []) := by
  induction rest using List.reverseRecOn with
  | nil => exact ⟨[], List.rdropWhile_concat_neg _ _ _ (by simp [visible]), fun _ => rfl⟩
  | append_singleton rest final ih =>
      rw [← List.cons_append, ← List.append_assoc]
      cases blank : isBlank final with
      | true =>
          obtain ⟨kept, trimmed, emptied⟩ := ih
          rw [List.rdropWhile_concat_pos _ _ _ blank]
          exact ⟨kept, trimmed, fun all =>
            emptied fun character member => all character (List.mem_append_left _ member)⟩
      | false =>
          rw [List.rdropWhile_concat_neg _ _ _ (by simp [blank])]
          refine ⟨rest ++ [final], by simp, fun all => ?_⟩
          rw [all final (by simp)] at blank
          cases blank

theorem trim_eq_iff {text core : List Char} : trim text = core ↔ Trims text core := by
  refine ⟨fun trimmed => trimmed ▸ trims_trim text, ?_⟩
  rintro ⟨⟨before, behind, leading, trailing, rfl⟩, rfl | framed⟩
  · exact trim_eq_nil_iff.mpr (List.forall_mem_append.mpr ⟨leading, trailing⟩)
  · simp only [isFramed, Bool.and_eq_true, Option.any_eq_true, Bool.not_eq_true'] at framed
    exact strip_around leading trailing framed.1 framed.2

end Trimming

section Ends

theorem after_eq_some_iff {lead text behind : List Char} :
    after? lead text = some behind ↔ text = lead ++ behind := by
  induction lead generalizing text with
  | nil => simp [after?]
  | cons expected lead ih =>
      cases text with
      | nil => simp [after?]
      | cons found text =>
          by_cases same : expected = found
          · simp [after?, same, ih]
          · simp [after?, same, Ne.symm same]

theorem cutAtLast_eq_none_iff {separator : Char} {text : List Char} :
    cutAtLast? separator text = none ↔ separator ∉ text := by
  induction text with
  | nil => simp [cutAtLast?]
  | cons first rest ih =>
      rw [cutAtLast?]
      cases later : cutAtLast? separator rest with
      | some parts =>
          have present : separator ∈ rest := by
            rw [later] at ih
            exact Classical.not_not.mp fun absent => nomatch ih.mpr absent
          simp [present]
      | none =>
          by_cases same : first = separator
          · simp [same]
          · simp [same, Ne.symm same, ih.mp later]

theorem cutAtLast_eq_some_iff {separator : Char} {text before behind : List Char} :
    cutAtLast? separator text = some (before, behind) ↔
      text = before ++ separator :: behind ∧ separator ∉ behind := by
  constructor
  · intro cut
    induction text generalizing before with
    | nil => cases cut
    | cons first rest ih =>
        rw [cutAtLast?] at cut
        cases later : cutAtLast? separator rest with
        | some parts =>
            rw [later] at cut
            cases cut
            obtain ⟨shape, absent⟩ := ih later
            exact ⟨congrArg (first :: ·) shape, absent⟩
        | none =>
            rw [later] at cut
            by_cases same : first = separator
            · rw [if_pos same] at cut
              cases cut
              exact ⟨by rw [same, List.nil_append], cutAtLast_eq_none_iff.mp later⟩
            · rw [if_neg same] at cut
              cases cut
  · rintro ⟨rfl, absent⟩
    induction before with
    | nil => rw [List.nil_append, cutAtLast?, cutAtLast_eq_none_iff.mpr absent, if_pos rfl]
    | cons first before ih => rw [List.cons_append, cutAtLast?, ih]

theorem cutAt_eq_some_iff {separator : Char} {text before behind : List Char} :
    cutAt? [separator] text = some (before, behind) ↔
      text = before ++ separator :: behind ∧ separator ∉ before := by
  induction text generalizing before behind with
  | nil => simp [cutAt?]
  | cons first rest ih =>
      by_cases same : separator = first
      · subst same
        simp only [cutAt?, after?, if_true, Option.some.injEq, Prod.mk.injEq]
        constructor
        · rintro ⟨rfl, rfl⟩
          exact ⟨rfl, List.not_mem_nil⟩
        · rintro ⟨shape, absent⟩
          cases before with
          | nil => exact ⟨rfl, (List.cons.inj shape).2⟩
          | cons next before =>
              obtain ⟨rfl, _⟩ := List.cons.inj shape
              exact absurd List.mem_cons_self absent
      · simp only [cutAt?, after?, if_neg same, Option.map_eq_some_iff, Prod.exists, ih,
          Prod.mk.injEq]
        constructor
        · rintro ⟨before, _, ⟨rfl, absent⟩, rfl, rfl⟩
          exact ⟨rfl, by simp [same, absent]⟩
        · rintro ⟨shape, absent⟩
          cases before with
          | nil => exact absurd (List.cons.inj shape).1.symm same
          | cons next before =>
              obtain ⟨rfl, rfl⟩ := List.cons.inj shape
              exact ⟨before, behind, ⟨rfl, fun member => absent (List.mem_cons_of_mem _ member)⟩,
                rfl, rfl⟩

theorem after_isSome_iff {lead text : List Char} :
    (after? lead text).isSome = true ↔ ∃ behind, text = lead ++ behind := by
  simp only [Option.isSome_iff_exists, after_eq_some_iff]

/-- A line that begins with the lead, or with blanks and the lead. -/
def Opens (lead line : List Char) : Prop :=
  ∃ indent rest, AllBlank indent ∧ line = indent ++ (lead ++ rest)

/-- A line that ends with the character, or with the character and blanks. -/
def Closes (last : Char) (line : List Char) : Prop :=
  ∃ body tail, AllBlank tail ∧ line = body ++ last :: tail

theorem begins_trim_iff {lead line : List Char} (framed : isFramed lead = true) :
    (after? lead (trim line)).isSome = true ↔ Opens lead line := by
  rw [after_isSome_iff]
  constructor
  · rintro ⟨rest, begins⟩
    obtain ⟨before, behind, leading, _, shape⟩ := exists_trim_parts line
    rw [begins, List.append_assoc] at shape
    exact ⟨before, rest ++ behind, leading, shape⟩
  · rintro ⟨indent, rest, blank, rfl⟩
    simp only [isFramed, Bool.and_eq_true, Option.any_eq_true, Bool.not_eq_true'] at framed
    obtain ⟨⟨first, begins, visible⟩, ⟨last, ends, seen⟩⟩ := framed
    obtain ⟨more, shape⟩ := List.head?_eq_some_iff.mp begins
    obtain ⟨body, ended⟩ := List.getLast?_eq_some_iff.mp ends
    obtain ⟨kept, trimmed, _⟩ := rdropWhile_visible body seen rest
    refine ⟨kept, ?_⟩
    calc trim (indent ++ (lead ++ rest))
        = (lead ++ rest).rdropWhile isBlank := by
          rw [shape, List.cons_append, trim_blanks_append blank visible]
      _ = (body ++ last :: rest).rdropWhile isBlank := by
          rw [ended, List.append_assoc, List.singleton_append]
      _ = lead ++ kept := by
          rw [trimmed, ended, List.append_assoc, List.singleton_append]

theorem getLast_trim_iff {last : Char} {line : List Char} (visible : isBlank last = false) :
    (trim line).getLast? = some last ↔ Closes last line := by
  rw [List.getLast?_eq_some_iff]
  constructor
  · rintro ⟨body, ends⟩
    obtain ⟨before, behind, _, trailing, shape⟩ := exists_trim_parts line
    rw [ends] at shape
    exact ⟨before ++ body, behind, trailing, by simp [shape]⟩
  · rintro ⟨body, tail, blank, rfl⟩
    have dropped : (body ++ last :: tail).dropWhile isBlank =
        body.dropWhile isBlank ++ last :: tail := by
      rw [List.dropWhile_append]
      split
      next none =>
          rw [List.isEmpty_iff.mp none, List.dropWhile_cons_of_neg (by simp [visible])]
          rfl
      · rfl
    obtain ⟨kept, trimmed, emptied⟩ :=
      rdropWhile_visible (body.dropWhile isBlank) visible tail
    refine ⟨body.dropWhile isBlank, ?_⟩
    change ((body ++ last :: tail).dropWhile isBlank).rdropWhile isBlank = _
    rw [dropped, trimmed, emptied blank]

end Ends

end FleetPatch.Text
