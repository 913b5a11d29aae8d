import FleetPatch.Package.Manager
import FleetPatch.Proofs.Lines

/-!
# Lines of apt and dpkg listings

Which lines offer an upgrade and which record an installed package is said by what
the line is made of. A listing is read line by line: each line of that form gives its
package, every other line gives none, and what stands on the lines before or behind
it does not matter.
-/

namespace FleetPatch.Apt

set_option autoImplicit false

open Text (Word Blanks Gap)

/-- A line that offers an upgrade: a name and a repository with a slash between them, a
version and an architecture, parted by blanks. Blanks may stand in front, and anything
behind a further blank. -/
inductive Offers : List Char → Package → Prop where
  | line (indent : Blanks) (name repository version architecture : Word) (first second : Gap)
      (rest : List Char) (unslashed : '/' ∉ name.characters)
      (ended : ∀ next ∈ rest.head?, Text.isBlank next = true) :
      Offers
        (indent.characters ++ ((name.characters ++ '/' :: repository.characters) ++
          (first.characters ++ (version.characters ++ (second.characters ++
            (architecture.characters ++ rest))))))
        ⟨String.ofList name.characters, String.ofList version.characters,
          String.ofList architecture.characters, .upgradable⟩

def installedWord : Word :=
  .ofVisible ['i', 'n', 's', 't', 'a', 'l', 'l', 'e', 'd'] rfl

/-- A line that records an installed package: but for blanks around it, fields with tabs between
them, which are name, version, architecture, a status whose last word is `installed`, and any
more. -/
inductive Records : List Char → Package → Prop where
  | line {line : List Char} (name version architecture status more : List Char)
      (trims : Text.Trims line
        (name ++ '\t' :: (version ++ '\t' :: (architecture ++ '\t' :: (status ++ more)))))
      (untabbed : ∀ field ∈ [name, version, architecture, status], '\t' ∉ field)
      (ended : ∀ next ∈ more.head?, next = '\t') (state : Text.LastWord installedWord status) :
      Records line
        ⟨String.ofList name, String.ofList version, String.ofList architecture, .installed⟩

inductive Listing (lists : List Char → Package → Prop) :
    List (List Char) → List Package → Prop where
  | nothing : Listing lists [] []
  | listed {line : List Char} {lines : List (List Char)} {package : Package}
      {packages : List Package} (found : lists line package)
      (behind : Listing lists lines packages) :
      Listing lists (line :: lines) (package :: packages)
  | passed {line : List Char} {lines : List (List Char)} {packages : List Package}
      (foreign : ∀ package, ¬ lists line package) (behind : Listing lists lines packages) :
      Listing lists (line :: lines) packages

section Candidates

def source (name repository : Word) : Word where
  characters := name.characters ++ '/' :: repository.characters
  inhabited := by simp
  visible := by
    simp only [List.mem_append, List.mem_cons]
    rintro character (named | rfl | kept)
    · exact name.visible character named
    · rfl
    · exact repository.visible character kept

theorem upgradableLine_of_words {line version architecture : List Char}
    {more : List (List Char)} {name repository : Word} (unslashed : '/' ∉ name.characters)
    (read : Text.words line =
      (name.characters ++ '/' :: repository.characters) :: version :: architecture :: more) :
    upgradableLine? line = some ⟨String.ofList name.characters, String.ofList version,
      String.ofList architecture, .upgradable⟩ := by
  have cut : Text.cutAt? ['/'] (name.characters ++ '/' :: repository.characters) =
      some (name.characters, repository.characters) :=
    Text.cutAt_eq_some_iff.mpr ⟨rfl, unslashed⟩
  simp [upgradableLine?, read, cut, name.inhabited, repository.inhabited]

theorem exists_words_of_upgradableLine {line : List Char} {package : Package}
    (read : upgradableLine? line = some package) :
    ∃ (name repository : Word) (version architecture : List Char) (more : List (List Char)),
      '/' ∉ name.characters ∧
      Text.words line =
        (name.characters ++ '/' :: repository.characters) :: version :: architecture :: more ∧
      package = ⟨String.ofList name.characters, String.ofList version,
        String.ofList architecture, .upgradable⟩ := by
  unfold upgradableLine? at read
  split at read
  next first version architecture more found =>
      obtain ⟨column, _, _, rfl, _⟩ := Text.words_eq_cons_iff.mp found
      cases cut : Text.cutAt? ['/'] column.characters with
      | none =>
          rw [cut] at read
          cases read
      | some parts =>
          obtain ⟨name, repository⟩ := parts
          obtain ⟨shape, unslashed⟩ := Text.cutAt_eq_some_iff.mp cut
          simp only [cut, Option.ite_none_left_eq_some, Bool.or_eq_true, List.isEmpty_iff, not_or,
            Option.some.injEq] at read
          obtain ⟨⟨named, kept⟩, rfl⟩ := read
          have visible := column.visible
          rw [shape, List.forall_mem_append, List.forall_mem_cons] at visible
          exact ⟨⟨name, named, visible.1⟩, ⟨repository, kept, visible.2.2⟩, version, architecture,
            more, unslashed, by rw [found, shape], rfl⟩
  · cases read

theorem upgradableLine_eq_some_iff {line : List Char} {package : Package} :
    upgradableLine? line = some package ↔ Offers line package := by
  constructor
  · intro read
    obtain ⟨name, repository, _, _, more, unslashed, found, rfl⟩ :=
      exists_words_of_upgradableLine read
    obtain ⟨column, indent, behind, same, columned, versioned, rfl⟩ :=
      Text.words_eq_cons_iff.mp found
    obtain ⟨version, first, behind, rfl, parted, built, rfl⟩ :=
      Text.exists_gap_of_words versioned columned
    obtain ⟨architecture, second, rest, rfl, ended, _, rfl⟩ :=
      Text.exists_gap_of_words built parted
    rw [same]
    exact .line indent name repository version architecture first second rest unslashed ended
  · rintro ⟨indent, name, repository, version, architecture, first, second, rest, unslashed,
      ended⟩
    have read : Text.words (indent.characters ++ ((source name repository).characters ++
        (first.characters ++ (version.characters ++ (second.characters ++
          (architecture.characters ++ rest)))))) =
        (source name repository).characters :: version.characters :: architecture.characters ::
          Text.words rest := by
      rw [Text.words_blanks_append indent.blank, Text.words_word_gap, Text.words_word_gap,
        Text.words_word_append architecture ended]
    exact upgradableLine_of_words unslashed read

end Candidates

section Fields

variable {body field : List Char}

theorem untabbed_iff : (∀ character ∈ field, (character == '\t') = false) ↔ '\t' ∉ field := by
  constructor
  · exact fun untabbed member => absurd (untabbed '\t' member) (by decide)
  · intro absent character member
    rw [beq_eq_false_iff_ne]
    rintro rfl
    exact absent member

theorem fields_eq_cons_cons_iff {second : List Char} {others : List (List Char)} :
    Text.pieces (· == '\t') body = field :: second :: others ↔
      '\t' ∉ field ∧ ∃ rest, body = field ++ '\t' :: rest ∧
        Text.pieces (· == '\t') rest = second :: others := by
  rw [Text.pieces_eq_cons_iff, untabbed_iff]
  simp

theorem exists_fields_eq_cons_iff :
    (∃ others, Text.pieces (· == '\t') body = field :: others) ↔
      '\t' ∉ field ∧ ∃ more, body = field ++ more ∧ ∀ next ∈ more.head?, next = '\t' := by
  simp only [Text.pieces_eq_cons_iff, untabbed_iff]
  constructor
  · rintro ⟨others, untabbed, ⟨rfl, _⟩ | ⟨character, rest, rfl, cuts, _⟩⟩
    · exact ⟨untabbed, [], (List.append_nil _).symm, nofun⟩
    · exact ⟨untabbed, character :: rest, rfl, by simpa using cuts⟩
  · rintro ⟨untabbed, more, rfl, ended⟩
    cases more with
    | nil => exact ⟨[], untabbed, .inl ⟨List.append_nil _, rfl⟩⟩
    | cons character rest =>
        exact ⟨_, untabbed, .inr ⟨character, rest, rfl, by simpa using ended, rfl⟩⟩

theorem installedLine_eq_some_iff {line : List Char} {package : Package} :
    installedLine? line = some package ↔ Records line package := by
  constructor
  · intro read
    unfold installedLine? at read
    split at read
    next name version architecture status others found =>
        obtain ⟨first, _, shape, versioned⟩ := fields_eq_cons_cons_iff.mp found
        obtain ⟨second, _, rfl, built⟩ := fields_eq_cons_cons_iff.mp versioned
        obtain ⟨third, _, rfl, stated⟩ := fields_eq_cons_cons_iff.mp built
        obtain ⟨fourth, more, rfl, ended⟩ := exists_fields_eq_cons_iff.mp ⟨others, stated⟩
        obtain ⟨last, given⟩ := Option.ite_none_right_eq_some.mp read
        cases given
        refine .line name version architecture status more (Text.trim_eq_iff.mp shape) ?_ ended
          (Text.getLast_words_iff.mp last)
        simp [first, second, third, fourth]
    · cases read
  · rintro ⟨name, version, architecture, status, more, trims, untabbed, ended, state⟩
    simp only [List.forall_mem_cons] at untabbed
    obtain ⟨first, second, third, fourth, _⟩ := untabbed
    obtain ⟨others, found⟩ := exists_fields_eq_cons_iff.mpr ⟨fourth, more, rfl, ended⟩
    have fields : Text.pieces (· == '\t') (Text.trim line) =
        name :: version :: architecture :: status :: others := by
      rw [Text.trim_eq_iff.mpr trims]
      exact fields_eq_cons_cons_iff.mpr ⟨first, _, rfl, fields_eq_cons_cons_iff.mpr ⟨second, _, rfl,
        fields_eq_cons_cons_iff.mpr ⟨third, _, rfl, found⟩⟩⟩
    have last : (Text.words status).getLast? = some "installed".toList := state.getLast_words
    simp [installedLine?, fields, last]

end Fields

section Listings

theorem filterMap_eq_iff {read : List Char → Option Package} {lists : List Char → Package → Prop}
    (reads : ∀ line package, read line = some package ↔ lists line package)
    {lines : List (List Char)} {packages : List Package} :
    lines.filterMap read = packages ↔ Listing lists lines packages := by
  constructor
  · rintro rfl
    induction lines with
    | nil => exact .nothing
    | cons line lines ih =>
        cases found : read line with
        | none =>
            rw [List.filterMap_cons_none found]
            refine .passed (fun package listed => ?_) ih
            rw [(reads line package).mpr listed] at found
            cases found
        | some package =>
            rw [List.filterMap_cons_some found]
            exact .listed ((reads line package).mp found) ih
  · intro listing
    induction listing with
    | nothing => rfl
    | listed found _ ih => rw [List.filterMap_cons_some ((reads _ _).mpr found), ih]
    | @passed line _ _ foreign _ ih =>
        have none : read line = none :=
          Option.eq_none_iff_forall_ne_some.mpr fun package found =>
            foreign package ((reads line package).mp found)
        rw [List.filterMap_cons_none none, ih]

/-- The packages of a listing are those that its lines offer or record, in their order, and a
listing behind a complete line is read on its own. -/
theorem listings_read_by_line (output before behind : String) :
    (∀ packages, Manager.apt.upgradable output = packages ↔
      ∃ lines, Text.Parted output.toList lines ∧ Listing Offers lines packages) ∧
    (∀ packages, Manager.apt.installed output = packages ↔
      ∃ lines, Text.Parted output.toList lines ∧ Listing Records lines packages) ∧
    Manager.apt.upgradable (before ++ "\n" ++ behind) =
      Manager.apt.upgradable (before ++ "\n") ++ Manager.apt.upgradable behind ∧
    Manager.apt.installed (before ++ "\n" ++ behind) =
      Manager.apt.installed (before ++ "\n") ++ Manager.apt.installed behind := by
  have lines_eq : Text.lines (before ++ "\n" ++ behind).toList =
      Text.lines (before ++ "\n").toList ++ Text.lines behind.toList := by
    have closed : (before ++ "\n").toList.getLast? = some '\n' := by
      rw [String.toList_append]
      exact List.getLast?_concat
    rw [Text.lines_eq_iff, String.toList_append]
    exact (Text.parted_lines _).append closed (Text.parted_lines _)
  have parting {lists : List Char → Package → Prop} {packages : List Package} :
      (∃ lines, Text.Parted output.toList lines ∧ Listing lists lines packages) ↔
        Listing lists (Text.lines output.toList) packages := by
    simp only [← Text.lines_eq_iff, exists_eq_left']
  refine ⟨fun packages => ?_, fun packages => ?_, ?_, ?_⟩
  · rw [parting]
    exact filterMap_eq_iff fun _ _ => upgradableLine_eq_some_iff
  · rw [parting]
    exact filterMap_eq_iff fun _ _ => installedLine_eq_some_iff
  · simp only [Manager.upgradable, upgradable, lines_eq, List.filterMap_append]
  · simp only [Manager.installed, installed, lines_eq, List.filterMap_append]

end Listings

end FleetPatch.Apt
