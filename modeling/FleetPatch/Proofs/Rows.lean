import FleetPatch.Package.Dnf
import FleetPatch.Proofs.Lines

/-!
# Rows of a dnf listing

A listing may be laid out in many ways: a row stands on one line, or its first column
stands alone and the others follow behind it, blank lines stand anywhere, and other
lines between the rows. Reading gives the packages of the rows whatever the layout is.
-/

namespace FleetPatch.Dnf

set_option autoImplicit false

open Text (Word Blanks Gap)

/-- A first column made of a name and an architecture, the last part without a point. -/
structure Joins (column name architecture : List Char) : Prop where
  named : name ≠ []
  built : architecture ≠ []
  undotted : '.' ∉ architecture
  column_eq : column = name ++ '.' :: architecture

theorem splitColumn_eq_some_iff {column name architecture : List Char} :
    splitColumn? column = some (name, architecture) ↔ Joins column name architecture := by
  unfold splitColumn?
  constructor
  · intro split
    cases cut : Text.cutAtLast? '.' column with
    | none =>
        rw [cut] at split
        cases split
    | some parts =>
        obtain ⟨before, behind⟩ := parts
        obtain ⟨shape, undotted⟩ := Text.cutAtLast_eq_some_iff.mp cut
        rw [cut] at split
        simp only [Option.ite_none_left_eq_some, Bool.or_eq_true, List.isEmpty_iff, not_or,
          Option.some.injEq, Prod.mk.injEq] at split
        obtain ⟨⟨named, built⟩, rfl, rfl⟩ := split
        exact ⟨named, built, undotted, shape⟩
  · rintro ⟨named, built, undotted, rfl⟩
    have cut : Text.cutAtLast? '.' (name ++ '.' :: architecture) = some (name, architecture) :=
      Text.cutAtLast_eq_some_iff.mpr ⟨rfl, undotted⟩
    simp [cut, named, built]

theorem splitColumn_eq_none_iff {column : List Char} :
    splitColumn? column = none ↔ ∀ name architecture, ¬ Joins column name architecture := by
  constructor
  · intro unsplit name architecture joins
    rw [splitColumn_eq_some_iff.mpr joins] at unsplit
    cases unsplit
  · intro foreign
    cases split : splitColumn? column with
    | none => rfl
    | some parts => exact absurd (splitColumn_eq_some_iff.mp split) (foreign parts.1 parts.2)

structure Row where
  name : Word
  architecture : Word
  version : Word
  repository : Word
  undotted : '.' ∉ architecture.characters

namespace Row

def column (row : Row) : Word where
  characters := row.name.characters ++ '.' :: row.architecture.characters
  inhabited := by simp
  visible := by
    simp only [List.mem_append, List.mem_cons]
    rintro character (named | rfl | built)
    · exact row.name.visible character named
    · rfl
    · exact row.architecture.visible character built

theorem column_joins (row : Row) :
    Joins row.column.characters row.name.characters row.architecture.characters :=
  ⟨row.name.inhabited, row.architecture.inhabited, row.undotted, rfl⟩

def package (status : PackageStatus) (row : Row) : Package :=
  ⟨String.ofList row.name.characters, String.ofList row.version.characters,
    String.ofList row.architecture.characters, status⟩

end Row

/-- What a listing is laid out in: rows on one line, rows whose first column stands alone, with
blank lines at most before the other columns, blank lines, and lines that name no package first. -/
inductive Part where
  | whole (row : Row) (indent : Blanks) (first second : Gap) (tail : Blanks)
  | wrapped (row : Row) (indent tail : Blanks) (between : List Blanks) (hanging : Blanks)
      (gap : Gap) (ending : Blanks)
  | blank (line : Blanks)
  | other (line : List Char) (word : Word) (leads : Text.Leads word line)
      (foreign : ∀ name architecture, ¬ Joins word.characters name architecture)

namespace Part

def lines : Part → List (List Char)
  | whole row indent first second tail =>
      [indent.characters ++ (row.column.characters ++ (first.characters ++
        (row.version.characters ++ (second.characters ++
          (row.repository.characters ++ tail.characters)))))]
  | wrapped row indent tail between hanging gap ending =>
      (indent.characters ++ (row.column.characters ++ tail.characters)) ::
        (between.map Blanks.characters ++
          [hanging.characters ++ (row.version.characters ++ (gap.characters ++
            (row.repository.characters ++ ending.characters)))])
  | blank line => [line.characters]
  | other line _ _ _ => [line]

def row? : Part → Option Row
  | whole row _ _ _ _ => some row
  | wrapped row _ _ _ _ _ _ => some row
  | blank _ => none
  | other _ _ _ _ => none

end Part

/-- The packages read from the words of lines behind a first column that stands alone. -/
def packagesFrom (status : PackageStatus) (alone lines : List (List Char)) : List Package :=
  (rowsFrom alone (lines.map Text.words)).filterMap (rowPackage? status)

section Steps

variable {status : PackageStatus} {alone rest : List (List Char)} {line : List Char}

theorem packagesFrom_blank (blank : Text.AllBlank line) :
    packagesFrom status alone (line :: rest) = packagesFrom status alone rest := by
  simp only [packagesFrom, List.map_cons, Text.words_of_blank blank, rowsFrom]

theorem packagesFrom_blanks (between : List Blanks) :
    packagesFrom status alone (between.map Blanks.characters ++ rest) =
      packagesFrom status alone rest := by
  induction between with
  | nil => rfl
  | cons first between ih =>
      rw [List.map_cons, List.cons_append, packagesFrom_blank first.blank, ih]

theorem packagesFrom_complete {word column next : List Char} {words more : List (List Char)}
    (read : Text.words line = word :: words)
    (complete : alone ++ word :: words = column :: next :: more) :
    packagesFrom status alone (line :: rest) =
      (rowPackage? status (column :: next :: more)).toList ++ packagesFrom status [] rest := by
  simp only [packagesFrom, List.map_cons, read, rowsFrom, complete, List.filterMap_cons]
  cases rowPackage? status (column :: next :: more) <;> rfl

theorem packagesFrom_alone {word : List Char} (read : Text.words line = [word]) :
    packagesFrom status [] (line :: rest) =
      packagesFrom status (if (splitColumn? word).isSome then [word] else []) rest := by
  simp only [packagesFrom, List.map_cons, read, rowsFrom, List.nil_append]

end Steps

theorem rowPackage_of_row (status : PackageStatus) (row : Row) (more : List (List Char)) :
    rowPackage? status (row.column.characters :: row.version.characters :: more) =
      some (row.package status) := by
  rw [rowPackage?, splitColumn_eq_some_iff.mpr row.column_joins]
  rfl

theorem rowPackage_of_foreign (status : PackageStatus) {word : List Char}
    (foreign : ∀ name architecture, ¬ Joins word name architecture)
    (more : List (List Char)) : rowPackage? status (word :: more) = none := by
  cases more with
  | nil => rfl
  | cons next more =>
      rw [rowPackage?, splitColumn_eq_none_iff.mpr foreign]
      rfl

/-- A part of a layout is read as its row, if it has one, and nothing is left over from it. -/
theorem packagesFrom_part (status : PackageStatus) (part : Part) (rest : List (List Char)) :
    packagesFrom status [] (part.lines ++ rest) =
      (part.row?.map (Row.package status)).toList ++ packagesFrom status [] rest := by
  cases part with
  | whole row indent first second tail =>
      have read : Text.words (indent.characters ++ (row.column.characters ++ (first.characters ++
          (row.version.characters ++ (second.characters ++
            (row.repository.characters ++ tail.characters)))))) =
          [row.column.characters, row.version.characters, row.repository.characters] := by
        rw [Text.words_blanks_append indent.blank, Text.words_word_gap, Text.words_word_gap,
          Text.words_word_blanks]
      rw [Part.lines, List.singleton_append, packagesFrom_complete read rfl, rowPackage_of_row]
      rfl
  | wrapped row indent tail between hanging gap ending =>
      have first : Text.words (indent.characters ++ (row.column.characters ++ tail.characters)) =
          [row.column.characters] := by
        rw [Text.words_blanks_append indent.blank, Text.words_word_blanks]
      have others : Text.words (hanging.characters ++ (row.version.characters ++
          (gap.characters ++ (row.repository.characters ++ ending.characters)))) =
          [row.version.characters, row.repository.characters] := by
        rw [Text.words_blanks_append hanging.blank, Text.words_word_gap, Text.words_word_blanks]
      rw [Part.lines, List.cons_append, packagesFrom_alone first,
        splitColumn_eq_some_iff.mpr row.column_joins, Option.isSome_some, if_pos rfl,
        List.append_assoc, packagesFrom_blanks, List.singleton_append,
        packagesFrom_complete others rfl, rowPackage_of_row]
      rfl
  | blank line => exact packagesFrom_blank line.blank
  | other line word leads foreign =>
      obtain ⟨more, read⟩ := leads.words_eq
      rw [Part.lines, List.singleton_append]
      cases more with
      | nil =>
          rw [packagesFrom_alone read, splitColumn_eq_none_iff.mpr foreign]
          rfl
      | cons next more =>
          rw [packagesFrom_complete read rfl, rowPackage_of_foreign status foreign]
          rfl

theorem packagesFrom_layout (status : PackageStatus) (layout : List Part) :
    packagesFrom status [] (layout.flatMap Part.lines) =
      (layout.filterMap Part.row?).map (Row.package status) := by
  induction layout with
  | nil => rfl
  | cons part layout ih =>
      rw [List.flatMap_cons, packagesFrom_part, ih, List.filterMap_cons]
      cases part.row? <;> rfl

theorem ofName_name (status : PackageStatus) : PackageStatus.ofName? status.name = some status := by
  cases status <;> rfl

/-- However rows are laid out on the lines of a text, the listing of the text has one package for
each row, in order, with the name, version and architecture of the row and the status asked for. -/
theorem listing_of_layout (status : PackageStatus) (layout : List Part) {output : String}
    (laidOut : Text.Parted output.toList (layout.flatMap Part.lines)) :
    listingAs status.name output =
      .ok ((layout.filterMap Part.row?).map (Row.package status)) := by
  rw [listingAs, ofName_name, ← packagesFrom_layout, ← Text.lines_of_parted laidOut]
  rfl

def bash : Row where
  name := .ofVisible ['b', 'a', 's', 'h'] rfl
  architecture := .ofVisible ['x', '8', '6', '_', '6', '4'] rfl
  version := .ofVisible ['5', '.', '2', '-', '3'] rfl
  repository := .ofVisible ['@', 'd', 'v', 'd'] rfl
  undotted := by decide

def tool : Row where
  name := .ofVisible ['o', 'r', 'g', '.', 't', 'o', 'o', 'l'] rfl
  architecture := .ofVisible ['n', 'o', 'a', 'r', 'c', 'h'] rfl
  version := .ofVisible ['1', '.', '0', '-', '1'] rfl
  repository := .ofVisible ['@', 'l', 'o', 'c', 'a', 'l'] rfl
  undotted := by decide

/-- A title, a row on one line, and a row on two lines with a blank line between them. -/
def mixedLayout : List Part := [
  .other "Installed Packages".toList (.ofVisible "Installed".toList rfl)
    ⟨[], " Packages".toList, nofun, by simp [Text.isBlank], rfl⟩
    (splitColumn_eq_none_iff.mp rfl),
  .whole bash (.spaces 0) (.spaces 2) (.spaces 0) (.spaces 0),
  .wrapped tool (.spaces 0) (.spaces 1) [.spaces 0] (.spaces 4) (.spaces 0) (.spaces 0)]

def mixedOutput : String :=
  "Installed Packages\r\nbash.x86_64   5.2-3 @dvd\norg.tool.noarch \n\n    1.0-1 @local"

/-- A row on two lines is read like a row on one. -/
theorem mixed_listing_read :
    Text.Parted mixedOutput.toList (mixedLayout.flatMap Part.lines) ∧
    listingAs "upgradable" mixedOutput = .ok
      [⟨"bash", "5.2-3", "x86_64", .upgradable⟩, ⟨"org.tool", "1.0-1", "noarch", .upgradable⟩] := by
  have laidOut : Text.Parted mixedOutput.toList (mixedLayout.flatMap Part.lines) :=
    Text.lines_eq_iff.mp (by decide +kernel)
  exact ⟨laidOut, listing_of_layout .upgradable mixedLayout laidOut⟩

end FleetPatch.Dnf
