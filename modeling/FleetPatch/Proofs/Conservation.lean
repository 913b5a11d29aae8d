import FleetPatch.Proofs.Rows

/-!
# Lines conserved by the rows of a listing

The lines that hold words fall into groups, one behind the other: a line that is a row, a first
column alone on its line with the line that completes it, or a single word that is no first column.
Only behind the last group a first column may be left that nothing completes. The rows are those of
the groups in order, so no word is repeated or moved, and none is lost but single ones.
-/

namespace FleetPatch.Dnf

set_option autoImplicit false

def Splits (column : List Char) : Prop :=
  ∃ name architecture, Joins column name architecture

theorem splitColumn_isSome_iff {column : List Char} :
    (splitColumn? column).isSome = true ↔ Splits column := by
  rw [Option.isSome_iff_exists]
  constructor
  · rintro ⟨⟨name, architecture⟩, split⟩
    exact ⟨name, architecture, splitColumn_eq_some_iff.mp split⟩
  · rintro ⟨name, architecture, joins⟩
    exact ⟨(name, architecture), splitColumn_eq_some_iff.mpr joins⟩

/-- What becomes of one line or of two lines, given by their words. -/
inductive Group where
  | whole (row : List (List Char)) (long : 2 ≤ row.length)
  | joined (column : List Char) (line : List (List Char)) (splits : Splits column)
      (inhabited : line ≠ [])
  | stray (word : List Char) (foreign : ¬ Splits word)

namespace Group

def lines : Group → List (List (List Char))
  | whole row _ => [row]
  | joined column line _ _ => [[column], line]
  | stray word _ => [[word]]

def row? : Group → Option (List (List Char))
  | whole row _ => some row
  | joined column line _ _ => some (column :: line)
  | stray _ _ => none

theorem long_of_row {group : Group} {row : List (List Char)} (given : group.row? = some row) :
    2 ≤ row.length := by
  cases group with
  | whole row long =>
      cases given
      exact long
  | joined column line splits inhabited =>
      cases given
      have counted := List.length_pos_of_ne_nil inhabited
      simp only [List.length_cons]
      omega
  | stray word foreign => cases given

theorem row_sublist (group : Group) :
    group.row?.toList.flatten.Sublist group.lines.flatten := by
  cases group with
  | whole row long => exact List.Sublist.refl _
  | joined column line splits inhabited =>
      simp only [row?, lines, Option.toList_some, List.flatten_cons, List.flatten_nil,
        List.append_nil, List.singleton_append]
      exact List.Sublist.refl _
  | stray word foreign => exact List.nil_sublist _

end Group

inductive Waiting : List (List Char) → Prop where
  | nothing : Waiting []
  | column {column : List Char} (splits : Splits column) : Waiting [column]

/-- Lines and rows that have the same groups, but for a first column left at the end. -/
def Regrouped (lines rows : List (List (List Char))) : Prop :=
  ∃ (groups : List Group) (left : List (List Char)), Waiting left ∧
    lines = groups.flatMap Group.lines ++ left.map (fun column => [column]) ∧
    rows = groups.filterMap Group.row?

section Groups

theorem exists_of_long {α : Type} {row : List α} (long : 2 ≤ row.length) :
    ∃ first second more, row = first :: second :: more := by
  obtain ⟨first, rest, rfl⟩ := List.exists_cons_of_length_pos (by omega : 0 < row.length)
  rw [List.length_cons] at long
  obtain ⟨second, more, rfl⟩ := List.exists_cons_of_length_pos (by omega : 0 < rest.length)
  exact ⟨first, second, more, rfl⟩

variable {rest : List (List (List Char))}

theorem rowsFrom_group (group : Group) :
    rowsFrom [] (group.lines ++ rest) = group.row?.toList ++ rowsFrom [] rest := by
  cases group with
  | whole row long =>
      obtain ⟨first, second, more, rfl⟩ := exists_of_long long
      rfl
  | joined column line splits inhabited =>
      obtain ⟨first, more, rfl⟩ := List.exists_cons_of_ne_nil inhabited
      have known := splitColumn_isSome_iff.mpr splits
      simp [Group.lines, Group.row?, rowsFrom, known]
  | stray word foreign =>
      have unknown := mt splitColumn_isSome_iff.mp foreign
      simp [Group.lines, Group.row?, rowsFrom, unknown]

theorem rowsFrom_waiting {left : List (List Char)} (waiting : Waiting left) :
    rowsFrom [] (left.map fun column => [column]) = [] := by
  cases waiting with
  | nothing => rfl
  | column splits => simp [rowsFrom]

theorem rowsFrom_groups (groups : List Group) {left : List (List Char)} (waiting : Waiting left) :
    rowsFrom [] (groups.flatMap Group.lines ++ left.map (fun column => [column])) =
      groups.filterMap Group.row? := by
  induction groups with
  | nil => exact rowsFrom_waiting waiting
  | cons group groups ih =>
      rw [List.flatMap_cons, List.append_assoc, rowsFrom_group, ih, List.filterMap_cons]
      cases group.row? <;> rfl

end Groups

/-- The invariant of the loop over the lines: with the column that is waiting in front, the lines
still to come are grouped. -/
theorem exists_groups (lines : List (List (List Char))) (inhabited : ∀ line ∈ lines, line ≠ []) :
    ∀ alone, Waiting alone → ∃ (groups : List Group) (left : List (List Char)), Waiting left ∧
      alone.map (fun column => [column]) ++ lines =
        groups.flatMap Group.lines ++ left.map (fun column => [column]) := by
  induction lines with
  | nil =>
      intro alone waiting
      exact ⟨[], alone, waiting, List.append_nil _⟩
  | cons line rest ih =>
      obtain ⟨given, inhabited⟩ := List.forall_mem_cons.mp inhabited
      have next := ih inhabited
      intro alone waiting
      cases waiting with
      | column splits =>
          obtain ⟨groups, left, leaves, parted⟩ := next [] .nothing
          refine ⟨.joined _ line splits given :: groups, left, leaves, ?_⟩
          rw [List.flatMap_cons, List.append_assoc, ← parted]
          rfl
      | nothing =>
          obtain ⟨groups, left, leaves, parted⟩ := next [] .nothing
          by_cases long : 2 ≤ line.length
          · refine ⟨.whole line long :: groups, left, leaves, ?_⟩
            rw [List.flatMap_cons, List.append_assoc, ← parted]
            rfl
          · have counted := List.length_pos_of_ne_nil given
            obtain ⟨word, rfl⟩ := List.length_eq_one_iff.mp (by omega : line.length = 1)
            by_cases splits : Splits word
            · exact next [word] (.column splits)
            · refine ⟨.stray word splits :: groups, left, leaves, ?_⟩
              rw [List.flatMap_cons, List.append_assoc, ← parted]
              rfl

section Regrouping

variable {lines found : List (List (List Char))}

theorem rowsFrom_eq_iff (inhabited : ∀ line ∈ lines, line ≠ []) :
    rowsFrom [] lines = found ↔ Regrouped lines found := by
  constructor
  · rintro rfl
    obtain ⟨groups, left, waiting, parted⟩ := exists_groups lines inhabited [] .nothing
    rw [List.map_nil, List.nil_append] at parted
    refine ⟨groups, left, waiting, parted, ?_⟩
    rw [parted, rowsFrom_groups groups waiting]
  · rintro ⟨groups, left, waiting, rfl, rfl⟩
    exact rowsFrom_groups groups waiting

theorem regrouped_rowsFrom (inhabited : ∀ line ∈ lines, line ≠ []) :
    Regrouped lines (rowsFrom [] lines) :=
  (rowsFrom_eq_iff inhabited).mp rfl

theorem Regrouped.long (regrouped : Regrouped lines found) : ∀ row ∈ found, 2 ≤ row.length := by
  obtain ⟨groups, left, waiting, -, rfl⟩ := regrouped
  intro row member
  obtain ⟨group, -, given⟩ := List.mem_filterMap.mp member
  exact group.long_of_row given

/-- The words of the rows are words of the lines, each at most once and in their order. -/
theorem Regrouped.sublist (regrouped : Regrouped lines found) :
    found.flatten.Sublist lines.flatten := by
  obtain ⟨groups, left, waiting, rfl, rfl⟩ := regrouped
  rw [List.flatten_append]
  refine List.Sublist.trans ?_ (List.sublist_append_left _ _)
  induction groups with
  | nil => exact List.Sublist.refl _
  | cons group groups ih =>
      rw [List.flatMap_cons, List.flatten_append, List.filterMap_cons]
      have first := group.row_sublist
      cases given : group.row? with
      | none => exact ih.trans (List.sublist_append_right _ _)
      | some row =>
          rw [given, Option.toList_some, List.flatten_singleton] at first
          rw [List.flatten_cons]
          exact first.append ih

/-- What the rows of some lines make of one of the lines. -/
inductive Fate (found before : List (List (List Char))) (line : List (List Char))
    (behind : List (List (List Char))) : Prop where
  | whole {earlier later : List (List (List Char))} (long : 2 ≤ line.length)
      (first : Regrouped before earlier) (last : Regrouped behind later)
      (rows_eq : found = earlier ++ line :: later)
  | completes {front earlier later : List (List (List Char))} {column : List Char}
      (splits : Splits column) (waited : before = front ++ [[column]])
      (first : Regrouped front earlier) (last : Regrouped behind later)
      (rows_eq : found = earlier ++ (column :: line) :: later)
  | begins {next : List (List Char)} {more earlier later : List (List (List Char))}
      {column : List Char} (alone : line = [column]) (splits : Splits column)
      (completed : behind = next :: more) (first : Regrouped before earlier)
      (last : Regrouped more later) (rows_eq : found = earlier ++ (column :: next) :: later)
  | passed {earlier later : List (List (List Char))} {word : List Char} (alone : line = [word])
      (foreign : ¬ Splits word) (first : Regrouped before earlier) (last : Regrouped behind later)
      (rows_eq : found = earlier ++ later)
  | left {column : List Char} (alone : line = [column]) (splits : Splits column)
      (ended : behind = []) (first : Regrouped before found)

/-- The rows are those before a group, its own, and those behind it. -/
theorem rowsFrom_around {behind : List (List (List Char))} (groups : List Group) (group : Group)
    (inhabited : ∀ line ∈ behind, line ≠ []) :
    rowsFrom [] (groups.flatMap Group.lines ++ (group.lines ++ behind)) =
      groups.filterMap Group.row? ++ (group.row?.toList ++ rowsFrom [] behind) := by
  obtain ⟨others, left, waiting, parted, given⟩ := regrouped_rowsFrom inhabited
  have grouped : groups.flatMap Group.lines ++ (group.lines ++ behind) =
      (groups ++ group :: others).flatMap Group.lines ++ left.map (fun column => [column]) := by
    rw [parted, List.flatMap_append, List.flatMap_cons]
    simp only [List.append_assoc]
  rw [grouped, rowsFrom_groups _ waiting, List.filterMap_append, List.filterMap_cons, given]
  cases group.row? <;> rfl

theorem regrouped_groups (groups : List Group) :
    Regrouped (groups.flatMap Group.lines) (groups.filterMap Group.row?) :=
  ⟨groups, [], .nothing, by simp, rfl⟩

/-- A line behind groups of lines is a row, begins one, or holds a single word that is in none. -/
theorem fate_of_next (groups : List Group) {line : List (List Char)}
    {behind : List (List (List Char))} (given : line ≠ [])
    (inhabited : ∀ other ∈ behind, other ≠ []) :
    Fate (rowsFrom [] (groups.flatMap Group.lines ++ line :: behind))
      (groups.flatMap Group.lines) line behind := by
  have first := regrouped_groups groups
  have last := regrouped_rowsFrom inhabited
  by_cases long : 2 ≤ line.length
  · exact .whole long first last (rowsFrom_around groups (.whole line long) inhabited)
  · have counted := List.length_pos_of_ne_nil given
    obtain ⟨word, rfl⟩ := List.length_eq_one_iff.mp (by omega : line.length = 1)
    by_cases splits : Splits word
    · cases behind with
      | nil =>
          apply Fate.left rfl splits rfl
          have ended : rowsFrom [] (groups.flatMap Group.lines ++ [[word]]) = _ :=
            rowsFrom_groups groups (.column splits)
          rw [ended]
          exact first
      | cons next more =>
          obtain ⟨completing, others⟩ := List.forall_mem_cons.mp inhabited
          exact .begins rfl splits rfl first (regrouped_rowsFrom others)
            (rowsFrom_around groups (.joined word next splits completing) others)
    · exact .passed rfl splits first last (rowsFrom_around groups (.stray word splits) inhabited)

theorem fate_of_line {before behind : List (List (List Char))} {line : List (List Char)}
    (inhabited : ∀ other ∈ before ++ line :: behind, other ≠ []) :
    Fate (rowsFrom [] (before ++ line :: behind)) before line behind := by
  obtain ⟨front, others⟩ := List.forall_mem_append.mp inhabited
  obtain ⟨given, others⟩ := List.forall_mem_cons.mp others
  obtain ⟨groups, left, waiting, parted⟩ := exists_groups before front [] .nothing
  rw [List.map_nil, List.nil_append] at parted
  cases waiting with
  | nothing =>
      rw [List.map_nil, List.append_nil] at parted
      rw [parted]
      exact fate_of_next groups given others
  | @column column splits =>
      apply Fate.completes splits parted (regrouped_groups groups) (regrouped_rowsFrom others)
      have joined := rowsFrom_around groups (.joined column line splits given) others
      rw [parted, List.append_assoc]
      exact joined

end Regrouping

section Texts

def wordLines (output : String) : List (List (List Char)) :=
  ((Text.lines output.toList).filter fun line => !line.all Text.isBlank).map Text.words

theorem all_blank_iff {line : List Char} : line.all Text.isBlank = true ↔ Text.AllBlank line :=
  List.all_eq_true

theorem wordLines_inhabited (output : String) : ∀ line ∈ wordLines output, line ≠ [] := by
  intro line member
  obtain ⟨source, kept, rfl⟩ := List.mem_map.mp member
  obtain ⟨-, visible⟩ := List.mem_filter.mp kept
  rw [Bool.not_eq_true', ← Bool.not_eq_true, all_blank_iff] at visible
  exact mt Text.words_eq_nil_iff.mp visible

/-- Blank lines make no difference to what is waiting. -/
theorem rowsFrom_words (lines : List (List Char)) : ∀ alone,
    rowsFrom alone (lines.map Text.words) =
      rowsFrom alone ((lines.filter fun line => !line.all Text.isBlank).map Text.words) := by
  induction lines with
  | nil =>
      intro alone
      rfl
  | cons line lines ih =>
      intro alone
      by_cases blank : line.all Text.isBlank = true
      · rw [List.filter_cons_of_neg (by simp [blank]), List.map_cons,
          Text.words_of_blank (all_blank_iff.mp blank), rowsFrom, ih]
      · rw [List.filter_cons_of_pos (by simpa using blank), List.map_cons, List.map_cons]
        obtain ⟨word, words, read⟩ := List.exists_cons_of_ne_nil
          (mt (fun none => all_blank_iff.mpr (Text.words_eq_nil_iff.mp none)) blank)
        simp only [read, rowsFrom]
        split
        · exact ih _
        · rw [ih]

theorem rows_eq (output : String) : rows output = rowsFrom [] (wordLines output) :=
  rowsFrom_words _ []

end Texts

/-- The rows of a text are exactly those of the groups of its lines that are not blank. Each has two
words or more, no word is repeated or moved, and of every line it is known what became of it: it is
a row, it completes the row of the column before it, it begins a row with the line behind it, or it
is a single word in no row, which does not split or stands on the last line. -/
theorem lines_conserved (output : String) :
    (∀ found, rows output = found ↔ Regrouped (wordLines output) found) ∧
    (∀ row ∈ rows output, 2 ≤ row.length) ∧
    (rows output).flatten.Sublist (wordLines output).flatten ∧
    ∀ before line behind, wordLines output = before ++ line :: behind →
      Fate (rows output) before line behind := by
  have inhabited := wordLines_inhabited output
  have regrouped := regrouped_rowsFrom inhabited
  rw [rows_eq]
  refine ⟨fun found => rowsFrom_eq_iff inhabited, regrouped.long, regrouped.sublist, ?_⟩
  intro before line behind parted
  rw [parted] at inhabited ⊢
  exact fate_of_line inhabited

/-- A column waits behind a blank line, and the line behind it completes its row. -/
theorem wrapped_line_completed : Fate (rows "a.b

 c.d
stray
g.h") [["a.b".toList]] ["c.d".toList] [["stray".toList], ["g.h".toList]] :=
  (lines_conserved _).2.2.2 _ _ _ (by decide +kernel)

/-- A second column is no new row, a single word is passed, and the last column is left. -/
example : rows "a.b

 c.d
stray
 e f 
g.h" =
    [["a.b".toList, "c.d".toList], ["e".toList, "f".toList]] := by decide +kernel

end FleetPatch.Dnf
