import FleetPatch.Package.Dnf
import FleetPatch.Proofs.Lines
import Mathlib.Data.List.Forall2

/-!
# The table of upgraded packages

The table of upgraded packages stands between the first line with its header and the
first line behind it that ends a table. Each of its lines reports the name in its first
column, and no other line has a part in the report.
-/

namespace FleetPatch.Dnf

set_option autoImplicit false

open Text (Word Leads Opens Closes)

def Headed (line : List Char) : Prop := Opens "Upgrading:".toList line

/-- A line that ends the table: it is blank, begins with a section word or ends with a colon. -/
inductive Ends (line : List Char) : Prop where
  | blank (blank : Text.AllBlank line)
  | heading (word : String) (known : word ∈ sectionWords) (opens : Opens word.toList line)
  | colon (closes : Closes ':' line)

/-- The name in a first column: what stands before a known architecture, or else the column. -/
inductive Names : List Char → List Char → Prop where
  | parted {name : List Char} {architecture : String} (named : name ≠ [])
      (known : architecture ∈ architectures) : Names (name ++ '.' :: architecture.toList) name
  | whole {column : List Char} (unknown : ∀ name architecture, name ≠ [] →
      architecture ∈ architectures → column ≠ name ++ '.' :: architecture.toList) :
      Names column column

def Reports (line : List Char) (name : String) : Prop :=
  ∃ word, Leads word line ∧ Names word.characters name.toList

/-- The lines of the table: they stand below the first header, and the line behind them, if there is
one, is the first that ends the table. -/
structure Tabled (lines table : List (List Char)) : Prop where
  parted : ∃ before header after, lines = before ++ header :: (table ++ after) ∧
    (∀ line ∈ before, ¬ Headed line) ∧ Headed header ∧ ∀ line ∈ after.head?, Ends line
  open_ : ∀ line ∈ table, ¬ Ends line

/-- The names that lines report: those in their table, or none without a header. -/
inductive Upgrades (lines : List (List Char)) : List String → Prop where
  | none (unheaded : ∀ line ∈ lines, ¬ Headed line) : Upgrades lines []
  | listed {table : List (List Char)} {names : List String} (tabled : Tabled lines table)
      (reported : List.Forall₂ Reports table names) : Upgrades lines names

section Lines

variable {line : List Char}

theorem headed_iff : beginsWith "Upgrading:" (Text.trim line) = true ↔ Headed line :=
  Text.begins_trim_iff (by decide +kernel)

theorem isFramed_of_sectionWord {word : String} (known : word ∈ sectionWords) :
    Text.isFramed word.toList = true := by
  have framed : sectionWords.all (fun word => Text.isFramed word.toList) = true := by
    decide +kernel
  exact List.all_eq_true.mp framed word known

theorem ends_iff : endsTable (Text.trim line) = true ↔ Ends line := by
  have closing : (Text.trim line).getLast? = some ':' ↔ Text.Closes ':' line :=
    Text.getLast_trim_iff rfl
  simp only [endsTable, Bool.or_eq_true, List.isEmpty_iff, Text.trim_eq_nil_iff, List.any_eq_true,
    beq_iff_eq, closing]
  constructor
  · rintro ((blank | ⟨word, known, begins⟩) | closes)
    · exact .blank blank
    · exact .heading word known ((Text.begins_trim_iff (isFramed_of_sectionWord known)).mp begins)
    · exact .colon closes
  · rintro (blank | ⟨word, known, opens⟩ | closes)
    · exact .inl (.inl blank)
    · exact .inl (.inr ⟨word, known,
        (Text.begins_trim_iff (isFramed_of_sectionWord known)).mpr opens⟩)
    · exact .inr closes

instance (line : List Char) : Decidable (Headed line) := decidable_of_iff _ headed_iff

instance (line : List Char) : Decidable (Ends line) := decidable_of_iff _ ends_iff

end Lines

section Names

theorem undotted_of_known {architecture : String} (known : architecture ∈ architectures) :
    '.' ∉ architecture.toList := by
  have undotted : architectures.all (fun known => !known.toList.contains '.') = true := by
    decide +kernel
  have clear := List.all_eq_true.mp undotted architecture known
  simpa using clear

theorem withoutArchitecture_of_known {name : List Char} {architecture : String}
    (named : name ≠ []) (known : architecture ∈ architectures) :
    withoutArchitecture (name ++ '.' :: architecture.toList) = name := by
  have cut : Text.cutAtLast? '.' (name ++ '.' :: architecture.toList) =
      some (name, architecture.toList) :=
    Text.cutAtLast_eq_some_iff.mpr ⟨rfl, undotted_of_known known⟩
  simp [withoutArchitecture, cut, named, known]

theorem withoutArchitecture_of_unknown {column : List Char}
    (unknown : ∀ name architecture, name ≠ [] → architecture ∈ architectures →
      column ≠ name ++ '.' :: architecture.toList) : withoutArchitecture column = column := by
  unfold withoutArchitecture
  cases cut : Text.cutAtLast? '.' column with
  | none => rfl
  | some parts =>
      obtain ⟨name, architecture⟩ := parts
      obtain ⟨shape, _⟩ := Text.cutAtLast_eq_some_iff.mp cut
      refine if_neg fun known => ?_
      simp only [Bool.and_eq_true, Bool.not_eq_true', List.isEmpty_eq_false_iff,
        List.contains_iff_mem] at known
      refine unknown name (String.ofList architecture) known.1 known.2 ?_
      rw [shape, String.toList_ofList]

theorem withoutArchitecture_eq_self_iff {column : List Char} :
    withoutArchitecture column = column ↔ ∀ name architecture, name ≠ [] →
      architecture ∈ architectures → column ≠ name ++ '.' :: architecture.toList := by
  constructor
  · rintro kept name architecture named known rfl
    rw [withoutArchitecture_of_known named known] at kept
    simpa using congrArg List.length kept
  · exact withoutArchitecture_of_unknown

theorem withoutArchitecture_of_names {column name : List Char} (names : Names column name) :
    withoutArchitecture column = name := by
  cases names with
  | parted named known => exact withoutArchitecture_of_known named known
  | whole unknown => exact withoutArchitecture_of_unknown unknown

theorem names_withoutArchitecture (column : List Char) :
    Names column (withoutArchitecture column) := by
  by_cases unknown : ∀ name architecture, name ≠ [] → architecture ∈ architectures →
      column ≠ name ++ '.' :: architecture.toList
  · rw [withoutArchitecture_of_unknown unknown]
    exact .whole unknown
  · simp only [Classical.not_forall, ne_eq, Classical.not_not] at unknown
    obtain ⟨name, architecture, named, known, rfl⟩ := unknown
    rw [withoutArchitecture_of_known named known]
    exact .parted named known

theorem tableName_of_leads {line : List Char} {word : Word} (leads : Leads word line) :
    tableName (Text.trim line) = String.ofList (withoutArchitecture word.characters) := by
  obtain ⟨more, read⟩ := leads.words_eq
  rw [tableName, Text.words_trim, read, List.headD_cons]

theorem tableName_of_reports {line : List Char} {name : String} (reports : Reports line name) :
    tableName (Text.trim line) = name := by
  obtain ⟨word, leads, names⟩ := reports
  rw [tableName_of_leads leads, withoutArchitecture_of_names names, String.ofList_toList]

theorem reports_tableName {line : List Char} (open_ : ¬ Ends line) :
    Reports line (tableName (Text.trim line)) := by
  obtain ⟨word, leads⟩ := Text.exists_leads fun blank => open_ (.blank blank)
  refine ⟨word, leads, ?_⟩
  rw [tableName_of_leads leads, String.toList_ofList]
  exact names_withoutArchitecture word.characters

end Names

section Scan

variable {output : String} {line : List Char} {lines table : List (List Char)}

theorem passes_iff : (!beginsWith "Upgrading:" (Text.trim line)) = true ↔ ¬ Headed line := by
  rw [Bool.not_eq_true', ← headed_iff, Bool.not_eq_true]

theorem stays_iff : (!endsTable (Text.trim line)) = true ↔ ¬ Ends line := by
  rw [Bool.not_eq_true', ← ends_iff, Bool.not_eq_true]

theorem upgradedNames_of_unheaded
    (unheaded : ∀ line ∈ Text.lines output.toList, ¬ Headed line) : upgradedNames output = [] := by
  have passed : ((Text.lines output.toList).map Text.trim).dropWhile
      (fun line => !beginsWith "Upgrading:" line) = [] := by
    rw [List.dropWhile_eq_nil_iff, List.forall_mem_map]
    exact fun line member => passes_iff.mpr (unheaded line member)
  rw [upgradedNames, passed]

theorem upgradedNames_of_tabled (tabled : Tabled (Text.lines output.toList) table) :
    upgradedNames output = table.map fun line => tableName (Text.trim line) := by
  obtain ⟨⟨before, header, after, shape, unheaded, headed, ended⟩, open_⟩ := tabled
  have passed : ((Text.lines output.toList).map Text.trim).dropWhile
      (fun line => !beginsWith "Upgrading:" line) =
      Text.trim header :: (table ++ after).map Text.trim := by
    rw [shape, List.map_append, List.map_cons, List.dropWhile_append_of_pos,
      List.dropWhile_cons_of_neg (by simp [headed_iff.mpr headed])]
    rw [List.forall_mem_map]
    exact fun line member => passes_iff.mpr (unheaded line member)
  have taken : ((table ++ after).map Text.trim).takeWhile (fun line => !endsTable line) =
      table.map Text.trim := by
    have inside : ∀ line ∈ table.map Text.trim, (!endsTable line) = true := by
      rw [List.forall_mem_map]
      exact fun line member => stays_iff.mpr (open_ line member)
    rw [List.map_append]
    refine Text.takeWhile_run inside ?_
    cases after with
    | nil => nofun
    | cons last after =>
        rintro _ ⟨⟩
        simp [ends_iff.mpr (ended last rfl)]
  rw [upgradedNames, passed]
  simp only [taken, List.map_map, Function.comp_def]

/-- Behind the first header, the table goes up to the first line that ends one. -/
theorem exists_tabled (found : ∃ line ∈ lines, Headed line) : ∃ table, Tabled lines table := by
  let begins := fun line => beginsWith "Upgrading:" (Text.trim line)
  have present : (lines.find? begins).isSome = true := by
    obtain ⟨line, member, headed⟩ := found
    exact List.find?_isSome.mpr ⟨line, member, headed_iff.mpr headed⟩
  obtain ⟨header, first⟩ := Option.isSome_iff_exists.mp present
  obtain ⟨headed, before, rest, shape, unheaded⟩ := List.find?_eq_some_iff_append.mp first
  have leading : ∀ line ∈ before, ¬ Headed line :=
    fun line member => passes_iff.mp (unheaded line member)
  cases last : rest.find? fun line => endsTable (Text.trim line) with
  | none =>
      refine ⟨rest, ⟨before, header, [], ?_, leading, headed_iff.mp headed, nofun⟩,
        fun line member => ?_⟩
      · rw [shape, List.append_nil]
      · rw [← ends_iff]
        exact List.find?_eq_none.mp last line member
  | some closing =>
      obtain ⟨ends, table, after, parted, open_⟩ := List.find?_eq_some_iff_append.mp last
      refine ⟨table, ⟨before, header, closing :: after, ?_, leading, headed_iff.mp headed, ?_⟩,
        fun line member => stays_iff.mp (open_ line member)⟩
      · rw [shape, parted]
      · rintro line ⟨⟩
        exact ends_iff.mp ends

theorem map_tableName {names : List String} (reported : List.Forall₂ Reports table names) :
    table.map (fun line => tableName (Text.trim line)) = names := by
  induction reported with
  | nil => rfl
  | cons reports _ ih => rw [List.map_cons, tableName_of_reports reports, ih]

theorem upgrades_upgradedNames (output : String) :
    Upgrades (Text.lines output.toList) (upgradedNames output) := by
  by_cases unheaded : ∀ line ∈ Text.lines output.toList, ¬ Headed line
  · rw [upgradedNames_of_unheaded unheaded]
    exact .none unheaded
  · simp only [Classical.not_forall, Classical.not_not, exists_prop] at unheaded
    obtain ⟨table, tabled⟩ := exists_tabled unheaded
    refine .listed tabled ?_
    rw [upgradedNames_of_tabled tabled, List.forall₂_map_right_iff, List.forall₂_same]
    exact fun line member => reports_tableName (tabled.open_ line member)

theorem upgradedNames_of_upgrades {names : List String}
    (upgrades : Upgrades (Text.lines output.toList) names) : upgradedNames output = names := by
  cases upgrades with
  | none unheaded => exact upgradedNames_of_unheaded unheaded
  | listed tabled reported => rw [upgradedNames_of_tabled tabled, map_tableName reported]

end Scan

/-- The names that an output reports are those of the lines in its table, so two outputs with the
same table report the same names, whatever stands around it. A name loses a known architecture at
its end and nothing else. -/
theorem upgraded_names_tabled {output : String} {lines : List (List Char)}
    (parted : Text.Parted output.toList lines) :
    (∀ names, upgradedNames output = names ↔ Upgrades lines names) ∧
    (∀ table other otherLines, Text.Parted (String.toList other) otherLines →
      Tabled lines table → Tabled otherLines table → upgradedNames other = upgradedNames output) ∧
    (∀ name architecture, name ≠ [] → architecture ∈ architectures →
      withoutArchitecture (name ++ '.' :: architecture.toList) = name) ∧
    ∀ column, (∀ name architecture, name ≠ [] → architecture ∈ architectures →
      column ≠ name ++ '.' :: architecture.toList) → withoutArchitecture column = column := by
  obtain rfl := Text.lines_of_parted parted
  refine ⟨fun names => ⟨?_, upgradedNames_of_upgrades⟩, ?_, fun _ _ => withoutArchitecture_of_known,
    fun _ => withoutArchitecture_of_unknown⟩
  · rintro rfl
    exact upgrades_upgradedNames output
  · rintro table other otherLines partedOther tabled tabledOther
    obtain rfl := Text.lines_of_parted partedOther
    rw [upgradedNames_of_tabled tabled, upgradedNames_of_tabled tabledOther]

/-- A table that a section ends, between lines that would report other names. -/
def surrounded : String := "x 1\r\n Upgrading:\n k.src 1\x0b l.k 2\nSkipping\nUpgrading:\nm 1"

/-- The same table, ended by the end of the text. -/
def unsurrounded : String := "Upgrading: 2\n k.src 1\r l.k 2"

def sharedTable : List (List Char) := [" k.src 1".toList, " l.k 2".toList]

theorem surrounded_table_reported :
    ∃ lines otherLines, Text.Parted surrounded.toList lines ∧
      Text.Parted unsurrounded.toList otherLines ∧
      Tabled lines sharedTable ∧ Tabled otherLines sharedTable ∧
      Upgrades lines ["k", "l.k"] ∧ upgradedNames unsurrounded = upgradedNames surrounded := by
  have parted : Text.Parted surrounded.toList (["x 1".toList] ++ " Upgrading:".toList ::
      (sharedTable ++ ["Skipping".toList, "Upgrading:".toList, "m 1".toList])) := by
    rw [← Text.lines_eq_iff]
    simp only [surrounded, sharedTable, String.reduceToList]
    decide +kernel
  have partedOther : Text.Parted unsurrounded.toList
      ([] ++ "Upgrading: 2".toList :: (sharedTable ++ [])) := by
    rw [← Text.lines_eq_iff]
    simp only [unsurrounded, sharedTable, String.reduceToList]
    decide +kernel
  have open_ : ∀ line ∈ sharedTable, ¬ Ends line := by decide +kernel
  have tabled : Tabled (["x 1".toList] ++ " Upgrading:".toList ::
      (sharedTable ++ ["Skipping".toList, "Upgrading:".toList, "m 1".toList])) sharedTable :=
    ⟨⟨_, _, _, rfl, by decide +kernel, by decide +kernel, by decide +kernel⟩, open_⟩
  have tabledOther : Tabled ([] ++ "Upgrading: 2".toList :: (sharedTable ++ [])) sharedTable :=
    ⟨⟨_, _, _, rfl, by decide +kernel, by decide +kernel, by decide +kernel⟩, open_⟩
  obtain ⟨reported, same, _⟩ := upgraded_names_tabled parted
  have read : upgradedNames surrounded = ["k", "l.k"] := by
    rw [upgradedNames, Text.lines_of_parted parted]
    decide +kernel
  exact ⟨_, _, parted, partedOther, tabled, tabledOther, (reported _).mp read,
    same _ _ _ partedOther tabled tabledOther⟩

end FleetPatch.Dnf
