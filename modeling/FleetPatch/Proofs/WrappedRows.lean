import FleetPatch.Package.Manager
import FleetPatch.Proofs.Tables

/-!
# Rows of the table of upgraded packages

A row of the table stands on one line, or its name stands alone and its other columns
follow on the next. On one line it is reported by its name. On two lines it is reported
twice, the second time by its architecture, so the report is that of the rows exactly
if no row is on two lines.
-/

namespace FleetPatch.Dnf

set_option autoImplicit false

open Text (Word Blanks Gap)

/-- A row of the table by its columns. A size may have more than one word. -/
structure Entry where
  name : Word
  architecture : Word
  version : Word
  repository : Word
  size : List Char

def Entry.others (entry : Entry) (second third fourth : Gap) : List Char :=
  entry.architecture.characters ++ (second.characters ++ (entry.version.characters ++
    (third.characters ++ (entry.repository.characters ++ (fourth.characters ++ entry.size)))))

/-- A row as it stands in the table, on one line or with its name alone on the line before. -/
inductive Placed where
  | whole (entry : Entry) (indent first second third fourth : Gap)
  | wrapped (entry : Entry) (indent : Gap) (tail : Blanks) (hanging second third fourth : Gap)

namespace Placed

def entry : Placed → Entry
  | whole entry _ _ _ _ _ => entry
  | wrapped entry _ _ _ _ _ _ => entry

def isWrapped : Placed → Bool
  | whole _ _ _ _ _ _ => false
  | wrapped _ _ _ _ _ _ _ => true

def lines : Placed → List (List Char)
  | whole entry indent first second third fourth =>
      [indent.characters ++ (entry.name.characters ++
        (first.characters ++ entry.others second third fourth))]
  | wrapped entry indent tail hanging second third fourth =>
      [indent.characters ++ (entry.name.characters ++ tail.characters),
        hanging.characters ++ entry.others second third fourth]

def name (row : Placed) : String := String.ofList row.entry.name.characters

def reported (row : Placed) : List String :=
  if row.isWrapped then
    [row.name, String.ofList (withoutArchitecture row.entry.architecture.characters)]
  else [row.name]

/-- No line of the row ends the table, and its name does not end in a known architecture. -/
structure Plain (row : Placed) : Prop where
  open_ : ∀ line ∈ row.lines, ¬ Ends line
  unsuffixed : ∀ stem architecture, stem ≠ [] → architecture ∈ architectures →
    row.entry.name.characters ≠ stem ++ '.' :: architecture.toList

theorem plain_iff {row : Placed} :
    row.Plain ↔ (∀ line ∈ row.lines, ¬ Ends line) ∧
      withoutArchitecture row.entry.name.characters = row.entry.name.characters :=
  ⟨fun plain => ⟨plain.open_, withoutArchitecture_eq_self_iff.mpr plain.unsuffixed⟩,
    fun parts => ⟨parts.1, withoutArchitecture_eq_self_iff.mp parts.2⟩⟩

instance (row : Placed) : Decidable row.Plain := decidable_of_iff _ plain_iff.symm

theorem lines_reported (row : Placed) (plain : row.Plain) :
    row.lines.map (fun line => tableName (Text.trim line)) = row.reported := by
  cases row with
  | whole entry indent first second third fourth =>
      have whole : withoutArchitecture entry.name.characters = entry.name.characters :=
        withoutArchitecture_of_unknown plain.unsuffixed
      have leads := Text.leads_of_gap entry.name indent.blank first
        (entry.others second third fourth)
      rw [lines, List.map_singleton, tableName_of_leads leads, whole]
      rfl
  | wrapped entry indent tail hanging second third fourth =>
      have whole : withoutArchitecture entry.name.characters = entry.name.characters :=
        withoutArchitecture_of_unknown plain.unsuffixed
      have leads := Text.leads_of_blanks entry.name indent.blank tail
      have others : Text.Leads entry.architecture
          (hanging.characters ++ entry.others second third fourth) :=
        Text.leads_of_gap entry.architecture hanging.blank second _
      rw [lines, List.map_cons, List.map_singleton, tableName_of_leads leads,
        tableName_of_leads others, whole]
      rfl

end Placed

theorem upgradeResult_dnf (reply : Reply) :
    Manager.dnf.upgradeResult reply =
      .ok ⟨reply.succeeded, (upgradedNames (reply.stdout.getD "")).length,
        upgradedNames (reply.stdout.getD ""), reply.stdout.getD "", reply.stderr.getD ""⟩ := rfl

section Table

variable {table : List Placed}

theorem table_reported (plain : ∀ row ∈ table, row.Plain) :
    (table.flatMap Placed.lines).map (fun line => tableName (Text.trim line)) =
      table.flatMap Placed.reported := by
  induction table with
  | nil => rfl
  | cons row table ih =>
      obtain ⟨first, others⟩ := List.forall_mem_cons.mp plain
      rw [List.flatMap_cons, List.map_append, row.lines_reported first, ih others,
        List.flatMap_cons]

theorem length_reported (table : List Placed) :
    (table.flatMap Placed.reported).length =
      table.length + (table.filter Placed.isWrapped).length := by
  induction table with
  | nil => rfl
  | cons row table ih =>
      rw [List.flatMap_cons, List.length_append, ih, List.length_cons]
      cases wrapped : row.isWrapped with
      | true =>
          rw [List.filter_cons_of_pos wrapped, Placed.reported, if_pos wrapped]
          simp only [List.length_cons, List.length_nil]
          omega
      | false =>
          rw [List.filter_cons_of_neg (by simp [wrapped]), Placed.reported,
            if_neg (by simp [wrapped])]
          simp only [List.length_cons, List.length_nil]
          omega

theorem reported_of_unwrapped (unwrapped : ∀ row ∈ table, row.isWrapped = false) :
    table.flatMap Placed.reported = table.map Placed.name := by
  induction table with
  | nil => rfl
  | cons row table ih =>
      obtain ⟨first, others⟩ := List.forall_mem_cons.mp unwrapped
      rw [List.flatMap_cons, ih others, Placed.reported, if_neg (by simp [first]), List.map_cons,
        List.singleton_append]

theorem count_eq_iff :
    (table.flatMap Placed.reported).length = table.length ↔
      ∀ row ∈ table, row.isWrapped = false := by
  rw [length_reported]
  simp [List.filter_eq_nil_iff]

/-- An output whose table has the rows is reported by one name for each row on one line and two for
each row on two lines. The names are those of the rows, and so is their number, exactly if no row is
on two lines. -/
theorem rows_reported_iff {reply : Reply} {before after : List (List Char)} {header : List Char}
    (parted : Text.Parted (reply.stdout.getD "").toList
      (before ++ header :: (table.flatMap Placed.lines ++ after)))
    (unheaded : ∀ line ∈ before, ¬ Headed line) (headed : Headed header)
    (plain : ∀ row ∈ table, row.Plain) (ended : ∀ line ∈ after.head?, Ends line) :
    ∃ result, Manager.dnf.upgradeResult reply = .ok result ∧
      result.names = table.flatMap Placed.reported ∧
      result.count = table.length + (table.filter Placed.isWrapped).length ∧
      ((result.names = table.map Placed.name ∧ result.count = table.length) ↔
        ∀ row ∈ table, row.isWrapped = false) := by
  have open_ : ∀ line ∈ table.flatMap Placed.lines, ¬ Ends line := by
    simp only [List.mem_flatMap]
    rintro line ⟨row, member, within⟩
    exact (plain row member).open_ line within
  have tabled : Tabled (Text.lines (reply.stdout.getD "").toList)
      (table.flatMap Placed.lines) := by
    rw [Text.lines_of_parted parted]
    exact ⟨⟨before, header, after, rfl, unheaded, headed, ended⟩, open_⟩
  have names : upgradedNames (reply.stdout.getD "") = table.flatMap Placed.reported := by
    rw [upgradedNames_of_tabled tabled, table_reported plain]
  rw [upgradeResult_dnf, names]
  refine ⟨_, rfl, rfl, length_reported table, ?_⟩
  · rw [← count_eq_iff]
    constructor
    · exact And.right
    · exact fun counted => ⟨reported_of_unwrapped (count_eq_iff.mp counted), counted⟩

end Table

def kernel : Entry where
  name := .ofVisible ['k', 'e', 'r', 'n', 'e', 'l'] rfl
  architecture := .ofVisible ['s', 'r', 'c'] rfl
  version := .ofVisible ['6', '.', '1'] rfl
  repository := .ofVisible ['u'] rfl
  size := ['1', ' ', 'k']

def wideName : Entry where
  name := .ofVisible ['w', 'i', 'd', 'e', '.', 'x'] rfl
  architecture := .ofVisible ['i', '6', '8', '6'] rfl
  version := .ofVisible ['1', '.', '0'] rfl
  repository := .ofVisible ['u'] rfl
  size := ['2', ' ', 'M']

def wideTable : List Placed := [
  .whole kernel (.spaces 0) (.spaces 0) (.spaces 0) (.spaces 0) (.spaces 0),
  .wrapped wideName (.spaces 0) (.spaces 0) (.spaces 2) (.spaces 0) (.spaces 0) (.spaces 0)]

def wideReply : Reply where
  stdout := some "Upgrading:\n kernel src 6.1 u 1 k\n wide.x\n   i686 1.0 u 2 M\n\nDone.\n"
  stderr := none
  exitCode := some 0

theorem wideReply_parted : Text.Parted (wideReply.stdout.getD "").toList
    ([] ++ "Upgrading:".toList :: (wideTable.flatMap Placed.lines ++ [[], "Done.".toList])) := by
  rw [← Text.lines_eq_iff]
  simp only [wideReply, Option.getD_some, String.reduceToList]
  decide +kernel

theorem wideTable_plain : ∀ row ∈ wideTable, row.Plain := by decide +kernel

/-- The architecture of a row on two lines is reported as a package of its own. -/
theorem wide_table_reported :
    (∀ row ∈ wideTable, row.Plain) ∧ ∃ result, Manager.dnf.upgradeResult wideReply = .ok result ∧
      result.names = ["kernel", "wide.x", "i686"] ∧ result.count = 3 := by
  obtain ⟨result, read, names, count, _⟩ := rows_reported_iff wideReply_parted nofun
    (by decide +kernel) wideTable_plain (by decide +kernel)
  exact ⟨wideTable_plain, result, read, names, count⟩

/-- Rows are not always reported by their names alone. -/
theorem wrapped_row_reported_twice :
    ¬ ∀ (reply : Reply) (before after : List (List Char)) (header : List Char)
      (table : List Placed),
      Text.Parted (reply.stdout.getD "").toList
        (before ++ header :: (table.flatMap Placed.lines ++ after)) →
      (∀ line ∈ before, ¬ Headed line) → Headed header → (∀ row ∈ table, row.Plain) →
      (∀ line ∈ after.head?, Ends line) →
      ∃ result, Manager.dnf.upgradeResult reply = .ok result ∧
        result.names = table.map Placed.name ∧ result.count = table.length := by
  intro claim
  obtain ⟨result, read, _, count⟩ := claim wideReply _ _ _ wideTable wideReply_parted nofun
    (by decide +kernel) wideTable_plain (by decide +kernel)
  have counted : (upgradedNames (wideReply.stdout.getD "")).length = 3 := by
    rw [upgradedNames, Text.lines_of_parted wideReply_parted]
    decide +kernel
  rw [upgradeResult_dnf] at read
  cases read
  exact absurd (counted.symm.trans count) (by decide)

end FleetPatch.Dnf
