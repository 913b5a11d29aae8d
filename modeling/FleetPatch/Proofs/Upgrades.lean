import FleetPatch.Proofs.Changes
import FleetPatch.Proofs.Selections
import FleetPatch.Proofs.ShellTokens

/-!
# What an upgrade says to the shell

The command that upgrades packages by name is read by a shell as the words of the
package manager, then one word for each name, and then a redirection. Whatever a
name holds, it is that word and nothing else.
-/

namespace FleetPatch

set_option autoImplicit false

namespace Manager

def upgradeWords : Manager → List String
  | .apt => ["sudo", "DEBIAN_FRONTEND=noninteractive", "apt-get", "install", "-y", "--only-upgrade"]
  | .dnf => ["dnf", "upgrade", "-y"]

end Manager

namespace Shell

/-- Sends the second stream to where the first one goes. -/
def mergedStreams : List Token := [.number ['2'], .operator ['>', '&'], .word ['1']]

def upgradeTokens (manager : Manager) (names : List String) : List Token :=
  (manager.upgradeWords ++ names).map .ofText ++ mergedStreams

theorem upgradeLead_words (manager : Manager) :
    manager.upgradeLead.toList =
      manager.upgradeWords.flatMap fun text => (Text.shellWord text).toList ++ [' '] := by
  cases manager <;> decide +kernel

/-- Joining words with blanks and going on with a blank puts a blank behind each of them. -/
theorem intercalate_blank (words : List String) (inhabited : words ≠ []) (behind : String) :
    (" ".intercalate words ++ (" " ++ behind)).toList =
      (words.flatMap fun word => word.toList ++ [' ']) ++ behind.toList := by
  induction words with
  | nil => exact absurd rfl inhabited
  | cons word rest ih =>
      cases rest with
      | nil => simp
      | cons next others =>
          have joined := ih (List.cons_ne_nil _ _)
          rw [String.intercalate_cons_cons, List.flatMap_cons, List.append_assoc, ← joined]
          simp

theorem upgradeCommand_words (manager : Manager) {names : List String} (inhabited : names ≠ []) :
    (manager.upgradeCommand names).toList =
      ((manager.upgradeWords ++ names).flatMap fun text => (Text.shellWord text).toList ++ [' ']) ++
        "2>&1".toList := by
  have joined := intercalate_blank (names.map Text.shellWord)
    (fun none => inhabited (List.map_eq_nil_iff.mp none)) "2>&1"
  rw [List.flatMap_map] at joined
  rw [Manager.upgradeCommand, String.append_assoc, String.toList_append, upgradeLead_words,
    List.flatMap_append, List.append_assoc, ← joined]
  rfl

theorem run_mergedStreams (ended : List Token) :
    Reading.run ⟨ended, .nothing, .bare⟩ "2>&1".toList =
      ⟨ended ++ [.number ['2'], .operator ['>', '&']], .word [.plain '1'], .bare⟩ := by
  change Reading.run ⟨ended, .nothing, .bare⟩ ['2', '>', '&', '1'] = _
  simp [Reading.run, Reading.step, Reading.bareStep, roleOf, Reading.write, Reading.operate,
    Reading.delimit, Pending.tokens, Mark.isNumeral, Mark.character, Text.isPlainDigit, operators]

/-- The shell reads the words of the package manager, each name as one word, and the redirection. -/
theorem tokens_upgradeCommand (manager : Manager) {names : List String} (inhabited : names ≠ []) :
    tokens? (manager.upgradeCommand names) = some (upgradeTokens manager names) := by
  rw [tokens?, upgradeCommand_words manager inhabited, Reading.run_append, Reading.start,
    Reading.run_shellWords, run_mergedStreams]
  simp [Reading.delimit, Pending.tokens, upgradeTokens, mergedStreams, Token.ofWord, Mark.isActive,
    Mark.character]

example : tokens? (Manager.dnf.upgradeCommand ["it's; reboot", "$(id)"]) = some
    (["dnf", "upgrade", "-y", "it's; reboot", "$(id)"].map .ofText ++ mergedStreams) := by
  decide +kernel

end Shell

namespace PackageExecutor

def presentNames (texts : List String) : List String :=
  (texts.map Text.trimmed).filter fun name => name ≠ ""

theorem presentNames_eq_nil {texts : List String} :
    presentNames texts = [] ↔ ∀ text ∈ texts, Text.trimmed text = "" := by
  simp only [presentNames, List.filter_eq_nil_iff, List.forall_mem_map, decide_eq_true_eq,
    ne_eq, Decidable.not_not]

theorem packageNamed_texts (texts : List String) :
    (texts.map Json.str).filterMap packageNamed? = presentNames texts := by
  rw [List.filterMap_map, presentNames]
  induction texts with
  | nil => rfl
  | cons text rest ih =>
      by_cases blank : Text.trimmed text = "" <;> simp [packageNamed?, blank, ih]

theorem packageNames_texts (texts : List String) :
    (presentNames texts = [] ∧
      packageNames (.arr (texts.map .str)) = .error (.invalidValue .noPackageName)) ∨
    (presentNames texts ≠ [] ∧
      packageNames (.arr (texts.map .str)) = .ok (presentNames texts)) := by
  have strings : ∀ entry ∈ texts.map Json.str, ∃ text, entry = .str text := by
    intro entry member
    obtain ⟨text, _, rfl⟩ := List.mem_map.mp member
    exact ⟨text, rfl⟩
  rcases packageNames_of_texts strings with ⟨names, found, named⟩ | ⟨refused, none⟩
  · have present : names = presentNames texts := named.exactly.trans (packageNamed_texts texts)
    rw [← present]
    exact .inr ⟨named.inhabited, found⟩
  · exact .inl ⟨(packageNamed_texts texts).symm.trans none, refused⟩

variable {σ : Type}

/-- An upgrade of some texts asks the host nothing when all of them are blank. Else it executes one
command, which the shell reads as the words of the package manager, the names that are present, each
as one word and in their order, and the redirection. -/
theorem upgrade_reads_names (host : Transport σ) (manager : Manager) (texts : List String) :
    ((∀ text ∈ texts, Text.trimmed text = "") ∧
      upgrade host manager (.arr (texts.map .str)) =
        Run.fail (.invalidValue .noPackageName)) ∨
    ((∃ text ∈ texts, Text.trimmed text ≠ "") ∧
      ∃ command,
        upgrade host manager (.arr (texts.map .str)) = host.ask command manager.upgradeResult ∧
        (∀ name, Records (upgrade (host.recorded name) manager (.arr (texts.map .str)))
          (Asked name command manager.upgradeResult)) ∧
        Shell.tokens? command = some (Shell.upgradeTokens manager (presentNames texts))) := by
  rcases packageNames_texts texts with ⟨none, refused⟩ | ⟨present, found⟩
  · refine .inl ⟨presentNames_eq_nil.mp none, ?_⟩
    rw [upgrade, refused]
    rfl
  · have asks {τ : Type} (host : Transport τ) : upgrade host manager (.arr (texts.map .str)) =
        host.ask (manager.upgradeCommand (presentNames texts)) manager.upgradeResult := by
      rw [upgrade, found]
      rfl
    refine .inr ⟨?_, manager.upgradeCommand (presentNames texts), asks host, fun name => ?_,
      Shell.tokens_upgradeCommand manager present⟩
    · simpa only [Classical.not_forall, exists_prop] using mt presentNames_eq_nil.mpr present
    · rw [asks]
      exact records_ask name host _ _

end PackageExecutor

end FleetPatch
