import FleetPatch.Web.Reading

/-!
# Kinds of commands

Commands observe a host or change it. A change is an installation of updates, an
upgrade of packages or a restart, and how a command begins tells which of them it
is, or that it is none.
-/

namespace FleetPatch

set_option autoImplicit false

open Windows

def observingCommands : List String := [
  Web.probeCommand,
  installedUpdatesScript,
  searchScript,
  rebootCheckScript,
  Manager.apt.installedCommand,
  Manager.apt.upgradableCommand,
  Manager.apt.rebootCheckCommand,
  Manager.dnf.installedCommand,
  Manager.dnf.upgradableCommand,
  Manager.dnf.rebootCheckCommand]

theorem probe_observes : Web.probeCommand ∈ observingCommands := List.mem_cons_self

theorem installedUpdates_observes : installedUpdatesScript ∈ observingCommands := by
  simp only [observingCommands, List.mem_cons, true_or, or_true]

theorem search_observes : searchScript ∈ observingCommands := by
  simp only [observingCommands, List.mem_cons, true_or, or_true]

theorem installed_observes (manager : Manager) : manager.installedCommand ∈ observingCommands := by
  cases manager <;> simp only [observingCommands, List.mem_cons, true_or, or_true]

theorem upgradable_observes (manager : Manager) :
    manager.upgradableCommand ∈ observingCommands := by
  cases manager <;> simp only [observingCommands, List.mem_cons, true_or, or_true]

theorem rebootCheck_observes (ecosystem : Ecosystem) :
    ecosystem.rebootCheck ∈ observingCommands := by
  rcases ecosystem with _ | manager
  · simp only [Ecosystem.rebootCheck, observingCommands, List.mem_cons, true_or, or_true]
  · cases manager <;>
      simp only [Ecosystem.rebootCheck, observingCommands, List.mem_cons, true_or, or_true]

/-- The script that installs the updates with the given digits, or all when there are none. -/
def installScript (digits : List String) : String :=
  Action.install.scriptWith (filterAssignment digits)

def IsInstallScript (command : String) : Prop := ∃ digits, command = installScript digits

def IsActionScript (command : String) : Prop :=
  ∃ (action : Action) (digits : List String), command = action.scriptWith (filterAssignment digits)

def UpgradesBy (manager : Manager) (command : String) : Prop :=
  command = manager.upgradeAllCommand ∨ ∃ names, command = manager.upgradeCommand names

def IsUpgradeCommand (command : String) : Prop := ∃ manager, UpgradesBy manager command

def IsRestartCommand (command : String) : Prop :=
  ∃ ecosystem : Ecosystem, command = ecosystem.restartCommand

def Begins (lead command : String) : Prop := ∃ rest, command = lead ++ rest

/-- Whether two texts differ where both have a character. -/
def apart (first second : String) : Bool :=
  (first.toList.zip second.toList).any fun (left, right) => left != right

theorem append_ne_append_of_zip (first second rest behind : List Char)
    (differ : ((first.zip second).any fun (left, right) => left != right) = true) :
    first ++ rest ≠ second ++ behind := by
  induction first generalizing second with
  | nil => simp at differ
  | cons left first ih =>
      cases second with
      | nil => simp at differ
      | cons right second =>
          intro same
          rw [List.cons_append, List.cons_append] at same
          obtain ⟨rfl, behindSame⟩ := List.cons.inj same
          refine ih second ?_ behindSame
          simpa using differ

theorem append_ne_append {lead other : String} (rest behind : String)
    (differ : apart lead other = true) : lead ++ rest ≠ other ++ behind := by
  intro same
  apply append_ne_append_of_zip _ _ rest.toList behind.toList differ
  rw [← String.toList_append, ← String.toList_append, same]

theorem Begins.ne {lead other command text : String} (begins : Begins lead command)
    (behind : Begins other text) (differ : apart lead other = true) : command ≠ text := by
  obtain ⟨rest, rfl⟩ := begins
  obtain ⟨more, rfl⟩ := behind
  exact append_ne_append _ _ differ

theorem Begins.append {lead text : String} (begins : Begins lead text) (more : String) :
    Begins lead (text ++ more) := by
  obtain ⟨rest, rfl⟩ := begins
  exact ⟨rest ++ more, String.append_assoc⟩

theorem scriptOf_begins (next : String) (lines : List String) :
    Begins "\n" (scriptOf ("" :: next :: lines)) :=
  ⟨_, by rw [scriptOf, String.intercalate_cons_cons, String.empty_append]⟩

theorem scriptWith_eq (action : Action) (digits : List String) :
    ∃ rest, action.scriptWith (filterAssignment digits) =
      actionHead ++ ("$KBFilter = @(" ++ rest) := by
  cases action with
  | download =>
      exact ⟨_, by
        change actionHead ++ ("$KBFilter = @(" ++ _ ++ ")") ++ _ ++ _ ++ _ ++ _ = _
        simp only [String.append_assoc]
        rfl⟩
  | install =>
      exact ⟨_, by
        change actionHead ++ ("$KBFilter = @(" ++ _ ++ ")") ++ _ ++ _ ++ _ ++ _ ++ _ = _
        simp only [String.append_assoc]
        rfl⟩

/-- How the commands begin that observe a host and are no scripts. -/
def plainLeads : List String := ["echo", "dpkg", "apt ", "test", "dnf l", "dnf c", "if"]

def upgradeStart : Manager → String
  | .apt => "sudo D"
  | .dnf => "dnf u"

def upgradeLeads : List String := [upgradeStart .apt, upgradeStart .dnf]

def restartLeads : List String := ["Restart", "sudo r"]

theorem observing_cases {command : String} (member : command ∈ observingCommands) :
    command = installedUpdatesScript ∨ command = searchScript ∨ command = rebootCheckScript ∨
      ∃ lead ∈ plainLeads, Begins lead command := by
  simp only [observingCommands, List.mem_cons, List.not_mem_nil, or_false] at member
  rcases member with probe | listing | search | check | plain
  · refine .inr (.inr (.inr ⟨"echo", by decide, " test", probe⟩))
  · exact .inl listing
  · exact .inr (.inl search)
  · exact .inr (.inr (.inl check))
  refine .inr (.inr (.inr ?_))
  rcases plain with rfl | rfl | rfl | rfl | rfl | rfl
  · have lead : Begins "dpkg"
        "dpkg-query -W -f='$\x7bPackage\x7d\\t$\x7bVersion\x7d\\t$\x7bArchitecture\x7d\\t" :=
      ⟨"-query -W -f='$\x7bPackage\x7d\\t$\x7bVersion\x7d\\t$\x7bArchitecture\x7d\\t", rfl⟩
    exact ⟨"dpkg", by decide, lead.append _⟩
  · exact ⟨"apt ", by decide, "list --upgradable 2>/dev/null | tail -n +2", rfl⟩
  · exact ⟨"test", by decide,
      " -f /var/run/reboot-required && echo true || echo false", rfl⟩
  · exact ⟨"dnf l", by decide, "ist installed --quiet 2>/dev/null | tail -n +2", rfl⟩
  · exact ⟨"dnf c", by decide, "heck-update --quiet 2>/dev/null || true", rfl⟩
  · have lead : Begins "if" "if command -v needs-restarting > /dev/null 2>&1; then " :=
      ⟨" command -v needs-restarting > /dev/null 2>&1; then ", rfl⟩
    exact ⟨"if", by decide, (lead.append _).append _⟩

theorem observing_begins {command : String} (member : command ∈ observingCommands) :
    ∃ lead ∈ "\n" :: plainLeads, Begins lead command := by
  rcases observing_cases member with rfl | rfl | rfl | ⟨lead, plain, begins⟩
  · exact ⟨"\n", List.mem_cons_self, scriptOf_begins _ _⟩
  · exact ⟨"\n", List.mem_cons_self, scriptOf_begins _ _⟩
  · exact ⟨"\n", List.mem_cons_self, scriptOf_begins _ _⟩
  · exact ⟨lead, List.mem_cons_of_mem _ plain, begins⟩

theorem upgradeLead_begins (manager : Manager) :
    Begins (upgradeStart manager) manager.upgradeLead := by
  cases manager with
  | apt => exact ⟨"EBIAN_FRONTEND=noninteractive apt-get install -y --only-upgrade ", rfl⟩
  | dnf => exact ⟨"pgrade -y ", rfl⟩

theorem upgrades_begins {manager : Manager} {command : String}
    (upgrades : UpgradesBy manager command) : Begins (upgradeStart manager) command := by
  rcases upgrades with rfl | ⟨names, rfl⟩
  · cases manager with
    | apt => exact ⟨"EBIAN_FRONTEND=noninteractive apt-get upgrade -y 2>&1", rfl⟩
    | dnf => exact ⟨"pgrade -y 2>&1", rfl⟩
  · exact ((upgradeLead_begins manager).append _).append _

theorem upgrade_begins {command : String} (upgrades : IsUpgradeCommand command) :
    ∃ lead ∈ upgradeLeads, Begins lead command := by
  obtain ⟨manager, upgrades⟩ := upgrades
  refine ⟨upgradeStart manager, ?_, upgrades_begins upgrades⟩
  cases manager <;> decide

theorem UpgradesBy.manager_eq {manager other : Manager} {command : String}
    (upgrades : UpgradesBy manager command) (also : UpgradesBy other command) :
    manager = other := by
  have begins := upgrades_begins upgrades
  have behind := upgrades_begins also
  cases manager <;> cases other <;>
    first | rfl | exact absurd rfl (begins.ne behind (by decide))

theorem restart_begins {command : String} (restarts : IsRestartCommand command) :
    ∃ lead ∈ restartLeads, Begins lead command := by
  obtain ⟨ecosystem, rfl⟩ := restarts
  cases ecosystem with
  | windows => exact ⟨"Restart", by decide, "-Computer -Force", rfl⟩
  | packages manager => exact ⟨"sudo r", by decide, "eboot", rfl⟩

theorem ne_of_leads {leads others : List String} {command text : String}
    (begins : ∃ lead ∈ leads, Begins lead command) (behind : ∃ other ∈ others, Begins other text)
    (differ : ∀ lead ∈ leads, ∀ other ∈ others, apart lead other = true) : command ≠ text := by
  obtain ⟨lead, member, lead_begins⟩ := begins
  obtain ⟨other, other_member, other_begins⟩ := behind
  exact lead_begins.ne other_begins (differ lead member other other_member)

theorem scriptWith_begins (action : Action) (filter : String) :
    Begins "\n" (action.scriptWith filter) := by
  have head : Begins "\n" actionHead := scriptOf_begins _ _
  cases action with
  | download => exact ((((head.append _).append _).append _).append _).append _
  | install => exact (((((head.append _).append _).append _).append _).append _).append _

theorem action_begins (action : Action) (filter : String) :
    ∃ lead ∈ ["\n"], Begins lead (action.scriptWith filter) :=
  ⟨"\n", List.mem_singleton_self _, scriptWith_begins action filter⟩

theorem install_begins (digits : List String) :
    ∃ lead ∈ ["\n"], Begins lead (installScript digits) := action_begins .install _

theorem observing_not_upgrade {command : String} (member : command ∈ observingCommands) :
    ¬ IsUpgradeCommand command := by
  intro upgrades
  exact ne_of_leads (observing_begins member) (upgrade_begins upgrades) (by decide) rfl

theorem observing_not_restart {command : String} (member : command ∈ observingCommands) :
    ¬ IsRestartCommand command := by
  intro restarts
  exact ne_of_leads (observing_begins member) (restart_begins restarts) (by decide) rfl

theorem install_not_upgrade {command : String} (installs : IsInstallScript command) :
    ¬ IsUpgradeCommand command := by
  obtain ⟨digits, rfl⟩ := installs
  intro upgrades
  exact ne_of_leads (install_begins digits) (upgrade_begins upgrades) (by decide) rfl

theorem install_not_restart {command : String} (installs : IsInstallScript command) :
    ¬ IsRestartCommand command := by
  obtain ⟨digits, rfl⟩ := installs
  intro restarts
  exact ne_of_leads (install_begins digits) (restart_begins restarts) (by decide) rfl

theorem upgrade_not_restart {command : String} (upgrades : IsUpgradeCommand command) :
    ¬ IsRestartCommand command := by
  intro restarts
  exact ne_of_leads (upgrade_begins upgrades) (restart_begins restarts) (by decide) rfl

/-- The scripts that observe a host share their first lines with one that downloads or installs, if
any, and go on with other lines. -/
theorem observing_not_action {command : String} (member : command ∈ observingCommands) :
    ¬ IsActionScript command := by
  rintro ⟨action, digits, acts⟩
  obtain ⟨rest, script⟩ := scriptWith_eq action digits
  rcases observing_cases member with same | same | same | plain
  · rw [acts, script] at same
    revert same
    simp only [installedUpdatesScript, actionHead, scriptOf, String.intercalate_cons_cons,
      String.intercalate_singleton, String.append_assoc, String.append_right_inj]
    exact append_ne_append _ _ (by decide)
  · rw [acts, script] at same
    revert same
    simp only [searchScript, actionHead, scriptOf, String.intercalate_cons_cons,
      String.intercalate_singleton, String.append_assoc, String.append_right_inj]
    rw [← String.append_assoc]
    exact append_ne_append _ _ (by decide)
  · rw [acts, script] at same
    revert same
    simp only [rebootCheckScript, actionHead, scriptOf, String.intercalate_cons_cons,
      String.intercalate_singleton, String.append_assoc, String.append_right_inj]
    exact append_ne_append _ _ (by decide)
  · exact ne_of_leads plain (action_begins action _) (by decide) acts

theorem observing_not_install {command : String} (member : command ∈ observingCommands) :
    ¬ IsInstallScript command := by
  rintro ⟨digits, installs⟩
  exact observing_not_action member ⟨.install, digits, installs⟩

theorem digits_of_installScript {digits : List String}
    (same : installScript digits = installScript []) :
    digits = [] := by
  cases digits with
  | nil => rfl
  | cons item rest =>
      exfalso
      obtain ⟨behind, listed⟩ : ∃ behind, filterAssignment (item :: rest) =
          "$KBFilter = @(" ++ ("'" ++ behind) := by
        cases rest with
        | nil =>
            exact ⟨item ++ "'" ++ ")", by
              simp only [filterAssignment, List.map, String.intercalate_singleton,
                String.append_assoc]⟩
        | cons next rest =>
            exact ⟨_, by
              simp only [filterAssignment, List.map, String.intercalate_cons_cons,
                String.append_assoc]
              rfl⟩
      have none : filterAssignment [] = "$KBFilter = @(" ++ ")" := rfl
      revert same
      change actionHead ++ filterAssignment (item :: rest) ++ _ ++ _ ++ _ ++ _ ++ _ ≠
        actionHead ++ filterAssignment [] ++ _ ++ _ ++ _ ++ _ ++ _
      simp only [listed, none, String.append_assoc, ne_eq, String.append_right_inj]
      exact append_ne_append _ _ (by decide)

theorem upgradeAll_ne_upgrade (manager other : Manager) (names : List String) :
    manager.upgradeAllCommand ≠ other.upgradeCommand names := by
  intro same
  cases UpgradesBy.manager_eq (.inl rfl) (.inr ⟨names, same⟩)
  revert same
  cases manager with
  | apt =>
      have all : Begins "sudo DEBIAN_FRONTEND=noninteractive apt-get u"
        (Manager.upgradeAllCommand .apt) := ⟨"pgrade -y 2>&1", rfl⟩
      have lead : Begins "sudo DEBIAN_FRONTEND=noninteractive apt-get i"
        (Manager.upgradeLead .apt) := ⟨"nstall -y --only-upgrade ", rfl⟩
      exact all.ne ((lead.append _).append _) (by decide)
  | dnf =>
      -- both begin alike, but what is behind the names is longer than what ends the other
      intro same
      have rest : "2>&1" = " ".intercalate (names.map Text.shellWord) ++ " 2>&1" := by
        apply (String.append_right_inj "dnf upgrade -y ").mp
        rw [← String.append_assoc]
        exact same
      have lengths := congrArg String.length rest
      rw [String.length_append] at lengths
      have short : "2>&1".length = 4 := by decide
      have long : " 2>&1".length = 5 := by decide
      omega

end FleetPatch
