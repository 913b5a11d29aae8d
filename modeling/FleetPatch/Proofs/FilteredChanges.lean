import FleetPatch.Proofs.Filters

/-!
# Filters of installations and upgrades

Both routes follow their filters. A list of updates stops the request instead of
being refused when all its entries are identifiers and one of them is no text;
no list of packages does.
-/

namespace FleetPatch.Web

set_option autoImplicit false

open Windows

def installations : Changes where
  member := "kb_numbers"
  changing := IsInstallScript
  everything command := command = installScript []
  naming list command := (∀ entry ∈ list, ∃ text, entry = .str text) ∧
    ∃ digits, NamesUpdates list digits ∧ command = installScript digits
  stopping list := (∀ entry ∈ list, ∃ digits, KbId.digits? entry = some digits) ∧
    ∃ entry ∈ list, ∀ text, entry ≠ .str text

def upgrades : Changes where
  member := "packages"
  changing := IsUpgradeCommand
  everything command := ∃ manager : Manager, command = manager.upgradeAllCommand
  naming list command := ∃ (manager : Manager) (names : List String), NamesPackages list names ∧
    command = manager.upgradeCommand names
  stopping _ := False

theorem installations_lawful : installations.Lawful where
  changing_of_everything everything := ⟨[], everything⟩
  not_everything := by
    rintro list command inhabited ⟨_, digits, names, rfl⟩ everything
    obtain ⟨entry, rest, rfl⟩ := List.exists_cons_of_ne_nil inhabited
    obtain ⟨item, held, _⟩ := names.complete entry List.mem_cons_self
    rw [digits_of_installScript everything] at held
    cases held
  not_stopping := by
    rintro list command ⟨texts, _⟩ ⟨_, entry, member, other⟩
    obtain ⟨text, same⟩ := texts entry member
    exact other text same

theorem upgrades_lawful : upgrades.Lawful where
  changing_of_everything everything := by
    obtain ⟨manager, all⟩ := everything
    exact ⟨manager, .inl all⟩
  not_everything := by
    rintro list command _ ⟨other, names, _, rfl⟩ ⟨manager, all⟩
    exact upgradeAll_ne_upgrade manager other names all.symm
  not_stopping _ := id

variable {σ α : Type}

/-- Nothing but its filter hinders a request for a change: the asset is found, suits the request, is
not protected and can be reached, every step succeeds, and no restart is pending. -/
structure Unhindered (service : Service σ) (name : String) (suited : Asset → Prop)
    (ecosystem : Ecosystem) (history : History) : Prop where
  admitted : ∃ asset endpoint, service.findAsset name = .ok asset ∧ suited asset ∧
    asset.deepFreeze = false ∧ service.endpoint asset = .ok endpoint
  succeeded : ∀ entry ∈ history, entry.2.succeeded = true
  clear : ∀ execution ∈ history.executions, execution.command = ecosystem.rebootCheck →
    ∀ reply, execution.outcome = .ok reply → ecosystem.pendingOf reply = .ok false

theorem guardAsset_of_unprotected {asset : Asset} (unprotected : asset.deepFreeze = false)
    (action : String) : guardAsset asset action = .ok () := by
  simp only [guardAsset, Guard.protection, unprotected, Bool.false_eq_true, if_false]
  rfl

theorem guarded_unhindered {host : String} {ecosystem : Ecosystem} {asset : Asset}
    {action : String} {order : Except Failure String} {read : Reply → Except Fault α}
    {history : History} {outcome : Except Failure α}
    (visited : Visited host (Guarded host ecosystem asset action order read) history outcome)
    (succeeded : ∀ entry ∈ history, entry.2.succeeded = true)
    (clear : ∀ execution ∈ history.executions, execution.command = ecosystem.rebootCheck →
      ∀ reply, execution.outcome = .ok reply → ecosystem.pendingOf reply = .ok false) :
    (∃ failure, order = .error failure ∧ outcome = .error failure) ∨
      ∃ change ∈ history.executions, order = .ok change.command := by
  cases visited with
  | unconnected fault closed => cases succeeded _ List.mem_cons_self
  | worked work result closed told =>
      obtain ⟨works, closes⟩ := succeeded_visit_iff.mp succeeded
      rw [executions_visit] at clear ⊢
      cases told with
      | unchecked _ fault checked =>
          obtain ⟨reply, answered⟩ := checked.answered works
          cases answered
      | refused _ reply fault checked refusal =>
          have held : ⟨host, ecosystem.rebootCheck, .ok reply⟩ ∈ History.executions work := by
            rw [checked.executions_of_ok]
            exact List.mem_cons_self
          rw [cleared_of_pending (clear _ held rfl reply rfl)] at refusal
          cases refusal
      | unordered _ reply failure checked clear none =>
          rw [closes]
          exact .inl ⟨failure, none, rfl⟩
      | changed earlier later reply command answer checked clear ordered executed =>
          obtain ⟨given, rfl⟩ := executed.answered fun entry member =>
            works entry (List.mem_append_right _ member)
          refine .inr ⟨⟨host, command, .ok given⟩, ?_, ordered⟩
          rw [executions_append, executed.executions_of_ok]
          exact List.mem_append_right _ List.mem_cons_self

variable {service : Service σ} {name : String} {body : List UInt8} {history : History}
  {outcome : Except Failure Json} {asset : Asset}

theorem installationOrder_of_admitted (found : service.findAsset name = .ok asset)
    (windows : requireWindows asset = .ok ()) (unprotected : asset.deepFreeze = false) :
    installationOrder service name body =
      (requested "kb_numbers" body).map fun list => (asset, (list.map Json.arr).getD .null) := by
  rw [installationOrder, bind_of_ok found, bind_of_ok windows,
    bind_of_ok (guardAsset_of_unprotected unprotected "update"), requested]
  cases bodyMembers body with
  | error failure => rfl
  | ok members =>
      change (listed? "kb_numbers" members >>= fun list => _) =
        (listed? "kb_numbers" members).map _
      cases listed? "kb_numbers" members <;> rfl

theorem installCommand_null {command : String} (ordered : installCommand .null = .ok command) :
    command = installScript [] := by
  obtain ⟨entries, digits, listed, found, _, rfl⟩ := installCommand_ok ordered
  cases listed
  cases found
  rfl

theorem installCommand_null_ne {failure : Failure} : installCommand .null ≠ .error failure := by
  intro failed
  obtain ⟨fault, stopped, _⟩ := mapError_eq_error.mp failed
  cases stopped

theorem installCommand_list {list : List Json} {command : String}
    (ordered : installCommand (.arr list) = .ok command) :
    installations.naming list command := by
  obtain ⟨entries, digits, listed, found, texts, scripted⟩ := installCommand_ok ordered
  cases (Json.elementsIfPresent_arr list).symm.trans listed
  exact ⟨requireStrings_ok texts, digits, filterDigits_ok found, scripted⟩

theorem installCommand_list_error {list : List Json} {failure : Failure}
    (failed : installCommand (.arr list) = .error failure) :
    (Response.ofFailure failure).status = 400 ↔ ¬ installations.stopping list := by
  obtain ⟨fault, stopped, rfl⟩ := mapError_eq_error.mp failed
  rw [UpdateExecutor.actionScript, bind_of_ok (Json.elementsIfPresent_arr list)] at stopped
  rcases cases_of_bind_error stopped with unnamed | ⟨script, scripted, stopped⟩
  · obtain ⟨⟨entry, member, none⟩, cause, rfl⟩ :=
      filterDigits_error (map_eq_error.mp (map_eq_error.mp unnamed))
    apply iff_of_true rfl
    rintro ⟨named, _⟩
    obtain ⟨digits, found⟩ := named entry member
    rw [none] at found
    cases found
  · obtain ⟨filter, filtered, _⟩ := map_eq_ok.mp scripted
    obtain ⟨digits, found, _⟩ := map_eq_ok.mp filtered
    rcases cases_of_bind_error stopped with other | ⟨_, _, stopped⟩
    · obtain ⟨rfl, untold⟩ := requireStrings_error other
      refine iff_of_false nofun fun solid => solid ⟨fun entry member => ?_, untold⟩
      obtain ⟨item, _, named⟩ := (filterDigits_ok found).complete entry member
      exact ⟨item, named⟩
    · cases stopped

theorem installation_unhindered (tells : InstallationTold service name body history outcome)
    (free : Unhindered service name (fun asset => requireWindows asset = .ok ()) .windows history) :
    (∃ failure, requested "kb_numbers" body = .error failure ∧ outcome = .error failure) ∨
      ∃ list, requested "kb_numbers" body = .ok list ∧
        ((∃ failure, installCommand ((list.map Json.arr).getD .null) = .error failure ∧
            outcome = .error failure) ∨
          ∃ change ∈ history.executions,
            installCommand ((list.map Json.arr).getD .null) = .ok change.command) := by
  obtain ⟨asset, endpoint, found, windows, unprotected, reached⟩ := free.admitted
  unfold InstallationTold at tells
  rw [installationOrder_of_admitted found windows unprotected] at tells
  cases asked : requested "kb_numbers" body with
  | error failure =>
      rw [asked] at tells
      exact .inl ⟨failure, rfl, tells.2⟩
  | ok list =>
      rw [asked] at tells
      refine .inr ⟨list, rfl, ?_⟩
      cases tells with
      | changed _ result visiting =>
          rw [reached] at visiting
          rcases guarded_unhindered visiting free.succeeded free.clear with
            ⟨failure, none, rfl⟩ | made
          · exact .inl ⟨failure, none, rfl⟩
          · exact .inr made

theorem installed_of_change (tells : InstallationTold service name body history outcome)
    {change : Execution} (member : change ∈ history.executions)
    (installs : IsInstallScript change.command) :
    ∃ list, requested "kb_numbers" body = .ok list ∧
      installCommand ((list.map Json.arr).getD .null) = .ok change.command := by
  rcases installation_cases tells with
    checks | ⟨asset, kbIds, made, _, planned, cleared, _, ordered, _, _⟩
  · exact absurd installs (observing_not_install (checks change member))
  rcases cleared.observes_or_eq member with observes | rfl
  · exact absurd installs (observing_not_install observes)
  · obtain ⟨members, list, reads, lists, rfl⟩ := (installation_planned service planned).listed
    exact ⟨list, by rw [requested, bind_of_ok reads, lists], ordered⟩

theorem installation_follows (tells : InstallationTold service name body history outcome) :
    installations.Follows body history (.ofOutcome outcome)
      (Unhindered service name (fun asset => requireWindows asset = .ok ()) .windows history) where
  made change member installs := by
    obtain ⟨list, asked, ordered⟩ := installed_of_change tells member installs
    cases list with
    | none => exact .inl ⟨asked, installCommand_null ordered⟩
    | some list => exact .inr ⟨list, asked, installCommand_list ordered⟩
  failed failure free asked := by
    rcases installation_unhindered tells free with ⟨other, stopped, rfl⟩ | ⟨list, going, _⟩
    · cases asked.symm.trans stopped
      rfl
    · cases asked.symm.trans going
  all free asked := by
    rcases installation_unhindered tells free with ⟨other, stopped, _⟩ | ⟨list, going, ordered⟩
    · cases asked.symm.trans stopped
    · cases asked.symm.trans going
      rcases ordered with ⟨failure, none, _⟩ | ⟨change, member, ordered⟩
      · exact absurd none installCommand_null_ne
      · exact ⟨change, member, [], installCommand_null ordered⟩
  listed list free asked unmade := by
    rcases installation_unhindered tells free with ⟨other, stopped, _⟩ | ⟨given, going, ordered⟩
    · cases asked.symm.trans stopped
    · cases asked.symm.trans going
      rcases ordered with ⟨failure, none, rfl⟩ | ⟨change, member, ordered⟩
      · exact installCommand_list_error none
      · obtain ⟨_, digits, _, scripted⟩ := installCommand_list ordered
        exact absurd ⟨change, member, digits, scripted⟩ unmade

theorem upgradeOrder_of_admitted (found : service.findAsset name = .ok asset)
    (linux : requireLinux asset = .ok ()) (unprotected : asset.deepFreeze = false) :
    upgradeOrder service name body =
      (requested "packages" body >>= requireTexts).map fun names => (asset, names) := by
  rw [upgradeOrder, bind_of_ok found, bind_of_ok linux,
    bind_of_ok (guardAsset_of_unprotected unprotected "upgrade"), requested]
  cases bodyMembers body with
  | error failure => rfl
  | ok members =>
      change (listedNames? members >>= fun names => _) = (listedNames? members).map _
      cases listedNames? members <;> rfl

theorem isText_iff {entry : Json} : isText entry = true ↔ ∃ text, entry = .str text := by
  constructor
  · intro texts
    cases entry with
    | str text => exact ⟨text, rfl⟩
    | _ => cases texts
  · rintro ⟨text, rfl⟩
    rfl

theorem requireTexts_ok {list names : Option (List Json)} (passed : requireTexts list = .ok names) :
    names = list ∧ ∀ entries, list = some entries → ∀ entry ∈ entries,
      ∃ text, entry = .str text := by
  cases list with
  | none =>
      cases passed
      exact ⟨rfl, nofun⟩
  | some entries =>
      simp only [requireTexts] at passed
      split at passed
      next texts =>
          cases passed
          refine ⟨rfl, ?_⟩
          rintro _ ⟨⟩ entry member
          exact isText_iff.mp (List.all_eq_true.mp texts entry member)
      · cases passed

theorem requireTexts_error {list : Option (List Json)} {failure : Failure}
    (failed : requireTexts list = .error failure) : ∃ message, failure = .refused 400 message := by
  cases list with
  | none => cases failed
  | some entries =>
      simp only [requireTexts] at failed
      split at failed
      · cases failed
      · exact ⟨_, (Except.error.inj failed).symm⟩

theorem upgradeCommand_list {manager : Manager} {list : List Json} {command : String}
    (texts : ∀ entry ∈ list, ∃ text, entry = .str text)
    (ordered : upgradeCommand (.packages manager) (some list) = .ok command) :
    upgrades.naming list command := by
  obtain ⟨found, named, rfl⟩ := map_eq_ok.mp (mapError_eq_ok.mp ordered)
  rcases packageNames_of_texts texts with ⟨names, given, exactly⟩ | ⟨none, _⟩
  · cases given.symm.trans named
    exact ⟨manager, found, exactly, rfl⟩
  · cases none.symm.trans named

theorem upgradeCommand_list_error {manager : Manager} {list : List Json} {failure : Failure}
    (texts : ∀ entry ∈ list, ∃ text, entry = .str text)
    (failed : upgradeCommand (.packages manager) (some list) = .error failure) :
    (Response.ofFailure failure).status = 400 := by
  obtain ⟨fault, stopped, rfl⟩ := mapError_eq_error.mp failed
  have unnamed := map_eq_error.mp stopped
  rcases packageNames_of_texts texts with ⟨names, given, _⟩ | ⟨none, _⟩
  · cases given.symm.trans unnamed
  · cases none.symm.trans unnamed
    rfl

def ManagedBy (manager : Manager) (asset : Asset) : Prop :=
  requireLinux asset = .ok () ∧ requiredEcosystem asset = .ok (.packages manager)

theorem upgrade_unhindered {manager : Manager}
    (tells : UpgradeTold service name body history outcome)
    (free : Unhindered service name (ManagedBy manager) (.packages manager) history) :
    (∃ failure, requested "packages" body >>= requireTexts = .error failure ∧
        outcome = .error failure) ∨
      ∃ names, requested "packages" body >>= requireTexts = .ok names ∧
        ((∃ failure, upgradeCommand (.packages manager) names = .error failure ∧
            outcome = .error failure) ∨
          ∃ change ∈ history.executions,
            upgradeCommand (.packages manager) names = .ok change.command) := by
  obtain ⟨asset, endpoint, found, ⟨linux, managed⟩, unprotected, reached⟩ := free.admitted
  unfold UpgradeTold at tells
  rw [upgradeOrder_of_admitted found linux unprotected] at tells
  cases asked : requested "packages" body >>= requireTexts with
  | error failure =>
      rw [asked] at tells
      exact .inl ⟨failure, rfl, tells.2⟩
  | ok names =>
      rw [asked] at tells
      refine .inr ⟨names, rfl, ?_⟩
      cases tells with
      | changed _ result visiting =>
          rw [reached] at visiting
          simp only [managed] at visiting
          rcases guarded_unhindered visiting free.succeeded free.clear with
            ⟨failure, none, rfl⟩ | made
          · exact .inl ⟨failure, none, rfl⟩
          · exact .inr made

theorem upgraded_of_change (tells : UpgradeTold service name body history outcome)
    {change : Execution} (member : change ∈ history.executions)
    (upgraded : IsUpgradeCommand change.command) :
    ∃ manager names, requested "packages" body = .ok names ∧ requireTexts names = .ok names ∧
      upgradeCommand (.packages manager) names = .ok change.command := by
  rcases upgrade_cases tells with
    checks | ⟨asset, names, manager, made, _, planned, cleared, _, ordered, _, _⟩
  · exact absurd upgraded (observing_not_upgrade (checks change member))
  rcases cleared.observes_or_eq member with observes | rfl
  · exact absurd upgraded (observing_not_upgrade observes)
  · obtain ⟨members, reads, lists⟩ := (upgrade_planned service planned).listed
    obtain ⟨list, listed, passed⟩ := exists_of_bind_ok lists
    cases (requireTexts_ok passed).1
    exact ⟨manager, names, by rw [requested, bind_of_ok reads, listed], passed, ordered⟩

theorem upgrade_follows (tells : UpgradeTold service name body history outcome) :
    upgrades.Follows body history (.ofOutcome outcome)
      (∃ manager, Unhindered service name (ManagedBy manager) (.packages manager) history) where
  made change member upgraded := by
    obtain ⟨manager, names, asked, passed, ordered⟩ := upgraded_of_change tells member upgraded
    cases names with
    | none => exact .inl ⟨asked, manager, (Except.ok.inj ordered).symm⟩
    | some list =>
        exact .inr ⟨list, asked, upgradeCommand_list ((requireTexts_ok passed).2 list rfl) ordered⟩
  failed failure free asked := by
    obtain ⟨manager, free⟩ := free
    have refused : requested "packages" body >>= requireTexts = .error failure :=
      congrArg (· >>= requireTexts) asked
    rcases upgrade_unhindered tells free with ⟨other, stopped, rfl⟩ | ⟨names, going, _⟩
    · cases refused.symm.trans stopped
      rfl
    · cases refused.symm.trans going
  all free asked := by
    obtain ⟨manager, free⟩ := free
    have whole : requested "packages" body >>= requireTexts = .ok none := bind_of_ok asked
    rcases upgrade_unhindered tells free with ⟨other, stopped, _⟩ | ⟨names, going, ordered⟩
    · cases whole.symm.trans stopped
    · cases whole.symm.trans going
      rcases ordered with ⟨failure, none, _⟩ | ⟨change, member, ordered⟩
      · cases none
      · exact ⟨change, member, manager, .inl (Except.ok.inj ordered).symm⟩
  listed list free asked unmade := by
    obtain ⟨manager, free⟩ := free
    have listed : requested "packages" body >>= requireTexts = requireTexts (some list) :=
      bind_of_ok asked
    refine iff_of_true ?_ id
    rcases upgrade_unhindered tells free with ⟨other, stopped, rfl⟩ | ⟨names, going, ordered⟩
    · obtain ⟨message, rfl⟩ := requireTexts_error (listed.symm.trans stopped)
      rfl
    · obtain ⟨rfl, texts⟩ := requireTexts_ok (listed.symm.trans going)
      rcases ordered with ⟨failure, none, rfl⟩ | ⟨change, member, ordered⟩
      · exact upgradeCommand_list_error (texts list rfl) none
      · obtain ⟨manager, names, _, named⟩ := upgradeCommand_list (texts list rfl) ordered
        exact absurd ⟨change, member, manager, .inr ⟨names, named⟩⟩ unmade

/-- The law on filters holds of a request to install exactly unless its filter was overlooked and
the host changed, or it is stopped where it should be refused; and so for a request to upgrade. -/
theorem filters_hold_iff (service : Service σ) (request : Request) (name : String) (now : σ) :
    (request.route = .serve (.installation name) true →
      (installations.Filtered request.body (service.history request now)
          (service.response request now) (Unhindered service name
            (fun asset => requireWindows asset = .ok ()) .windows (service.history request now)) ↔
        ¬ installations.Broken request.body (service.history request now)
          (Unhindered service name (fun asset => requireWindows asset = .ok ()) .windows
            (service.history request now)))) ∧
    (request.route = .serve (.upgrade name) true →
      (upgrades.Filtered request.body (service.history request now)
          (service.response request now) (∃ manager, Unhindered service name (ManagedBy manager)
            (.packages manager) (service.history request now)) ↔
        ¬ upgrades.Broken request.body (service.history request now)
          (∃ manager, Unhindered service name (ManagedBy manager) (.packages manager)
            (service.history request now)))) := by
  constructor
  · intro led
    obtain ⟨outcome, told, answered⟩ := told_of_serve service led nofun
      (records_installUpdates service name request.body) now
    rw [answered]
    exact (installation_follows told).filtered_iff installations_lawful
  · intro led
    obtain ⟨outcome, told, answered⟩ := told_of_serve service led nofun
      (records_upgradePackages service name request.body) now
    rw [answered]
    exact (upgrade_follows told).filtered_iff upgrades_lawful

def answering (replies : String → Reply) : Transport Unit where
  connected _ := true
  connect := pure ()
  dispatch command := pure (replies command)
  close := pure ()

def soleService (replies : String → Reply) : Service Unit where
  inventory := .ok {
    credentials := .obj [("login", .obj [])]
    assets := [{
      hostname := .str "web"
      ip := .str "10.0.0.1"
      os := .str "linux"
      osVersion := .null
      role := .null
      credentialRef := .str "login"
      tags := []
      deepFreeze := false
      docker := false
      packageManager := .str "apt" }] }
  resolver := ⟨[], .upTo 100⟩
  hosts _ := answering replies
  now := ""

/-- A request to upgrade whose body is `{"packages":0}`. -/
def zeroFilter : Request where
  method := "POST"
  target := ⟨"/api/assets/web/packages/upgrade", []⟩
  body := [123, 34, 112, 97, 99, 107, 97, 103, 101, 115, 34, 58, 48, 125]

/-- A filter of zero upgrades everything. -/
theorem zero_filter_overlooked :
    zeroFilter.route = .serve (.upgrade "web") true ∧
      ¬ upgrades.Filtered zeroFilter.body
        ((soleService fun _ => ⟨some "false", some "", some 0⟩).history zeroFilter ())
        ((soleService fun _ => ⟨some "false", some "", some 0⟩).response zeroFilter ())
        (∃ manager, Unhindered (soleService fun _ => ⟨some "false", some "", some 0⟩) "web"
          (ManagedBy manager) (.packages manager)
          ((soleService fun _ => ⟨some "false", some "", some 0⟩).history zeroFilter ())) := by
  refine ⟨by decide +kernel, fun filtered => ?_⟩
  have sent : Manager.apt.upgradeAllCommand ∈
      ((soleService fun _ => ⟨some "false", some "", some 0⟩).history
        zeroFilter ()).executions.map Execution.command := by
    decide +kernel
  obtain ⟨change, member, all⟩ := List.mem_map.mp sent
  have partly : (match Filter.ofBody "packages" zeroFilter.body with
      | .everything => true
      | _ => false) = false := by
    decide +kernel
  have whole : Filter.ofBody "packages" zeroFilter.body = .everything :=
    filtered.kept change member ⟨.apt, all⟩
  rw [whole] at partly
  cases partly

end FleetPatch.Web
