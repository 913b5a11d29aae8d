import FleetPatch.Proofs.Answers

/-!
# Changes are guarded

On every request and however the hosts answer, a host is changed at most once,
by the route that is there for the change, and right behind a check on the same
visit that found no restart pending. A protected asset is not even connected.
-/

namespace FleetPatch.Web

set_option autoImplicit false

open Windows

/-- A visit that changes a host once, right behind a check whose reply says that no restart is
pending. -/
def ClearedChange (history : History) (ecosystem : Ecosystem) (change : Execution) : Prop :=
  ∃ work closed reply,
    history = (change.host, .connect (.ok ())) :: work ++ [(change.host, .close closed)] ∧
    (∀ entry ∈ work, entry.1 = change.host ∧ entry.2.closed? = none) ∧
    History.executions work = [⟨change.host, ecosystem.rebootCheck, .ok reply⟩, change] ∧
    ecosystem.pendingOf reply = .ok false

theorem ClearedChange.executions_eq {history : History} {ecosystem : Ecosystem}
    {change : Execution} (cleared : ClearedChange history ecosystem change) :
    ∃ reply, history.executions = [⟨change.host, ecosystem.rebootCheck, .ok reply⟩, change] := by
  obtain ⟨work, closed, reply, rfl, _, executed, _⟩ := cleared
  exact ⟨reply, (executions_visit _ _ _).trans executed⟩

theorem pending_of_cleared {ecosystem : Ecosystem} {asset : Asset} {action : String}
    {reply : Reply} (clear : cleared ecosystem asset action reply = .ok ()) :
    ecosystem.pendingOf reply = .ok false := by
  obtain ⟨pending, reads, allowed⟩ := exists_of_bind_ok clear
  cases pending with
  | false => exact reads
  | true => cases allowed

theorem cleared_of_pending {ecosystem : Ecosystem} {asset : Asset} {action : String}
    {reply : Reply} (clear : ecosystem.pendingOf reply = .ok false) :
    cleared ecosystem asset action reply = .ok () := by
  rw [cleared, clear]
  rfl

variable {α : Type}

/-- A visit under the guard sends nothing but checks, or changes the host once, and then its
outcome is read from the reply to the change. -/
theorem guarded_cases {host : String} {ecosystem : Ecosystem} {asset : Asset} {action : String}
    {order : Except Failure String} {read : Reply → Except Fault α} {history : History}
    {outcome : Except Failure α}
    (visited : Visited host (Guarded host ecosystem asset action order read) history outcome) :
    (∀ execution ∈ history.executions, execution.command = ecosystem.rebootCheck) ∨
      ∃ change closed, ClearedChange history ecosystem change ∧ change.host = host ∧
        order = .ok change.command ∧ history.closings = [closed] ∧
        outcome = afterClosing closed ((change.outcome.bind read).mapError changeFailure) := by
  cases visited with
  | unconnected fault closed => exact .inl fun _ member => nomatch member
  | worked work result closed told =>
      rw [executions_visit, closings_visit]
      have checks_only {answer : Except Fault Reply}
          (checked : Executed host ecosystem.rebootCheck work answer) :
          ∀ execution ∈ History.executions work, execution.command = ecosystem.rebootCheck := by
        intro execution member
        rcases checked.executions_eq with dispatched | ⟨nothing, _⟩
        · rw [dispatched] at member
          rw [List.mem_singleton.mp member]
        · rw [nothing] at member
          cases member
      cases told with
      | unchecked _ fault checked => exact .inl (checks_only checked)
      | refused _ reply fault checked refusal => exact .inl (checks_only checked)
      | unordered _ reply failure checked clear none => exact .inl (checks_only checked)
      | changed earlier later reply command answer checked clear ordered executed =>
          rw [executions_append, checked.executions_of_ok]
          rcases executed.executions_eq with dispatched | ⟨nothing, _⟩
          · rw [closings_append, checked.closings_eq, executed.closings_eq]
            refine .inr ⟨⟨host, command, answer⟩, closed, ?_, rfl, ordered, rfl, rfl⟩
            refine ⟨earlier ++ later, closed, reply, rfl, ?_, ?_, pending_of_cleared clear⟩
            · exact List.forall_mem_append.mpr ⟨checked.on_host, executed.on_host⟩
            · rw [executions_append, checked.executions_of_ok, dispatched]
              rfl
          · rw [nothing]
            refine .inl fun execution member => ?_
            rw [List.mem_singleton.mp member]

/-- The script that a request to install sends names the digits of its entries. -/
theorem installCommand_ok {kbIds : Json} {command : String}
    (ordered : installCommand kbIds = .ok command) :
    ∃ entries digits, kbIds.elementsIfPresent = .ok entries ∧ filterDigits entries = .ok digits ∧
      UpdateExecutor.requireStrings entries = .ok () ∧ command = installScript digits := by
  obtain ⟨entries, lists, rest⟩ := exists_of_bind_ok (mapError_eq_ok.mp ordered)
  obtain ⟨script, scripted, rest⟩ := exists_of_bind_ok rest
  obtain ⟨_, strings, rest⟩ := exists_of_bind_ok rest
  obtain ⟨filter, filtered, rfl⟩ := map_eq_ok.mp scripted
  obtain ⟨digits, found, rfl⟩ := map_eq_ok.mp filtered
  exact ⟨entries, digits, lists, found, strings, (Except.ok.inj rest).symm⟩

/-- The command that a request to upgrade sends is for all packages or names those listed. -/
theorem upgradeCommand_ok {ecosystem : Ecosystem} {names : Option (List Json)} {command : String}
    (ordered : upgradeCommand ecosystem names = .ok command) :
    ∃ manager, ecosystem = .packages manager ∧
      (names = none ∧ command = manager.upgradeAllCommand ∨
        ∃ entries found, names = some entries ∧
          PackageExecutor.packageNames (.arr entries) = .ok found ∧
          command = manager.upgradeCommand found) := by
  cases ecosystem with
  | windows => cases ordered
  | packages manager =>
      refine ⟨manager, rfl, ?_⟩
      cases names with
      | none => exact .inl ⟨rfl, (Except.ok.inj ordered).symm⟩
      | some entries =>
          obtain ⟨found, named, rfl⟩ := map_eq_ok.mp (mapError_eq_ok.mp ordered)
          exact .inr ⟨entries, found, rfl, named, rfl⟩

theorem isInstallScript_of_order {kbIds : Json} {command : String}
    (ordered : installCommand kbIds = .ok command) : IsInstallScript command := by
  obtain ⟨_, digits, _, _, _, scripted⟩ := installCommand_ok ordered
  exact ⟨digits, scripted⟩

theorem upgradesBy_of_order {manager : Manager} {names : Option (List Json)} {command : String}
    (ordered : upgradeCommand (.packages manager) names = .ok command) :
    UpgradesBy manager command := by
  obtain ⟨other, same, sends⟩ := upgradeCommand_ok ordered
  cases same
  rcases sends with ⟨_, all⟩ | ⟨_, found, _, _, named⟩
  · exact .inl all
  · exact .inr ⟨found, named⟩

variable {σ : Type} {service : Service σ} {name : String} {body : List UInt8} {history : History}
  {outcome : Except Failure Json}

theorem installation_cases (tells : InstallationTold service name body history outcome) :
    (∀ execution ∈ history.executions, execution.command ∈ observingCommands) ∨
      ∃ asset kbIds change closed, installationOrder service name body = .ok (asset, kbIds) ∧
        ClearedChange history .windows change ∧ change.host = asset.hostname.text ∧
        installCommand kbIds = .ok change.command ∧ history.closings = [closed] ∧
        outcome = (afterClosing closed ((change.outcome.bind
          (UpdateExecutor.resultOf .install)).mapError changeFailure)).map
            fun result => resultJson asset result.members := by
  rcases Run.Telling.given_cases tells with ⟨_, _, rfl, _⟩ | ⟨⟨asset, kbIds⟩, planned, mapped⟩
  · exact .inl fun _ member => nomatch member
  cases mapped with
  | changed _ result reached =>
      rcases Run.Telling.given_cases reached with ⟨_, _, rfl, _⟩ | ⟨_, _, visited⟩
      · exact .inl fun _ member => nomatch member
      rcases guarded_cases visited with
        checks | ⟨change, closed, cleared, host, ordered, closes, rfl⟩
      · refine .inl fun execution member => ?_
        rw [checks execution member]
        exact rebootCheck_observes .windows
      · exact .inr ⟨asset, kbIds, change, closed, planned, cleared, host, ordered, closes, rfl⟩

theorem upgrade_cases (tells : UpgradeTold service name body history outcome) :
    (∀ execution ∈ history.executions, execution.command ∈ observingCommands) ∨
      ∃ asset names manager change closed, upgradeOrder service name body = .ok (asset, names) ∧
        ClearedChange history (.packages manager) change ∧ change.host = asset.hostname.text ∧
        upgradeCommand (.packages manager) names = .ok change.command ∧
        history.closings = [closed] ∧
        outcome = (afterClosing closed ((change.outcome.bind
          manager.upgradeResult).mapError changeFailure)).map
            fun result => resultJson asset result.members := by
  rcases Run.Telling.given_cases tells with ⟨_, _, rfl, _⟩ | ⟨⟨asset, names⟩, planned, mapped⟩
  · exact .inl fun _ member => nomatch member
  cases mapped with
  | changed _ result reached =>
      rcases Run.Telling.given_cases reached with ⟨_, _, rfl, _⟩ | ⟨_, _, visited⟩
      · exact .inl fun _ member => nomatch member
      cases named : requiredEcosystem asset with
      | error failure =>
          rw [named] at visited
          cases visited with
          | unconnected => exact .inl fun _ member => nomatch member
          | worked work _ closed quiet =>
              obtain ⟨rfl, _⟩ := quiet
              exact .inl fun _ member => nomatch member
      | ok ecosystem =>
          rw [named] at visited
          rcases guarded_cases visited with
            checks | ⟨change, closed, cleared, host, ordered, closes, rfl⟩
          · refine .inl fun execution member => ?_
            rw [checks execution member]
            exact rebootCheck_observes ecosystem
          · obtain ⟨manager, rfl, _⟩ := upgradeCommand_ok ordered
            exact .inr ⟨asset, names, manager, change, closed, planned, cleared, host, ordered,
              closes, rfl⟩

/-- A request to restart sends nothing, or the one command that restarts the host that it was
planned for. -/
theorem reboot_cases (tells : RebootTold service name history outcome) :
    history.executions = [] ∨
      ∃ asset ecosystemName ecosystem change closed,
        rebootOrder service name = .ok (asset, ecosystemName) ∧
        history.executions = [change] ∧ change.host = asset.hostname.text ∧
        change.command = Ecosystem.restartCommand ecosystem ∧ history.closings = [closed] ∧
        outcome = (afterClosing closed ((RebootRequest.ofAnswer ecosystem.label change.command
          change.outcome).mapError .fault)).map fun request => resultJson asset
            (("deep_freeze", .bool asset.deepFreeze) :: request.members) := by
  rcases Run.Telling.given_cases tells with ⟨_, _, rfl, _⟩ | ⟨⟨asset, named⟩, planned, mapped⟩
  · exact .inl rfl
  cases mapped with
  | changed _ result reached =>
      rcases Run.Telling.given_cases reached with ⟨_, _, rfl, _⟩ | ⟨_, _, visited⟩
      · exact .inl rfl
      cases visited with
      | unconnected => exact .inl rfl
      | worked work _ closed told =>
          rw [executions_visit, closings_visit]
          cases told with
          | changed _ answered restarting =>
              rcases Run.Telling.given_cases restarting with ⟨_, _, rfl, _⟩ | ⟨ecosystem, _, told⟩
              · exact .inl rfl
              cases told with
              | answered _ answer executed =>
                  rcases executed.executions_eq with dispatched | ⟨nothing, _⟩
                  · rw [executed.closings_eq]
                    exact .inr ⟨asset, named, ecosystem, ⟨_, _, answer⟩, closed, planned,
                      dispatched, rfl, rfl, rfl, rfl⟩
                  · exact .inl nothing

section Protection

variable (service : Service σ)

theorem findAsset_ok {inventory : Inventory} {asset : Asset}
    (loaded : service.inventory = .ok inventory)
    (found : inventory.find? (.str name) = some asset) : service.findAsset name = .ok asset := by
  have read : computing service.inventory = .ok inventory := mapError_eq_ok.mpr loaded
  rw [Service.findAsset, bind_of_ok read]
  simp only [found]

theorem order_stops_of_protected {β : Type} {order : Except Failure β} {asset : Asset}
    {action : String} (found : service.findAsset name = .ok asset)
    (protection : asset.deepFreeze = true)
    (guarded : ∀ planned, order = .ok planned → ∃ other, service.findAsset name = .ok other ∧
      guardAsset other action = .ok ()) : ∃ failure, order = .error failure := by
  cases planned : order with
  | error failure => exact ⟨failure, rfl⟩
  | ok order =>
      obtain ⟨other, finds, passed⟩ := guarded order planned
      cases Except.ok.inj (found.symm.trans finds)
      rw [unprotected_of_guardAsset passed] at protection
      cases protection

/-- A request to change an asset is answered by the failure that stops it. -/
theorem respond_of_stopped {request : Request} {resource : Resource} {failure : Failure} {now : σ}
    (led : request.route = .serve resource true) (changes : resource.access = .change)
    (stops : serve service resource request now = (.error failure, now)) :
    respond service request now = (.ofFailure failure, now) := by
  apply Prod.ext
  · rw [respond_fst_of_serve service led (by rintro rfl; cases changes), stops]
    rfl
  · rw [respond_snd_of_serve service led, stops]

/-- A request to change a protected asset is answered from the inventory and the body alone: the
answer is the same for all hosts and credentials, and the hosts are left as they are. -/
theorem respond_of_protected {request : Request} {asset : Asset}
    (changes : request.route.changes? = some name) (found : service.findAsset name = .ok asset)
    (protection : asset.deepFreeze = true) :
    ∃ response, ∀ (τ : Type) (hosts : String → Transport τ) (resolver : Credential.Resolver)
      (now : τ), respond ⟨service.inventory, resolver, hosts, service.now⟩ request now =
        (response, now) := by
  have same {τ : Type} (hosts : String → Transport τ) (resolver : Credential.Resolver) :
      (⟨service.inventory, resolver, hosts, service.now⟩ : Service τ).inventory =
        service.inventory := rfl
  cases led : request.route with
  | serve resource withBody =>
      rw [led] at changes
      have accessed : resource.access = .change := by
        cases resource <;> first | rfl | cases changes
      obtain ⟨_, rfl⟩ := post_of_change led accessed
      -- Each route plans its change before it uses a host, and no plan passes the guard.
      cases resource with
      | installation other =>
          cases changes
          obtain ⟨failure, stops⟩ := order_stops_of_protected service found protection
            fun _ planned => ⟨_, (installation_planned service planned).found,
              (installation_planned service planned).guarded⟩
          refine ⟨.ofFailure failure, fun τ hosts resolver now => ?_⟩
          apply respond_of_stopped _ led accessed
          rw [serve, installUpdates, installationOrder_congr service (same hosts resolver), stops]
          rfl
      | upgrade other =>
          cases changes
          obtain ⟨failure, stops⟩ := order_stops_of_protected service found protection
            fun _ planned => ⟨_, (upgrade_planned service planned).found,
              (upgrade_planned service planned).guarded⟩
          refine ⟨.ofFailure failure, fun τ hosts resolver now => ?_⟩
          apply respond_of_stopped _ led accessed
          rw [serve, upgradePackages, upgradeOrder_congr service (same hosts resolver), stops]
          rfl
      | reboot other =>
          cases changes
          obtain ⟨failure, stops⟩ := order_stops_of_protected service found protection
            fun _ planned => ⟨_, (reboot_planned service planned).found,
              (reboot_planned service planned).guarded⟩
          refine ⟨.ofFailure failure, fun τ hosts resolver now => ?_⟩
          apply respond_of_stopped _ led accessed
          rw [serve, rebootAsset, rebootOrder_congr service (same hosts resolver), stops]
          rfl
      | _ => cases accessed
  | tellMethods | moved | notAllowed | notFound =>
      rw [led] at changes
      cases changes

end Protection

def OnUnprotected (service : Service σ) (name : String) (execution : Execution) : Prop :=
  ∃ asset, service.findAsset name = .ok asset ∧ asset.deepFreeze = false ∧
    execution.host = asset.hostname.text

/-- What is sent on a request: something that observes, or the one change that its route is for. -/
inductive Sent (service : Service σ) (request : Request) (history : History)
    (execution : Execution) : Prop where
  | observing (observes : execution.command ∈ observingCommands)
  | installing (name : String) (led : request.route = .serve (.installation name) true)
      (installs : IsInstallScript execution.command)
      (unprotected : OnUnprotected service name execution)
      (cleared : ClearedChange history .windows execution)
  | upgrading (name : String) (manager : Manager)
      (led : request.route = .serve (.upgrade name) true)
      (upgrades : UpgradesBy manager execution.command)
      (unprotected : OnUnprotected service name execution)
      (cleared : ClearedChange history (.packages manager) execution)
  | restarting (name : String) (led : request.route = .serve (.reboot name) true)
      (restarts : IsRestartCommand execution.command)
      (unprotected : OnUnprotected service name execution)
      (only : history.executions = [execution])

section Sent

variable {service : Service σ} {request : Request} {response : Response} {execution : Execution}

theorem ClearedChange.observes_or_eq {ecosystem : Ecosystem} {change : Execution}
    (cleared : ClearedChange history ecosystem change) (member : execution ∈ history.executions) :
    execution.command ∈ observingCommands ∨ execution = change := by
  obtain ⟨reply, executed⟩ := cleared.executions_eq
  rw [executed] at member
  rcases List.mem_cons.mp member with check | last
  · rw [check]
    exact .inl (rebootCheck_observes ecosystem)
  · exact .inr (List.mem_singleton.mp last)

theorem sent_of_told (told : RequestTold service request history response)
    (member : execution ∈ history.executions) : Sent service request history execution := by
  cases told with
  | observed _ _ _ observed => exact .observing (executions_of_observes observed execution member)
  | installation name _ outcome led tells =>
      rcases installation_cases tells with
        checks | ⟨asset, kbIds, change, _, planned, cleared, host, ordered, _, _⟩
      · exact .observing (checks execution member)
      rcases cleared.observes_or_eq member with observes | rfl
      · exact .observing observes
      · have passed := installation_planned service planned
        exact .installing name led (isInstallScript_of_order ordered)
          ⟨asset, passed.found, unprotected_of_guardAsset passed.guarded, host⟩ cleared
  | upgrade name _ outcome led tells =>
      rcases upgrade_cases tells with
        checks | ⟨asset, names, manager, change, _, planned, cleared, host, ordered, _, _⟩
      · exact .observing (checks execution member)
      rcases cleared.observes_or_eq member with observes | rfl
      · exact .observing observes
      · have passed := upgrade_planned service planned
        exact .upgrading name manager led (upgradesBy_of_order ordered)
          ⟨asset, passed.found, unprotected_of_guardAsset passed.guarded, host⟩ cleared
  | reboot name _ outcome led tells =>
      rcases reboot_cases tells with
        nothing | ⟨asset, _, ecosystem, change, _, planned, only, host, restarts, _, _⟩
      · rw [nothing] at member
        cases member
      have same : execution = change := by
        rw [only] at member
        exact List.mem_singleton.mp member
      cases same
      have passed := reboot_planned service planned
      exact .restarting name led ⟨ecosystem, restarts⟩
        ⟨asset, passed.found, unprotected_of_guardAsset passed.guarded, host⟩ only

theorem Sent.installation (sent : Sent service request history execution)
    (installs : IsInstallScript execution.command) :
    ∃ name, request.route = .serve (.installation name) true ∧
      OnUnprotected service name execution ∧ ClearedChange history .windows execution := by
  cases sent with
  | observing observes => exact absurd installs (observing_not_install observes)
  | installing name led _ unprotected cleared => exact ⟨name, led, unprotected, cleared⟩
  | upgrading _ manager _ upgrades =>
      exact absurd ⟨manager, upgrades⟩ (install_not_upgrade installs)
  | restarting _ _ restarts => exact absurd restarts (install_not_restart installs)

theorem Sent.upgrade (sent : Sent service request history execution)
    (upgrades : IsUpgradeCommand execution.command) :
    ∃ name manager, request.route = .serve (.upgrade name) true ∧
      UpgradesBy manager execution.command ∧
      OnUnprotected service name execution ∧
      ClearedChange history (.packages manager) execution := by
  cases sent with
  | observing observes => exact absurd upgrades (observing_not_upgrade observes)
  | installing _ _ installs => exact absurd upgrades (install_not_upgrade installs)
  | upgrading name manager led command unprotected cleared =>
      exact ⟨name, manager, led, command, unprotected, cleared⟩
  | restarting _ _ restarts => exact absurd restarts (upgrade_not_restart upgrades)

theorem Sent.restart (sent : Sent service request history execution)
    (restarts : IsRestartCommand execution.command) :
    ∃ name, request.route = .serve (.reboot name) true ∧ OnUnprotected service name execution ∧
      history.executions = [execution] := by
  cases sent with
  | observing observes => exact absurd restarts (observing_not_restart observes)
  | installing _ _ installs => exact absurd restarts (install_not_restart installs)
  | upgrading _ manager _ upgrades =>
      exact absurd restarts (upgrade_not_restart ⟨manager, upgrades⟩)
  | restarting name led _ unprotected only => exact ⟨name, led, unprotected, only⟩

theorem Sent.observes (sent : Sent service request history execution)
    (unchanging : request.route.changes? = none) : execution.command ∈ observingCommands := by
  cases sent with
  | observing observes => exact observes
  | installing _ led | upgrading _ _ led | restarting _ led =>
      rw [led] at unchanging
      cases unchanging

end Sent

/-- On every request, for every inventory and however the hosts behave: a request to change a
protected asset sends nothing and is answered without any host; a change is sent only by the route
that is there for it, once, to an unprotected asset, and updates and upgrades are sent right behind
a check on the same visit that found no restart pending; every other request only observes. -/
theorem changes_are_guarded (service : Service σ) (request : Request) (now : σ) :
    (∀ name inventory asset, request.route.changes? = some name →
      service.inventory = .ok inventory → inventory.find? (.str name) = some asset →
      asset.deepFreeze = true →
        service.history request now = [] ∧
        ∃ response, ∀ (τ : Type) (hosts : String → Transport τ) (resolver : Credential.Resolver)
          (now : τ), respond ⟨service.inventory, resolver, hosts, service.now⟩ request now =
            (response, now)) ∧
    (∀ change ∈ (service.history request now).executions, IsInstallScript change.command →
      request.method = "POST" ∧ ∃ name, request.route = .serve (.installation name) true ∧
        OnUnprotected service name change ∧
        ClearedChange (service.history request now) .windows change) ∧
    (∀ change ∈ (service.history request now).executions, IsUpgradeCommand change.command →
      request.method = "POST" ∧ ∃ name manager, request.route = .serve (.upgrade name) true ∧
        UpgradesBy manager change.command ∧
        OnUnprotected service name change ∧
        ClearedChange (service.history request now) (.packages manager) change) ∧
    (∀ change ∈ (service.history request now).executions, IsRestartCommand change.command →
      request.method = "POST" ∧ ∃ name, request.route = .serve (.reboot name) true ∧
        OnUnprotected service name change ∧
        (service.history request now).executions = [change]) ∧
    (request.route.changes? = none →
      ∀ execution ∈ (service.history request now).executions,
        execution.command ∈ observingCommands) := by
  have sent {execution : Execution}
      (member : execution ∈ (service.history request now).executions) :
      Sent service request (service.history request now) execution :=
    sent_of_told (request_told service request now) member
  refine ⟨?_, ?_, ?_, ?_, ?_⟩
  · intro name inventory asset changes loaded found protection
    obtain ⟨response, answers⟩ :=
      respond_of_protected service changes (findAsset_ok service loaded found) protection
    refine ⟨?_, response, answers⟩
    have answered : respond service.recorded request ([], now) = (response, [], now) :=
      answers _ service.recorded.hosts service.resolver _
    rw [Service.history, answered]
  · intro change member installs
    obtain ⟨name, led, rest⟩ := (sent member).installation installs
    exact ⟨(post_of_change led rfl).1, name, led, rest⟩
  · intro change member upgrades
    obtain ⟨name, manager, led, rest⟩ := (sent member).upgrade upgrades
    exact ⟨(post_of_change led rfl).1, name, manager, led, rest⟩
  · intro change member restarts
    obtain ⟨name, led, rest⟩ := (sent member).restart restarts
    exact ⟨(post_of_change led rfl).1, name, led, rest⟩
  · intro unchanging execution member
    exact (sent member).observes unchanging

end FleetPatch.Web
