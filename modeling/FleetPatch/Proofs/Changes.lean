import FleetPatch.Proofs.Commands
import FleetPatch.Proofs.Requests

/-!
# What changing requests tell

A request to change a host is planned from the inventory and the body alone. What
is planned is one command, which is done on a visit to one host.
-/

namespace FleetPatch.Web

set_option autoImplicit false

open Windows

variable {σ : Type} (service : Service σ)

def installCommand (kbIds : Json) : Except Failure String :=
  (UpdateExecutor.actionScript .install kbIds).mapError changeFailure

def upgradeCommand : Ecosystem → Option (List Json) → Except Failure String
  | .windows, _ => .error (.fault .unsupportedOperation)
  | .packages manager, none => .ok manager.upgradeAllCommand
  | .packages manager, some entries =>
      ((PackageExecutor.packageNames (.arr entries)).map manager.upgradeCommand).mapError
        changeFailure

def upgradeResult : Ecosystem → Reply → Except Fault UpgradeResult
  | .windows, _ => .error .unsupportedOperation
  | .packages manager, reply => manager.upgradeResult reply

def InstallationTold (name : String) (body : List UInt8) : Told Failure Json :=
  .given (installationOrder service name body) fun (asset, kbIds) =>
    .map (fun result => resultJson asset result.members)
      (.given (service.endpoint asset) fun _ =>
        Visited asset.hostname.text (Guarded asset.hostname.text .windows asset "update"
          (installCommand kbIds) (UpdateExecutor.resultOf .install)))

def UpgradeTold (name : String) (body : List UInt8) : Told Failure Json :=
  .given (upgradeOrder service name body) fun (asset, names) =>
    .map (fun result => resultJson asset result.members)
      (.given (service.endpoint asset) fun _ =>
        Visited asset.hostname.text (.given (requiredEcosystem asset) fun ecosystem =>
          Guarded asset.hostname.text ecosystem asset "upgrade" (upgradeCommand ecosystem names)
            (upgradeResult ecosystem)))

inductive Restarted (host : String) (ecosystem : Ecosystem) : Told Fault RebootRequest where
  | answered (exchanges : History) (answer : Except Fault Reply)
      (executed : Executed host ecosystem.restartCommand exchanges answer) :
      Restarted host ecosystem exchanges
        (RebootRequest.ofAnswer ecosystem.label ecosystem.restartCommand answer)

def RebootTold (name : String) : Told Failure Json :=
  .given (rebootOrder service name) fun (asset, ecosystemName) =>
    .map (fun request => resultJson asset
        (("deep_freeze", .bool asset.deepFreeze) :: request.members))
      (.given (service.endpoint asset) fun _ =>
        Visited asset.hostname.text (.mapFault .fault
          (.given (Ecosystem.ofJson (.str ecosystemName)) (Restarted asset.hostname.text))))

theorem unprotected_of_guardAsset {asset : Asset} {action : String}
    (passed : guardAsset asset action = .ok ()) : asset.deepFreeze = false := by
  cases guarded : asset.deepFreeze with
  | false => rfl
  | true =>
      have refused : guardAsset asset action =
          .error (.fault (.denied (Guard.protectedReason asset action))) := by
        simp only [guardAsset, Guard.protection, guarded, if_true]
        rfl
      rw [refused] at passed
      cases passed

structure InstallationPlanned (name : String) (body : List UInt8) (asset : Asset) (kbIds : Json) :
    Prop where
  found : service.findAsset name = .ok asset
  windows : requireWindows asset = .ok ()
  guarded : guardAsset asset "update" = .ok ()
  listed : ∃ members entries, bodyMembers body = .ok members ∧
    listed? "kb_numbers" members = .ok entries ∧ kbIds = (entries.map Json.arr).getD .null

theorem installation_planned {name : String} {body : List UInt8} {asset : Asset} {kbIds : Json}
    (planned : installationOrder service name body = .ok (asset, kbIds)) :
    InstallationPlanned service name body asset kbIds := by
  obtain ⟨found, finds, planned⟩ := exists_of_bind_ok planned
  obtain ⟨_, windows, planned⟩ := exists_of_bind_ok planned
  obtain ⟨_, guarded, planned⟩ := exists_of_bind_ok planned
  obtain ⟨members, reads, planned⟩ := exists_of_bind_ok planned
  obtain ⟨entries, lists, planned⟩ := exists_of_bind_ok planned
  obtain ⟨rfl, rfl⟩ := Prod.mk.inj (Except.ok.inj planned)
  exact ⟨finds, windows, guarded, members, entries, reads, lists, rfl⟩

structure UpgradePlanned (name : String) (body : List UInt8) (asset : Asset)
    (names : Option (List Json)) : Prop where
  found : service.findAsset name = .ok asset
  linux : requireLinux asset = .ok ()
  guarded : guardAsset asset "upgrade" = .ok ()
  listed : ∃ members, bodyMembers body = .ok members ∧ listedNames? members = .ok names

theorem upgrade_planned {name : String} {body : List UInt8} {asset : Asset}
    {names : Option (List Json)} (planned : upgradeOrder service name body = .ok (asset, names)) :
    UpgradePlanned service name body asset names := by
  obtain ⟨found, finds, planned⟩ := exists_of_bind_ok planned
  obtain ⟨_, linux, planned⟩ := exists_of_bind_ok planned
  obtain ⟨_, guarded, planned⟩ := exists_of_bind_ok planned
  obtain ⟨members, reads, planned⟩ := exists_of_bind_ok planned
  obtain ⟨entries, lists, planned⟩ := exists_of_bind_ok planned
  obtain ⟨rfl, rfl⟩ := Prod.mk.inj (Except.ok.inj planned)
  exact ⟨finds, linux, guarded, members, reads, lists⟩

structure RebootPlanned (name : String) (asset : Asset) (ecosystemName : String) : Prop where
  found : service.findAsset name = .ok asset
  named : requireEcosystem asset = .ok ecosystemName
  guarded : guardAsset asset "reboot" = .ok ()

theorem reboot_planned {name : String} {asset : Asset} {ecosystemName : String}
    (planned : rebootOrder service name = .ok (asset, ecosystemName)) :
    RebootPlanned service name asset ecosystemName := by
  obtain ⟨found, finds, planned⟩ := exists_of_bind_ok planned
  obtain ⟨named, names, planned⟩ := exists_of_bind_ok planned
  obtain ⟨_, guarded, planned⟩ := exists_of_bind_ok planned
  obtain ⟨rfl, rfl⟩ := Prod.mk.inj (Except.ok.inj planned)
  exact ⟨finds, names, guarded⟩

theorem records_change {α : Type} (host : String) (planned : Except Fault String)
    (read : Reply → Except Fault α) :
    Records (Run.mapFault changeFailure (Run.lift planned >>= fun command =>
        (service.recorded.hosts host).ask command read))
      (.given (planned.mapError changeFailure) fun command =>
        (Asked host command read).mapFault changeFailure) := by
  have asks : Records (Run.lift planned >>= fun command =>
      (service.recorded.hosts host).ask command read)
      (.given planned fun command => Asked host command read) :=
    Run.logs_given fun command _ => records_ask host (service.hosts host) command read
  apply (asks.mapFault changeFailure).mono
  intro exchanges outcome tells
  cases planned with
  | ok command => exact tells
  | error fault =>
      cases tells with
      | changed _ _ quiet =>
          obtain ⟨rfl, rfl⟩ := quiet
          exact ⟨rfl, rfl⟩

/-- An action that starts without a search result is its script and the reading of the reply. -/
theorem withFresh_act (host : Transport σ) (action : Action) (kbIds : Json) :
    Run.withFresh none (UpdateExecutor.act host action kbIds) =
      Run.lift (UpdateExecutor.actionScript action kbIds) >>=
        fun script => host.ask script (UpdateExecutor.resultOf action) := by
  funext now
  simp only [Run.withFresh, UpdateExecutor.act]
  cases ordered : UpdateExecutor.actionScript action kbIds with
  | error fault => rfl
  | ok script =>
      have lifted {κ : Type} (state : κ) : (Run.lift (.ok script) : Run Fault κ String) state =
        (.ok script, state) := rfl
      rw [Run.bind_apply_ok (lifted _), Run.bind_apply_ok (lifted _)]
      rcases asked : host.ask script (UpdateExecutor.resultOf action) now with ⟨outcome, after⟩
      have second : Run.second (host.ask script (UpdateExecutor.resultOf action))
          ((none : UpdateExecutor.Cache), now) = (outcome, (none, after)) := by
        simp only [Run.second, asked]
      cases outcome with
      | error fault => rw [Run.bind_apply_error second]
      | ok result =>
          rw [Run.bind_apply_ok second]
          rfl

theorem records_installOn {asset : Asset} (unprotected : asset.deepFreeze = false)
    (kbIds : Json) :
    Records (installOn asset kbIds (service.recorded.hosts asset.hostname.text))
      (Guarded asset.hostname.text .windows asset "update" (installCommand kbIds)
        (UpdateExecutor.resultOf .install)) := by
  apply records_guarded .windows unprotected
  rw [withFresh_act]
  exact records_change service _ _ _

theorem upgrade_eq_ask (host : Transport σ) (manager : Manager) (value : Json) :
    PackageExecutor.upgrade host manager value =
      Run.lift ((PackageExecutor.packageNames value).map manager.upgradeCommand) >>=
        fun command => host.ask command manager.upgradeResult := by
  simp only [PackageExecutor.upgrade]
  cases PackageExecutor.packageNames value <;> rfl

theorem records_upgradeOn {asset : Asset} (unprotected : asset.deepFreeze = false)
    (names : Option (List Json)) :
    Records (upgradeOn asset names (service.recorded.hosts asset.hostname.text))
      (.given (requiredEcosystem asset) fun ecosystem =>
        Guarded asset.hostname.text ecosystem asset "upgrade" (upgradeCommand ecosystem names)
          (upgradeResult ecosystem)) := by
  apply Run.logs_given
  intro ecosystem _
  apply records_guarded ecosystem unprotected
  cases ecosystem with
  | windows => exact Run.logs_fail _
  | packages manager =>
      cases names with
      | none => exact records_change service _ (.ok manager.upgradeAllCommand) _
      | some entries =>
          dsimp only
          rw [upgrade_eq_ask]
          exact records_change service _ _ _

theorem records_reboot (host : String) (ecosystem : Ecosystem) :
    Records (ecosystem.reboot (service.recorded.hosts host)) (Restarted host ecosystem) := by
  rw [ecosystem.reboot_eq_requestReboot]
  intro now
  obtain ⟨exchanges, appended, executed⟩ :=
    records_execute host (service.hosts host) ecosystem.restartCommand now
  exact ⟨exchanges, appended, .answered _ _ executed⟩

theorem records_rebootOn (host ecosystemName : String) :
    Records (onHosts (rebootOn ecosystemName (service.recorded.hosts host)))
      (.mapFault .fault (.given (Ecosystem.ofJson (.str ecosystemName)) (Restarted host))) := by
  refine Run.Logs.mapFault _ (Run.logs_given fun ecosystem _ => ?_)
  exact records_reboot service host ecosystem

section Congruence

variable {τ : Type} {other : Service τ} (same : other.inventory = service.inventory) (name : String)
  (body : List UInt8)

include same

theorem installationOrder_congr :
    installationOrder other name body = installationOrder service name body := by
  rw [installationOrder, installationOrder, findAsset_congr same]

theorem upgradeOrder_congr : upgradeOrder other name body = upgradeOrder service name body := by
  rw [upgradeOrder, upgradeOrder, findAsset_congr same]

theorem rebootOrder_congr : rebootOrder other name = rebootOrder service name := by
  rw [rebootOrder, rebootOrder, findAsset_congr same]

end Congruence

theorem records_installUpdates (name : String) (body : List UInt8) :
    Records (installUpdates service.recorded name body) (InstallationTold service name body) := by
  rw [installUpdates, installationOrder_congr service (recorded_inventory service)]
  apply Run.logs_given
  intro (asset, kbIds) planned
  have unprotected := unprotected_of_guardAsset (installation_planned service planned).guarded
  exact (records_withTransport service asset (installOn asset kbIds)
    (records_installOn service unprotected kbIds)).map _

theorem records_upgradePackages (name : String) (body : List UInt8) :
    Records (upgradePackages service.recorded name body) (UpgradeTold service name body) := by
  rw [upgradePackages, upgradeOrder_congr service (recorded_inventory service)]
  apply Run.logs_given
  intro (asset, names) planned
  have unprotected := unprotected_of_guardAsset (upgrade_planned service planned).guarded
  exact (records_withTransport service asset (upgradeOn asset names)
    (records_upgradeOn service unprotected names)).map _

theorem records_rebootAsset (name : String) :
    Records (rebootAsset service.recorded name) (RebootTold service name) := by
  rw [rebootAsset, rebootOrder_congr service (recorded_inventory service)]
  apply Run.logs_given
  intro (asset, ecosystemName) _
  exact (records_withTransport service asset (fun host => onHosts (rebootOn ecosystemName host))
    (records_rebootOn service asset.hostname.text ecosystemName)).map _

end FleetPatch.Web
