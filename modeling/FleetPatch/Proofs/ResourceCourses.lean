import FleetPatch.Proofs.Courses
import FleetPatch.Proofs.Answers
import FleetPatch.Proofs.Comparisons

/-!
# Courses of resources

What a request for a resource does is a course that depends on the inventory and
the request alone. Each check before a visit, each command with the reading of its
answer and each refusal is a step of its own. Carrying out the course is serving the
resource, but for the status of an asset, whose failures are told.
-/

namespace FleetPatch.Web

set_option autoImplicit false

open Windows

variable {σ α β : Type}

namespace Course

def planning (computed : Except Failure α) : Course α := .compute .passed computed

def ask (handling : Handling) (host command : String) (read : Reply → Except Fault α) :
    Course α := do
  let answer ← .execute host command handling
  .compute handling (computing (answer.bind read))

def guarding (asset : Asset) (action : String) (ecosystem : Ecosystem) (host : String) :
    Course Unit := do
  planning (guardAsset asset action)
  let pending ← ask .passed host ecosystem.rebootCheck ecosystem.pendingOf
  planning (computing (Guard.clearance asset action pending).outcome)

def listing (asset : Asset) (ecosystemName host : String) : Course Json := do
  match ← planning (computing (Ecosystem.ofJson (.str ecosystemName))) with
  | .windows => do
      unless ← planning (computing asset.isWindows) do
        planning (.error (.fault .unsupportedOperation))
      let updates ← ask .passed host installedUpdatesScript UpdateQuery.installedOf
      pure (updatesJson asset updates)
  | .packages manager => do
      let upgradable ← ask .passed host manager.upgradableCommand fun reply =>
        .ok (manager.upgradable (reply.stdout.getD ""))
      let installed ← ask .passed host manager.installedCommand (PackageQuery.installedOf manager)
      pure (packagesJson asset ecosystemName installed upgradable)

def comparing (firstName secondName first second : String) : Course (Comparison String) := do
  let left ← planning (computing (Ecosystem.ofJson (.str firstName)))
  let right ← planning (computing (Ecosystem.ofJson (.str secondName)))
  let firstKeys ← ask .passed first left.listingCommand left.keysOf
  let secondKeys ← ask .passed second right.listingCommand right.keysOf
  pure (Comparison.ofKeys firstKeys secondKeys)

def searching (host : String) : Course (List AvailableUpdate × Bool) := do
  let updates ← ask .passed host searchScript UpdateExecutor.found
  let pending ← ask .passed host rebootCheckScript UpdateExecutor.pendingOf
  pure (updates, pending)

def checking (ecosystemName host : String) : Course Bool := do
  let ecosystem ← planning (computing (Ecosystem.ofJson (.str ecosystemName)))
  ask .passed host ecosystem.rebootCheck ecosystem.pendingOf

def changing (host : String) (planned : Except Fault String) (read : Reply → Except Fault α) :
    Course α := do
  let command ← .compute .blamed (computing planned)
  ask .blamed host command read

def installing (asset : Asset) (kbIds : Json) (host : String) : Course Installation := do
  guarding asset "update" .windows host
  changing host (UpdateExecutor.actionScript .install kbIds) (UpdateExecutor.resultOf .install)

def upgradeOrdered (manager : Manager) : Option (List Json) → Except Fault String
  | none => .ok manager.upgradeAllCommand
  | some entries => (PackageExecutor.packageNames (.arr entries)).map manager.upgradeCommand

def upgrading (asset : Asset) (names : Option (List Json)) (host : String) :
    Course UpgradeResult := do
  let ecosystem ← planning (requiredEcosystem asset)
  guarding asset "upgrade" ecosystem host
  match ecosystem with
  | .windows => planning (.error (.fault .unsupportedOperation))
  | .packages manager => changing host (upgradeOrdered manager names) manager.upgradeResult

def restarting (ecosystemName host : String) : Course RebootRequest := do
  let ecosystem ← planning (computing (Ecosystem.ofJson (.str ecosystemName)))
  let answer ← .execute host ecosystem.restartCommand .awaited
  planning (computing (RebootRequest.ofAnswer ecosystem.label ecosystem.restartCommand answer))

end Course

namespace Service

open Course

variable (service : Service σ)

def visiting (asset : Asset) (work : String → Course α) : Course α := do
  let _ ← planning (service.endpoint asset)
  .visit asset.hostname.text (work asset.hostname.text)

def probing (asset : Asset) : Course Json := do
  let reply ← service.visiting asset fun host => ask .passed host probeCommand .ok
  pure (.obj (statusMembers asset (if reply.succeeded then "online" else "offline")))

def course (request : Request) : Resource → Course Json
  | .health => pure (.obj [("status", .str "ok"), ("timestamp", .str service.now)])
  | .inventory => do
      let inventory ← planning (computing service.inventory)
      let assets := inventory.assets.map fun asset => Json.obj asset.members
      pure (.obj [("assets", .arr assets), ("count", .int assets.length)])
  | .comparison => do
      let order ← planning (comparisonOrder service (request.target.value? "asset1")
        (request.target.value? "asset2"))
      let comparison ← service.visiting order.first fun first =>
        service.visiting order.second fun second =>
          comparing order.firstEcosystem order.secondEcosystem first second
      pure (comparisonJson order.first order.second order.sort comparison)
  | .asset name => do
      let asset ← planning (service.findAsset name)
      pure (.obj asset.members)
  | .status name => do
      let asset ← planning (service.findAsset name)
      service.probing asset
  | .updates name => do
      let asset ← planning (service.findAsset name)
      let ecosystemName ← planning (requireEcosystem asset)
      service.visiting asset (listing asset ecosystemName)
  | .availableUpdates name => do
      let asset ← planning (service.findAsset name)
      planning (requireWindows asset)
      let (updates, pending) ← service.visiting asset searching
      planning (computing (availableJson asset updates pending))
  | .installation name => do
      let asset ← planning (service.findAsset name)
      planning (requireWindows asset)
      planning (guardAsset asset "update")
      let members ← planning (bodyMembers request.body)
      let kbIds ← planning (listed? "kb_numbers" members)
      let result ← service.visiting asset (installing asset ((kbIds.map Json.arr).getD .null))
      pure (resultJson asset result.members)
  | .upgrade name => do
      let asset ← planning (service.findAsset name)
      planning (requireLinux asset)
      planning (guardAsset asset "upgrade")
      let members ← planning (bodyMembers request.body)
      let names ← planning (listedNames? members)
      let result ← service.visiting asset (upgrading asset names)
      pure (resultJson asset result.members)
  | .rebootStatus name => do
      let asset ← planning (service.findAsset name)
      let ecosystemName ← planning (requireEcosystem asset)
      let pending ← service.visiting asset (checking ecosystemName)
      pure (.obj ([("asset", asset.hostname), ("reboot_required", .bool pending)] ++
        if asset.deepFreeze then [("deep_freeze", .bool true)] else []))
  | .reboot name => do
      let asset ← planning (service.findAsset name)
      let ecosystemName ← planning (requireEcosystem asset)
      planning (guardAsset asset "reboot")
      let request ← service.visiting asset (restarting ecosystemName)
      pure (resultJson asset (("deep_freeze", .bool asset.deepFreeze) :: request.members))
  | .file => planning (refuse 404 "Not found")

end Service

section Runs

variable {hosts : String → Transport σ}

theorem onHosts_bind (run : Run Fault σ α) (next : α → Run Fault σ β) :
    onHosts (run >>= next) = onHosts run >>= fun value => onHosts (next value) :=
  Run.mapFault_bind Failure.fault run next

theorem onHosts_lift (computed : Except Fault α) :
    (onHosts (Run.lift computed) : Step σ α) = Run.lift (computing computed) :=
  Run.mapFault_lift Failure.fault computed

theorem withFresh_fetch (host : Transport σ) :
    Run.withFresh none (UpdateQuery.fetch host false) = UpdateQuery.listing host := by
  rw [← bind_pure (UpdateQuery.fetch host false), UpdateQuery.fetch, withFresh_cached_bind rfl]
  exact bind_pure _

theorem withFresh_listings (host : Transport σ) (manager : Manager)
    (change : List Package → List Package → β) :
    Run.withFresh .empty (do
      let upgradable ← PackageQuery.upgradable host manager false
      let installed ← PackageQuery.installed host manager false
      pure (change upgradable installed)) = (do
      let upgradable ← PackageQuery.upgradableListing host manager
      let installed ← PackageQuery.installedListing host manager
      pure (change upgradable installed)) := by
  rw [PackageQuery.upgradable, withFresh_cached_bind rfl]
  congr 1
  funext upgradable
  exact withFresh_cached_bind rfl _ _

namespace Course

theorem run_bind (first : Course α) (next : α → Course β) :
    (first >>= next).run hosts = first.run hosts >>= fun value => (next value).run hosts := rfl

theorem run_pure (value : α) : (pure value : Course α).run hosts = pure value := rfl

theorem run_planning (computed : Except Failure α) :
    (planning computed).run hosts = Run.lift computed := by
  rcases computed with failure | value
  · cases failure <;> rfl
  · rfl

theorem run_ask {handling : Handling} {change : Fault → Failure}
    (handles : ∀ fault, handling.failure? fault = some (change fault)) (host command : String)
    (read : Reply → Except Fault α) :
    (ask handling host command read).run hosts =
      Run.mapFault change ((hosts host).ask command read) := by
  funext now
  rcases executed : (hosts host).execute command now with ⟨answer, after⟩
  have carried : (execute host command handling).run hosts now =
      (handling.resolve answer, after) := by
    rw [run_execute, executed]
  rw [Run.mapFault_apply, Transport.ask, ask, run_bind]
  cases answer with
  | error fault =>
      have stopped : handling.resolve (.error fault) = .error (change fault) := by
        rw [Handling.resolve, handles]
      rw [stopped] at carried
      rw [Run.bind_apply_error carried, Run.bind_apply_error executed]
      rfl
  | ok reply =>
      rw [Run.bind_apply_ok carried, Run.bind_apply_ok executed]
      simp only [run, Run.lift_apply, Except.bind]
      cases read reply with
      | ok value => rfl
      | error fault =>
          have told : handling.told (.fault fault) = change fault := by
            rw [Handling.told, handles, Option.getD_some]
          change (Except.error (handling.told (.fault fault)), after) =
            (.error (change fault), after)
          rw [told]

theorem run_ask_passed (host command : String) (read : Reply → Except Fault α) :
    (ask .passed host command read).run hosts = onHosts ((hosts host).ask command read) :=
  run_ask (fun _ => rfl) host command read

theorem run_ask_blamed (host command : String) (read : Reply → Except Fault α) :
    (ask .blamed host command read).run hosts =
      Run.mapFault changeFailure ((hosts host).ask command read) :=
  run_ask (fun _ => rfl) host command read

theorem run_guarding (asset : Asset) (action : String) (ecosystem : Ecosystem) (host : String) :
    (guarding asset action ecosystem host).run hosts =
      onHosts (Guard.enforce asset action (some (ecosystem.rebootRequired (hosts host)))) := by
  simp only [guarding, run_bind, run_planning, run_ask_passed, ← ecosystem.rebootRequired_eq_ask,
    guardAsset, Guard.enforce, Guard.check]
  cases Guard.protection asset action with
  | refused reason => rfl
  | allowed =>
      simp only [bind_assoc, pure_bind, onHosts_bind, onHosts_lift]
      rfl

theorem run_changing (host : String) (planned : Except Fault String)
    (read : Reply → Except Fault α) :
    (changing host planned read).run hosts =
      Run.mapFault changeFailure (Run.lift planned >>= fun command =>
        (hosts host).ask command read) := by
  simp only [changing, run_bind, run_ask_blamed, Run.mapFault_bind, Run.mapFault_lift]
  congr 1
  cases planned <;> rfl

theorem run_listing (asset : Asset) (ecosystemName host : String) :
    (listing asset ecosystemName host).run hosts =
      onHosts (listHost asset ecosystemName (hosts host)) := by
  simp only [listing, run_bind, run_planning, listHost, onHosts_bind, onHosts_lift]
  congr 1
  funext ecosystem
  cases ecosystem with
  | windows =>
      dsimp only
      rw [withFresh_fetch]
      simp only [run_bind, run_planning, onHosts_bind, onHosts_lift]
      congr 1
      funext windows
      cases windows with
      | true =>
          rw [if_pos rfl, if_pos rfl, run_bind, run_ask_passed, onHosts_bind]
          rfl
      | false =>
          rw [if_neg Bool.false_ne_true, if_neg Bool.false_ne_true]
          rfl
  | packages manager =>
      dsimp only
      rw [withFresh_listings]
      simp only [run_bind, run_ask_passed, onHosts_bind]
      rfl

theorem run_comparing (firstName secondName first second : String) :
    (comparing firstName secondName first second).run hosts =
      onHosts (compareHosts firstName secondName (hosts first) (hosts second)) := by
  simp only [comparing, run_bind, run_planning, run_ask_passed, compareHosts, Comparison.ofRuns,
    keys_eq_ask, onHosts_bind, onHosts_lift]
  rfl

theorem run_searching (host : String) :
    (searching host).run hosts = onHosts (do
      let updates ← UpdateExecutor.search (hosts host)
      let pending ← UpdateExecutor.rebootRequired (hosts host)
      pure (updates, pending)) := by
  simp only [searching, run_bind, run_ask_passed, onHosts_bind]
  rfl

theorem run_checking (ecosystemName host : String) :
    (checking ecosystemName host).run hosts = onHosts (do
      let ecosystem ← Run.lift (Ecosystem.ofJson (.str ecosystemName))
      ecosystem.rebootRequired (hosts host)) := by
  simp only [checking, run_bind, run_planning, run_ask_passed, ← Ecosystem.rebootRequired_eq_ask,
    onHosts_bind, onHosts_lift]

theorem run_installing (asset : Asset) (kbIds : Json) (host : String) :
    (installing asset kbIds host).run hosts = installOn asset kbIds (hosts host) := by
  simp only [installing, run_bind, run_guarding, run_changing, installOn, withFresh_act]
  rfl

theorem run_upgrading (asset : Asset) (names : Option (List Json)) (host : String) :
    (upgrading asset names host).run hosts = upgradeOn asset names (hosts host) := by
  simp only [upgrading, run_bind, run_planning, run_guarding, upgradeOn]
  congr 1
  funext ecosystem
  congr 1
  funext _
  cases ecosystem with
  | windows => rw [run_planning]; rfl
  | packages manager =>
      dsimp only
      rw [run_changing]
      cases names with
      | none => rfl
      | some entries =>
          dsimp only
          rw [upgrade_eq_ask]
          rfl

theorem run_restarting (ecosystemName host : String) :
    (restarting ecosystemName host).run hosts = onHosts (rebootOn ecosystemName (hosts host)) := by
  simp only [restarting, rebootOn, run_bind, run_planning, onHosts_bind, onHosts_lift,
    Ecosystem.reboot_eq_requestReboot]
  congr 1
  funext ecosystem now
  rcases executed : (hosts host).execute ecosystem.restartCommand now with ⟨answer, after⟩
  have carried : (execute host ecosystem.restartCommand .awaited).run hosts now =
      (Handling.awaited.resolve answer, after) := by
    rw [run_execute, executed]
  rw [onHosts, Run.mapFault_apply, Transport.requestReboot_apply, executed]
  cases answer with
  | ok reply =>
      rw [Run.bind_apply_ok carried]
      rfl
  | error fault =>
      cases restarts : fault.mayBeRestart with
      | true =>
          rw [Handling.resolve_of_restart restarts] at carried
          rw [Run.bind_apply_ok carried]
          rfl
      | false =>
          rw [Handling.resolve_of_fault restarts] at carried
          rw [Run.bind_apply_error carried]
          simp only [RebootRequest.ofAnswer, restarts, Bool.false_eq_true, if_false]
          rfl

end Course

end Runs

def offline (asset : Asset) (fault : Fault) : Json :=
  .obj (statusMembers asset "offline" ++ [("error", .str fault.message)])

/-- What becomes of a failure once the asset is found whose status was asked for. -/
def excuse (asset : Asset) : Failure → Except Failure Json
  | .fault fault => if fault.isOwn then .ok (offline asset fault) else .error (.fault fault)
  | .refused status message => .error (.refused status message)

namespace Service

open Course

variable (service : Service σ)

theorem run_visiting (asset : Asset) (work : String → Course α) :
    (service.visiting asset work).run service.hosts =
      service.withTransport asset fun _ => (work asset.hostname.text).run service.hosts := by
  simp only [visiting, run_bind, run_planning, withTransport, run]

/-- What the outcome of a course comes to: the status of an asset is told also when it cannot be
reached. -/
def settle (resource : Resource) : Except Failure Json → Except Failure Json
  | .ok body => .ok body
  | .error failure =>
      match resource with
      | .status name =>
          match service.findAsset name with
          | .ok asset => excuse asset failure
          | .error _ => .error failure
      | _ => .error failure

/-- Serving a resource other than a status is carrying out its course. -/
theorem serve_eq_run (request : Request) {resource : Resource}
    (plain : ∀ name, resource ≠ .status name) :
    serve service resource request = (service.course request resource).run service.hosts := by
  cases resource with
  | health => rfl
  | inventory => simp only [serve, readInventory, course, run_bind, run_planning, run_pure]
  | comparison =>
      simp only [serve, readComparison, course]
      rw [run_bind, run_planning]
      congr 1
      funext order
      -- Unfolding both visits at once takes too long, so the inner one is rewritten first.
      rw [run_bind, run_visiting, run_visiting, run_comparing]
      simp only [withTransport, run_pure]
  | asset name => simp only [serve, readAsset, course, run_bind, run_planning, run_pure]
  | status name => exact absurd rfl (plain name)
  | updates name =>
      simp only [serve, readUpdates, course, run_bind, run_planning, run_visiting, run_listing,
        withTransport]
  | availableUpdates name =>
      simp only [serve, readAvailable, course, run_bind, run_planning, run_visiting, run_searching,
        withTransport]
  | installation name =>
      simp only [serve, installUpdates, installationOrder, course, run_bind, run_planning, run_pure,
        run_visiting, run_installing, Run.lift_bind, Run.lift_ok, bind_assoc, pure_bind,
        withTransport]
  | upgrade name =>
      simp only [serve, upgradePackages, upgradeOrder, course, run_bind, run_planning, run_pure,
        run_visiting, run_upgrading, Run.lift_bind, Run.lift_ok, bind_assoc, pure_bind,
        withTransport]
  | rebootStatus name =>
      simp only [serve, readRebootStatus, course, run_bind, run_planning, run_pure, run_visiting,
        run_checking, withTransport]
  | reboot name =>
      simp only [serve, rebootAsset, rebootOrder, course, run_bind, run_planning, run_pure,
        run_visiting, run_restarting, Run.lift_bind, Run.lift_ok, bind_assoc, pure_bind,
        withTransport]
  | file => simp only [serve, course, run_planning]

theorem course_recorded (request : Request) (resource : Resource) :
    service.recorded.course request resource = service.course request resource := by
  cases resource <;> rfl

theorem settle_found {name : String} {asset : Asset} (found : service.findAsset name = .ok asset)
    (failure : Failure) :
    service.settle (.status name) (.error failure) = excuse asset failure := by
  simp only [settle, found]

theorem settle_unfound {resource : Resource}
    (unfound : ∀ name asset, resource = .status name → service.findAsset name ≠ .ok asset)
    (outcome : Except Failure Json) : service.settle resource outcome = outcome := by
  cases outcome with
  | ok body => rfl
  | error failure =>
      cases resource with
      | status name =>
          cases found : service.findAsset name with
          | ok asset => exact absurd found (unfound name asset rfl)
          | error _ => simp only [settle, found]
      | _ => rfl

theorem settle_plain {resource : Resource} (plain : ∀ name, resource ≠ .status name)
    (outcome : Except Failure Json) : service.settle resource outcome = outcome :=
  service.settle_unfound (fun name _ same => absurd same (plain name)) outcome

theorem ask_ok (host : Transport σ) (command : String) :
    host.ask command .ok = host.execute command := bind_pure _

theorem readStatus_eq (name : String) :
    readStatus service name = Run.lift (service.findAsset name) >>= fun asset =>
      Run.orHandle ((service.probing asset).run service.hosts) fun failure =>
        Run.lift (excuse asset failure) := by
  rw [readStatus]
  congr 1
  funext asset
  simp only [probing, run_bind, run_pure, run_visiting, run_ask_passed, ask_ok, withTransport]
  congr 1
  funext failure
  cases failure with
  | refused status message => rfl
  | fault fault =>
      simp only [excuse]
      cases fault.isOwn <;> rfl

theorem serve_apply (request : Request) (resource : Resource) (now : σ) :
    serve service resource request now =
      (service.settle resource ((service.course request resource).run service.hosts now).1,
        ((service.course request resource).run service.hosts now).2) := by
  cases resource with
  | status name =>
      have planned : (service.course request (.status name)).run service.hosts =
          Run.lift (service.findAsset name) >>= fun asset =>
            (service.probing asset).run service.hosts := by
        rw [course, run_bind, run_planning]
      rw [serve, readStatus_eq, planned]
      cases found : service.findAsset name with
      | error failure =>
          rw [Run.bind_apply_error (Run.lift_apply _ now),
            Run.bind_apply_error (Run.lift_apply _ now)]
          simp only [settle, found]
      | ok asset =>
          rw [Run.bind_apply_ok (Run.lift_apply _ now), Run.bind_apply_ok (Run.lift_apply _ now)]
          rcases probed : (service.probing asset).run service.hosts now with ⟨outcome, after⟩
          cases outcome with
          | ok body => rw [Run.orHandle_apply_ok probed, settle]
          | error failure =>
              rw [Run.orHandle_apply_error probed, Run.lift_apply]
              simp only [settle, found]
  | _ => rw [service.serve_eq_run request (by simp), service.settle_plain (by simp)]

end Service

end FleetPatch.Web
