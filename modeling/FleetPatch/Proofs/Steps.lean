import FleetPatch.Proofs.Changes
import FleetPatch.Proofs.Retracing

/-!
# Steps of requests

A request over recorded transports does what it does over the hosts, and a
property that every host's steps have, for commands of some kind, is had by all
its steps. A request that reads needs it only for the commands that observe: it
lists, searches, checks and probes, however the hosts answer.
-/

namespace FleetPatch.Web

set_option autoImplicit false

open Windows Run

variable {σ α : Type}

/-- What connecting a host and giving it commands of a kind are like, in whatever state. -/
structure Acts (P : String × Exchange → Prop) (kind : String → Prop) (name : String)
    (host : Transport σ) : Prop where
  connects : ∀ now, P (name, .connect (host.connect now).1)
  executes : ∀ command, kind command → ∀ now,
    P (name, .execute command (host.dispatch command now).1)

structure Keeps (P : String × Exchange → Prop) (kind : String → Prop) (name : String)
    (host : Transport σ) : Prop extends Acts P kind name host where
  closes : ∀ now, P (name, .close (host.close now).1)

/-- A run over recorded transports that does what another does over the hosts, in steps that all
have a property. -/
abbrev Recounts (P : String × Exchange → Prop) {ε : Type} (run : Run ε (History × σ) α)
    (other : Run ε σ α) : Prop :=
  Retraces Prod.fst Prod.snd P run other

abbrev RecountsBeside (ρ : Type) (P : String × Exchange → Prop) {ε : Type}
    (run : Run ε (ρ × History × σ) α) (other : Run ε (ρ × σ) α) : Prop :=
  Retraces (fun pair => pair.2.1) (Prod.map id Prod.snd) P run other

variable {P : String × Exchange → Prop} {kind : String → Prop}

theorem recounts_recording {name : String} {exchange : Except Fault α → Exchange}
    {run : Run Fault σ α} (holds : ∀ now, P (name, exchange (run now).1)) :
    Recounts P (recording name exchange run) run where
  logs := fun (_, now) => ⟨_, rfl, List.forall_mem_singleton.mpr (holds now)⟩
  same _ := rfl

section Host

variable {name : String} {host : Transport σ} (acts : Acts P kind name host)

include acts

theorem Acts.reach : Recounts P (host.recorded name).reach host.reach := by
  apply retraces_state_bind
  intro pair
  change Recounts P (if host.connected pair.2 then pure () else (host.recorded name).connect)
    (if host.connected pair.2 then pure () else host.connect)
  cases host.connected pair.2 with
  | true => exact retraces_pure ()
  | false => exact recounts_recording acts.connects

theorem Acts.execute {command : String} (allowed : kind command) :
    Recounts P ((host.recorded name).execute command) (host.execute command) :=
  Retraces.bind acts.reach fun _ => recounts_recording (acts.executes command allowed)

theorem Acts.ask {command : String} (allowed : kind command) (read : Reply → Except Fault α) :
    Recounts P ((host.recorded name).ask command read) (host.ask command read) :=
  Retraces.bind (acts.execute allowed) fun reply => retraces_lift (read reply)

theorem Acts.requestReboot {command : String} (allowed : kind command) (label : String) :
    Recounts P ((host.recorded name).requestReboot label command)
      (host.requestReboot label command) where
  logs := (acts.execute allowed).logs
  same now := by
    rw [Transport.requestReboot_apply, Transport.requestReboot_apply,
      (acts.execute allowed).same now]

variable (observing : ∀ command ∈ observingCommands, kind command)

include observing

theorem Acts.rebootRequired (ecosystem : Ecosystem) :
    Recounts P (ecosystem.rebootRequired (host.recorded name)) (ecosystem.rebootRequired host) := by
  rw [ecosystem.rebootRequired_eq_ask, ecosystem.rebootRequired_eq_ask]
  exact acts.ask (observing _ (rebootCheck_observes ecosystem)) _

theorem Acts.enforce (asset : Asset) (action : String) (ecosystem : Ecosystem) :
    Recounts P (Guard.enforce asset action (some (ecosystem.rebootRequired (host.recorded name))))
      (Guard.enforce asset action (some (ecosystem.rebootRequired host))) := by
  refine Retraces.bind ?_ fun decision => retraces_lift _
  unfold Guard.check
  cases Guard.protection asset action with
  | allowed =>
      exact Retraces.bind (acts.rebootRequired observing ecosystem) fun _ => retraces_pure _
  | refused reason => exact retraces_pure _

theorem Acts.fetch :
    RecountsBeside UpdateQuery.Cache P (UpdateQuery.fetch (host.recorded name) false)
      (UpdateQuery.fetch host false) :=
  Retraces.cached (acts.ask (observing _ installedUpdates_observes) _)

theorem Acts.installed (manager : Manager) :
    RecountsBeside PackageQuery.Cache P (PackageQuery.installed (host.recorded name) manager false)
      (PackageQuery.installed host manager false) :=
  Retraces.cached (acts.ask (observing _ (installed_observes manager)) _)

theorem Acts.upgradable (manager : Manager) :
    RecountsBeside PackageQuery.Cache P (PackageQuery.upgradable (host.recorded name) manager false)
      (PackageQuery.upgradable host manager false) :=
  Retraces.cached (acts.ask (observing _ (upgradable_observes manager)) _)

theorem Acts.listHost (asset : Asset) (ecosystemName : String) :
    Recounts P (listHost asset ecosystemName (host.recorded name))
      (listHost asset ecosystemName host) := by
  apply Retraces.bind (retraces_lift _)
  intro ecosystem
  cases ecosystem with
  | windows =>
      apply Retraces.bind (retraces_lift _)
      intro windows
      have lists : Recounts P (Run.withFresh none (UpdateQuery.fetch (host.recorded name) false))
          (Run.withFresh none (UpdateQuery.fetch host false)) :=
        Retraces.withFresh (acts.fetch observing)
      cases windows with
      | false => exact Retraces.bind (retraces_fail _) fun _ => lists.bind fun _ => retraces_pure _
      | true => exact lists.bind fun _ => retraces_pure _
  | packages manager =>
      refine Retraces.withFresh (Retraces.bind (acts.upgradable observing manager) fun _ => ?_)
      exact Retraces.bind (acts.installed observing manager) fun _ => retraces_pure _

theorem Acts.keys (ecosystem : Ecosystem) :
    Recounts P (ecosystem.keys (host.recorded name)) (ecosystem.keys host) := by
  cases ecosystem with
  | windows =>
      exact Retraces.withFresh (Retraces.bind (acts.fetch observing) fun _ => retraces_pure _)
  | packages manager =>
      exact Retraces.withFresh
        (Retraces.bind (acts.installed observing manager) fun _ => retraces_pure _)

end Host

theorem acts_compareHosts {firstName secondName : String} {first second : Transport σ}
    (firstActs : Acts P kind firstName first) (secondActs : Acts P kind secondName second)
    (observing : ∀ command ∈ observingCommands, kind command) (left right : String) :
    Recounts P (compareHosts left right (first.recorded firstName) (second.recorded secondName))
      (compareHosts left right first second) := by
  apply Retraces.bind (retraces_lift _)
  intro left
  apply Retraces.bind (retraces_lift _)
  intro right
  apply Retraces.bind (firstActs.keys observing left)
  intro _
  exact Retraces.bind (secondActs.keys observing right) fun _ => retraces_pure _

section Changes

variable {name : String} {host : Transport σ} (acts : Acts P kind name host)
  (all : ∀ command, kind command)

include acts all

theorem Acts.change (planned : Except Fault String) (read : Reply → Except Fault α) :
    Recounts P
      (Run.mapFault changeFailure (Run.lift planned >>= fun command =>
        (host.recorded name).ask command read))
      (Run.mapFault changeFailure (Run.lift planned >>= fun command => host.ask command read)) :=
  Retraces.mapFault _ (Retraces.bind (retraces_lift planned) fun command =>
    acts.ask (all command) read)

theorem Acts.installOn (asset : Asset) (kbIds : Json) :
    Recounts P (installOn asset kbIds (host.recorded name)) (installOn asset kbIds host) := by
  refine Retraces.bind (Retraces.mapFault _
    (acts.enforce (fun command _ => all command) asset "update" .windows)) fun _ => ?_
  rw [withFresh_act, withFresh_act]
  exact acts.change all _ _

theorem Acts.upgradeOn (asset : Asset) (names : Option (List Json)) :
    Recounts P (upgradeOn asset names (host.recorded name)) (upgradeOn asset names host) := by
  apply Retraces.bind (retraces_lift _)
  intro ecosystem
  refine Retraces.bind (Retraces.mapFault _
    (acts.enforce (fun command _ => all command) asset "upgrade" ecosystem)) fun _ => ?_
  cases ecosystem with
  | windows => exact retraces_fail _
  | packages manager =>
      cases names with
      | none => exact acts.change all (.ok manager.upgradeAllCommand) _
      | some entries =>
          dsimp only
          rw [upgrade_eq_ask, upgrade_eq_ask]
          exact acts.change all _ _

theorem Acts.rebootOn (ecosystemName : String) :
    Recounts P (rebootOn ecosystemName (host.recorded name)) (rebootOn ecosystemName host) := by
  apply Retraces.bind (retraces_lift _)
  intro ecosystem
  rw [ecosystem.reboot_eq_requestReboot, ecosystem.reboot_eq_requestReboot]
  exact acts.requestReboot (all _) _

end Changes

/-- The service whose transports are recorded under names that their hosts' names are changed to. -/
def Service.recordedAs (rename : String → String) (service : Service σ) :
    Service (History × σ) where
  inventory := service.inventory
  resolver := service.resolver
  hosts name := (service.hosts name).recorded (rename name)
  now := service.now

abbrev Retold (Q : History → Prop) (run : Step (History × σ) α) (other : Step σ α) : Prop :=
  Retells Prod.fst Prod.snd Q run other

/-- What the visits of a service tell, from what is done during them. -/
structure Visiting (service : Service σ) (rename : String → String) (P : String × Exchange → Prop)
    (kind : String → Prop) (Q : History → Prop) : Prop where
  acts : ∀ name, Acts P kind (rename name) (service.hosts name)
  quiet : Q []
  visits : ∀ {α : Type} (asset : Asset) {work : Transport (History × σ) → Step (History × σ) α}
    {otherWork : Transport σ → Step σ α},
    Recounts P (work ((service.recordedAs rename).hosts asset.hostname.text))
      (otherWork (service.hosts asset.hostname.text)) →
    Retold Q ((service.recordedAs rename).withTransport asset work)
      (service.withTransport asset otherWork)

section Requests

variable {service : Service σ} {rename : String → String} {Q : History → Prop}
  (visiting : Visiting service rename P kind Q)

include visiting

section Reads

variable (observing : ∀ command ∈ observingCommands, kind command)

include observing

theorem Visiting.readStatus (name : String) :
    Retold Q (readStatus (service.recordedAs rename) name) (readStatus service name) := by
  apply retells_planned visiting.quiet
  intro asset _
  refine Retells.excused (Retells.answered (visiting.visits asset ?_) _) fun failure => ?_
  · exact Retraces.mapFault _ ((visiting.acts _).execute (observing _ probe_observes))
  · cases failure with
    | refused status message => exact ⟨_, rfl, rfl⟩
    | fault fault =>
        dsimp only
        split
        · exact ⟨_, rfl, rfl⟩
        · exact ⟨_, rfl, rfl⟩

theorem Visiting.readUpdates (name : String) :
    Retold Q (readUpdates (service.recordedAs rename) name) (readUpdates service name) := by
  apply retells_planned visiting.quiet
  intro asset _
  apply retells_planned visiting.quiet
  intro ecosystemName _
  apply visiting.visits asset
  exact Retraces.mapFault _ ((visiting.acts _).listHost observing asset ecosystemName)

theorem Visiting.readAvailable (name : String) :
    Retold Q (readAvailable (service.recordedAs rename) name) (readAvailable service name) := by
  apply retells_planned visiting.quiet
  intro asset _
  apply retells_planned visiting.quiet
  intro _ _
  refine Retells.answered (visiting.visits asset ?_) _
  refine Retraces.mapFault _ (Retraces.bind ((visiting.acts _).ask (observing _ search_observes) _)
    fun _ => ?_)
  exact Retraces.bind ((visiting.acts _).rebootRequired observing .windows) fun _ => retraces_pure _

theorem Visiting.readRebootStatus (name : String) :
    Retold Q (readRebootStatus (service.recordedAs rename) name)
      (readRebootStatus service name) := by
  apply retells_planned visiting.quiet
  intro asset _
  apply retells_planned visiting.quiet
  intro ecosystemName _
  refine Retells.answered (visiting.visits asset ?_) _
  refine Retraces.mapFault _ (Retraces.bind (retraces_lift _) fun ecosystem => ?_)
  exact (visiting.acts _).rebootRequired observing ecosystem

theorem Visiting.serve_read {resource : Resource} (reads : resource.access = .read)
    (single : resource ≠ .comparison) (request : Request) :
    Retold Q (serve (service.recordedAs rename) resource request)
      (serve service resource request) := by
  cases resource with
  | health => exact retells_lift visiting.quiet _
  | inventory => exact retells_planned visiting.quiet _ fun _ _ => retells_lift visiting.quiet _
  | comparison => exact absurd rfl single
  | asset name => exact retells_planned visiting.quiet _ fun _ _ => retells_lift visiting.quiet _
  | status name => exact visiting.readStatus observing name
  | updates name => exact visiting.readUpdates observing name
  | availableUpdates name => exact visiting.readAvailable observing name
  | installation name => cases reads
  | upgrade name => cases reads
  | rebootStatus name => exact visiting.readRebootStatus observing name
  | reboot name => cases reads
  | file => exact retells_lift visiting.quiet _

end Reads

section All

variable (all : ∀ command, kind command)

include all

theorem Visiting.installUpdates (name : String) (body : List UInt8) :
    Retold Q (installUpdates (service.recordedAs rename) name body)
      (installUpdates service name body) := by
  apply retells_planned visiting.quiet
  intro (asset, kbIds) _
  exact Retells.answered (visiting.visits asset ((visiting.acts _).installOn all asset kbIds)) _

theorem Visiting.upgradePackages (name : String) (body : List UInt8) :
    Retold Q (upgradePackages (service.recordedAs rename) name body)
      (upgradePackages service name body) := by
  apply retells_planned visiting.quiet
  intro (asset, names) _
  exact Retells.answered (visiting.visits asset ((visiting.acts _).upgradeOn all asset names)) _

theorem Visiting.rebootAsset (name : String) :
    Retold Q (rebootAsset (service.recordedAs rename) name) (rebootAsset service name) := by
  apply retells_planned visiting.quiet
  intro (asset, ecosystemName) _
  refine Retells.answered (visiting.visits asset ?_) _
  exact Retraces.mapFault _ ((visiting.acts _).rebootOn all ecosystemName)

theorem Visiting.serve {resource : Resource} (single : resource ≠ .comparison) (request : Request) :
    Retold Q (serve (service.recordedAs rename) resource request)
      (serve service resource request) := by
  cases accessed : resource.access with
  | read => exact visiting.serve_read (fun command _ => all command) accessed single request
  | change =>
      cases resource with
      | installation name => exact visiting.installUpdates all name request.body
      | upgrade name => exact visiting.upgradePackages all name request.body
      | reboot name => exact visiting.rebootAsset all name
      | _ => cases accessed

end All

end Requests

section Every

variable {service : Service σ} (keeps : ∀ name, Keeps P kind name (service.hosts name))

include keeps

theorem steps_withTransport (asset : Asset) {work : Transport (History × σ) → Step (History × σ) α}
    {otherWork : Transport σ → Step σ α}
    (works : Recounts P (work (service.recorded.hosts asset.hostname.text))
      (otherWork (service.hosts asset.hostname.text))) :
    Recounts P (service.recorded.withTransport asset work)
      (service.withTransport asset otherWork) := by
  have host := keeps asset.hostname.text
  apply Retraces.bind (retraces_lift _)
  intro _
  refine Retraces.ensuring (Retraces.bind ?_ fun _ => works) ?_
  · exact Retraces.mapFault _ (recounts_recording host.connects)
  · exact Retraces.mapFault _ (recounts_recording host.closes)

/-- Every step of a visit has what the host's steps have. -/
theorem visiting_of_keeps :
    Visiting service id P kind fun history => ∀ entry ∈ history, P entry where
  acts name := (keeps name).toActs
  quiet := List.forall_mem_nil P
  visits asset := steps_withTransport keeps asset

theorem steps_readComparison (observing : ∀ command ∈ observingCommands, kind command)
    (first second : Option String) :
    Recounts P (readComparison service.recorded first second)
      (readComparison service first second) := by
  apply Retraces.bind (retraces_lift _)
  intro order
  refine Retraces.bind (steps_withTransport keeps order.first ?_) fun _ => retraces_pure _
  apply steps_withTransport keeps order.second
  exact Retraces.mapFault _
    (acts_compareHosts (keeps _).toActs (keeps _).toActs observing _ _)

theorem steps_of_read (observing : ∀ command ∈ observingCommands, kind command)
    {resource : Resource} (reads : resource.access = .read) (request : Request) :
    Recounts P (serve service.recorded resource request) (serve service resource request) := by
  by_cases single : resource = .comparison
  · subst single
    exact steps_readComparison keeps observing _ _
  · exact (visiting_of_keeps keeps).serve_read observing reads single request

/-- All steps of a request have what the hosts' steps have. -/
theorem steps_of_request (all : ∀ command, kind command) (resource : Resource) (request : Request) :
    Recounts P (serve service.recorded resource request) (serve service resource request) := by
  by_cases single : resource = .comparison
  · subst single
    exact steps_readComparison keeps (fun command _ => all command) _ _
  · exact (visiting_of_keeps keeps).serve all single request

end Every

def Observes (entry : String × Exchange) : Prop :=
  ∀ execution ∈ entry.2.execution? entry.1, execution.command ∈ observingCommands

theorem executions_of_observes {history : History} (observed : ∀ entry ∈ history, Observes entry) :
    ∀ execution ∈ history.executions, execution.command ∈ observingCommands := by
  intro execution member
  obtain ⟨entry, entered, executed⟩ := List.mem_filterMap.mp member
  exact observed entry entered execution executed

theorem keeps_observes (name : String) (host : Transport σ) :
    Keeps Observes (· ∈ observingCommands) name host where
  connects _ _ executes := nomatch executes
  executes command observing now execution executes := by
    cases Option.some.inj executes
    exact observing
  closes _ _ executes := nomatch executes

/-- A request to a resource that is read sends no command but those that observe. -/
theorem serve_observes (service : Service σ) {resource : Resource} (reads : resource.access = .read)
    (request : Request) :
    Recounts Observes (serve service.recorded resource request) (serve service resource request) :=
  steps_of_read (fun name => keeps_observes name (service.hosts name))
    (fun _ member => member) reads
    request

end FleetPatch.Web
