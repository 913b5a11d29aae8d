import FleetPatch.Executor.Restart
import FleetPatch.Guard
import FleetPatch.Query.Keys

/-!
# Agents

An agent is a query or an executor of one ecosystem together with the lists that
it keeps. Each kind of agent supports the requests of its kind and no others.
-/

namespace FleetPatch

set_option autoImplicit false

open Windows

inductive Agent where
  | updateQuery (cache : UpdateQuery.Cache)
  | packageQuery (manager : Manager) (cache : PackageQuery.Cache)
  | updateExecutor (cache : UpdateExecutor.Cache)
  | packageExecutor (manager : Manager)

inductive Request where
  | fetch (refresh : Bool)
  | installedUpdates (refresh : Bool)
  | installedPackages (refresh : Bool)
  | upgradable (refresh : Bool)
  | available (refresh : Bool)
  | names
  | kbIds
  | summary
  | securityUpdates
  | selected (pattern : Pattern)
  | between (start stop : Option Date)
  | act (action : Action) (kbIds : Json)
  | upgrade (names : Json)
  | upgradeAll
  | reboot
  | rebootRequired
  | rebootSignals

inductive Answer where
  | updates (updates : List InstalledUpdate)
  | packages (packages : List Package)
  | available (updates : List AvailableUpdate)
  | names (names : List String)
  | text (text : String)
  | installation (result : Installation)
  | upgrade (result : UpgradeResult)
  | reboot (request : RebootRequest)
  | decision (holds : Bool)
  | signals (signals : RebootSignals)

namespace Agent

def query : Ecosystem → Agent
  | .windows => .updateQuery none
  | .packages manager => .packageQuery manager .empty

def executor : Ecosystem → Agent
  | .windows => .updateExecutor none
  | .packages manager => .packageExecutor manager

def ecosystem : Agent → Ecosystem
  | .updateQuery _ | .updateExecutor _ => .windows
  | .packageQuery manager _ | .packageExecutor manager => .packages manager

def isQuery : Agent → Bool
  | .updateQuery _ | .packageQuery _ _ => true
  | .updateExecutor _ | .packageExecutor _ => false

variable {σ α : Type}

/-- A run of an agent with what it keeps, under the answer that it gives. -/
def keeping {κ : Type} (cache : κ) (rebuild : κ → Agent) (answer : α → Answer)
    (run : Run Fault (κ × σ) α) : Run Fault (Agent × σ) Answer := fun (_, now) =>
  match run (cache, now) with
  | (.ok value, (after, rest)) => (.ok (answer value), (rebuild after, rest))
  | (.error fault, (after, rest)) => (.error fault, (rebuild after, rest))

def plainly (answer : α → Answer) (run : Run Fault σ α) : Run Fault (Agent × σ) Answer := do
  let value ← Run.second run
  pure (answer value)

def performUpdateQuery (host : Transport σ) (cache : UpdateQuery.Cache) (request : Request) :
    Run Fault (Agent × σ) Answer :=
  match request with
  | .fetch refresh | .installedUpdates refresh =>
      keeping cache .updateQuery .updates (UpdateQuery.fetch host refresh)
  | .names | .kbIds => keeping cache .updateQuery .names (UpdateQuery.names host)
  | .summary => keeping cache .updateQuery .text (UpdateQuery.summary host)
  | .securityUpdates => keeping cache .updateQuery .updates (UpdateQuery.securityUpdates host)
  | .selected pattern => keeping cache .updateQuery .updates (UpdateQuery.selected host pattern)
  | .between start stop =>
      keeping cache .updateQuery .updates (UpdateQuery.between host start stop)
  | _ => Run.fail .unsupportedOperation

def performPackageQuery (host : Transport σ) (manager : Manager) (cache : PackageQuery.Cache)
    (request : Request) : Run Fault (Agent × σ) Answer :=
  match request with
  | .fetch refresh | .installedPackages refresh =>
      keeping cache (.packageQuery manager) .packages (PackageQuery.installed host manager refresh)
  | .upgradable refresh =>
      keeping cache (.packageQuery manager) .packages (PackageQuery.upgradable host manager refresh)
  | .names => keeping cache (.packageQuery manager) .names (PackageQuery.names host manager)
  | .summary => keeping cache (.packageQuery manager) .text (PackageQuery.summary host manager)
  | .selected pattern =>
      keeping cache (.packageQuery manager) .packages (PackageQuery.selected host manager pattern)
  | _ => Run.fail .unsupportedOperation

def performUpdateExecutor (host : Transport σ) (cache : UpdateExecutor.Cache) (request : Request) :
    Run Fault (Agent × σ) Answer :=
  match request with
  | .available refresh =>
      keeping cache .updateExecutor .available (UpdateExecutor.available host refresh)
  | .act action kbIds =>
      keeping cache .updateExecutor .installation (UpdateExecutor.act host action kbIds)
  | .reboot => plainly .reboot (UpdateExecutor.reboot host)
  | .rebootRequired => plainly .decision (UpdateExecutor.rebootRequired host)
  | .rebootSignals => plainly .signals (UpdateExecutor.rebootSignals host)
  | _ => Run.fail .unsupportedOperation

def performPackageExecutor (host : Transport σ) (manager : Manager) (request : Request) :
    Run Fault (Agent × σ) Answer :=
  match request with
  | .upgrade names => plainly .upgrade (PackageExecutor.upgrade host manager names)
  | .upgradeAll => plainly .upgrade (PackageExecutor.upgradeAll host manager)
  | .reboot => plainly .reboot (PackageExecutor.reboot host manager)
  | .rebootRequired => plainly .decision (PackageExecutor.rebootRequired host manager)
  | _ => Run.fail .unsupportedOperation

def perform (host : Transport σ) (request : Request) : Run Fault (Agent × σ) Answer := fun now =>
  match now.1 with
  | .updateQuery cache => performUpdateQuery host cache request now
  | .packageQuery manager cache => performPackageQuery host manager cache request now
  | .updateExecutor cache => performUpdateExecutor host cache request now
  | .packageExecutor manager => performPackageExecutor host manager request now

def keys (host : Transport σ) : Run Fault (Agent × σ) (List String) := do
  match ← perform host .names with
  | .names names => pure names
  | _ => Run.fail .unsupportedOperation

/-- Whether a restart is pending, asked of an agent that has to be an executor. -/
def pending (host : Transport σ) : Run Fault (Agent × σ) Bool := do
  match ← perform host .rebootRequired with
  | .decision holds => pure holds
  | _ => Run.fail .unsupportedOperation

end Agent

end FleetPatch
