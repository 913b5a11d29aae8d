import FleetPatch.Proofs.Comparisons
import FleetPatch.Proofs.Partitions
import FleetPatch.Proofs.Searches

/-!
# Requests of queries

A query keeps a listing of what is installed, and one for packages keeps a listing of
upgrade candidates besides. A request reads one listing or both, each of them unless it is
kept, and is answered from what the query keeps then.
-/

namespace FleetPatch

set_option autoImplicit false

open Windows

variable {σ α κ : Type}

inductive Listing where
  | installed
  | upgradable
  deriving DecidableEq

inductive Contents where
  | updates (updates : List InstalledUpdate)
  | packages (packages : List Package)

namespace Contents

def updates? : Contents → Option (List InstalledUpdate)
  | .updates list => some list
  | .packages _ => none

def packages? : Contents → Option (List Package)
  | .updates _ => none
  | .packages list => some list

end Contents

theorem Run.cached_leaves {ε β : Type} {keptIn : κ → Option α} {keepIn : α → κ → κ}
    {run : Run ε σ α}
    (other : κ → β) (stays : ∀ value part, other (keepIn value part) = other part) {refresh : Bool}
    {part after : κ} {now later : σ} {outcome : Except ε α}
    (stepped : cached keptIn keepIn refresh run (part, now) = (outcome, (after, later))) :
    other after = other part := by
  cases stored : (if refresh then none else keptIn part) with
  | some value =>
      simp only [cached, stored] at stepped
      cases stepped
      rfl
  | none =>
      rcases read : run now with ⟨answer, last⟩
      cases answer <;> simp only [cached, stored, read] at stepped <;> cases stepped
      · rfl
      · exact stays _ part

/-- The command for a listing, and how the reply to it is read. -/
def Ecosystem.reader? : Ecosystem → Listing → Option (String × (Reply → Except Fault Contents))
  | .windows, .installed =>
      some (installedUpdatesScript, fun reply => (UpdateQuery.installedOf reply).map .updates)
  | .windows, .upgradable => none
  | .packages manager, .installed =>
      some (manager.installedCommand,
        fun reply => (PackageQuery.installedOf manager reply).map .packages)
  | .packages manager, .upgradable =>
      some (manager.upgradableCommand, fun reply =>
        (Except.ok (manager.upgradable (reply.stdout.getD ""))).map .packages)

namespace Request

/-- The listings that a request reads, in order, and whether it asks for them anew; none if a query
for the ecosystem does not support it. -/
def reads : Ecosystem → Request → Option (List (Listing × Bool))
  | .windows, .fetch refresh | .windows, .installedUpdates refresh => some [(.installed, refresh)]
  | .windows, .names | .windows, .kbIds | .windows, .summary | .windows, .securityUpdates
  | .windows, .selected _ | .windows, .between _ _ => some [(.installed, false)]
  | .packages _, .fetch refresh | .packages _, .installedPackages refresh =>
      some [(.installed, refresh)]
  | .packages _, .upgradable refresh => some [(.upgradable, refresh)]
  | .packages _, .names | .packages _, .selected _ => some [(.installed, false)]
  | .packages _, .summary => some [(.installed, false), (.upgradable, false)]
  | _, _ => none

def ofUpdates (updates : List InstalledUpdate) : Request → Option Answer
  | .fetch _ | .installedUpdates _ => some (.updates updates)
  | .names | .kbIds => some (.names (updates.map (·.kbId)))
  | .summary => some (.text (InstalledUpdate.summary updates))
  | .securityUpdates => some (.updates (updates.filter InstalledUpdate.isSecurity))
  | .selected pattern => some (.updates (updates.filter (·.matchedBy pattern)))
  | .between start stop => some (.updates (InstalledUpdate.between start stop updates))
  | _ => none

def ofPackages (installed upgradable : Option (List Package)) : Request → Option Answer
  | .fetch _ | .installedPackages _ => installed.map .packages
  | .upgradable _ => upgradable.map .packages
  | .names => installed.map fun packages => .names (packages.map (·.name))
  | .selected pattern =>
      installed.map fun packages => .packages (packages.filter (·.matchedBy pattern))
  | .summary => do
      let packages ← installed
      let candidates ← upgradable
      some (.text (s!"Installed packages: {packages.length}\n" ++
        s!"Upgradable packages: {candidates.length}"))
  | _ => none

def answer? (ecosystem : Ecosystem) (request : Request) (records : Listing → Option Contents) :
    Option Answer :=
  match ecosystem with
  | .windows => ((records .installed).bind Contents.updates?).bind request.ofUpdates
  | .packages _ =>
      request.ofPackages ((records .installed).bind Contents.packages?)
        ((records .upgradable).bind Contents.packages?)

end Request

namespace Agent

def kept : Agent → Listing → Option Contents
  | .updateQuery cache, .installed => cache.map .updates
  | .packageQuery _ cache, .installed => cache.installed.map .packages
  | .packageQuery _ cache, .upgradable => cache.upgradable.map .packages
  | _, _ => none

def keep (listing : Listing) : Contents → Agent → Agent
  | .updates updates, .updateQuery cache =>
      match listing with
      | .installed => .updateQuery (some updates)
      | .upgradable => .updateQuery cache
  | .packages packages, .packageQuery manager cache =>
      match listing with
      | .installed => .packageQuery manager { cache with installed := some packages }
      | .upgradable => .packageQuery manager { cache with upgradable := some packages }
  | _, agent => agent

def read (host : Transport σ) (listing : Listing) (refresh : Bool) :
    Run Fault (Agent × σ) Contents := fun (agent, now) =>
  match agent.ecosystem.reader? listing with
  | some (command, parse) =>
      Run.cached (kept · listing) (keep listing) refresh (host.ask command parse) (agent, now)
  | none => (.error .unsupportedOperation, (agent, now))

def readAll (host : Transport σ) : List (Listing × Bool) → Run Fault (Agent × σ) Unit
  | [] => pure ()
  | (listing, refresh) :: rest => do
      let _ ← read host listing refresh
      readAll host rest

def tell (request : Request) : Run Fault (Agent × σ) Answer := fun (agent, now) =>
  match request.answer? agent.ecosystem agent.kept with
  | some answer => (.ok answer, (agent, now))
  | none => (.error .unsupportedOperation, (agent, now))

/-- A part of an agent that keeps a listing, with the values that it keeps it in. -/
structure Holds (rebuild : κ → Agent) (listing : Listing) (keptIn : κ → Option α)
    (keepIn : α → κ → κ) (wrap : α → Contents) (command : String)
    (parse : Reply → Except Fault α) : Prop where
  reader : ∀ cache, (rebuild cache).ecosystem.reader? listing =
    some (command, fun reply => (parse reply).map wrap)
  shown : ∀ cache, (rebuild cache).kept listing = (keptIn cache).map wrap
  stored : ∀ value cache, rebuild (keepIn value cache) = keep listing (wrap value) (rebuild cache)
  given : ∀ value cache, keptIn (keepIn value cache) = some value

theorem holds_updates : Holds updateQuery .installed id (fun updates _ => some updates) .updates
    installedUpdatesScript UpdateQuery.installedOf :=
  ⟨fun _ => rfl, fun _ => rfl, fun _ _ => rfl, fun _ _ => rfl⟩

theorem holds_installed (manager : Manager) : Holds (packageQuery manager) .installed
    PackageQuery.Cache.installed (fun packages cache => { cache with installed := some packages })
    .packages manager.installedCommand (PackageQuery.installedOf manager) :=
  ⟨fun _ => rfl, fun _ => rfl, fun _ _ => rfl, fun _ _ => rfl⟩

theorem holds_upgradable (manager : Manager) : Holds (packageQuery manager) .upgradable
    PackageQuery.Cache.upgradable (fun packages cache => { cache with upgradable := some packages })
    .packages manager.upgradableCommand
    (fun reply => .ok (manager.upgradable (reply.stdout.getD ""))) :=
  ⟨fun _ => rfl, fun _ => rfl, fun _ _ => rfl, fun _ _ => rfl⟩

theorem ask_wrapped (host : Transport σ) (command : String) (parse : Reply → Except Fault α)
    (wrap : α → Contents) (now : σ) :
    host.ask command (fun reply => (parse reply).map wrap) now =
      ((host.ask command parse now).1.map wrap, (host.ask command parse now).2) := by
  rw [← ask_map]
  rcases asked : host.ask command parse now with ⟨outcome, after⟩
  cases outcome with
  | error fault => exact Run.bind_apply_error asked
  | ok value => exact Run.bind_apply_ok asked

section Reading

variable {rebuild : κ → Agent} {listing : Listing} {keptIn : κ → Option α} {keepIn : α → κ → κ}
  {wrap : α → Contents} {command : String} {parse : Reply → Except Fault α}
  (holds : Holds rebuild listing keptIn keepIn wrap command parse) (host : Transport σ)

include holds

/-- Reading a listing for an agent is reading it for the part of the agent that keeps it. -/
theorem Holds.read_of_cached {refresh : Bool} {cache after : κ} {now later : σ}
    {outcome : Except Fault α}
    (stepped : Run.cached keptIn keepIn refresh (host.ask command parse) (cache, now) =
      (outcome, (after, later))) :
    read host listing refresh (rebuild cache, now) =
      (outcome.map wrap, (rebuild after, later)) := by
  have held : (if refresh then none else (rebuild cache).kept listing) =
      (if refresh then none else keptIn cache).map wrap := by
    cases refresh with
    | true => rfl
    | false => exact holds.shown cache
  simp only [Run.cached] at stepped
  simp only [read, holds.reader, Run.cached, held, ask_wrapped]
  cases stored : (if refresh then none else keptIn cache) with
  | some value =>
      rw [stored] at stepped
      cases stepped
      rfl
  | none =>
      rw [stored] at stepped
      rcases asked : host.ask command parse now with ⟨answer, last⟩
      rw [asked] at stepped
      cases answer with
      | error fault =>
          cases stepped
          rfl
      | ok value =>
          cases stepped
          simp only [Option.map, Except.map, holds.stored]

/-- A request that is answered from one reading is that reading, and an answer from what is kept. -/
theorem Holds.keeping_eq {β : Type} {run : Run Fault (κ × σ) β} {refresh : Bool} {change : α → β}
    {answer : β → Answer} {request : Request}
    (made : run = Run.cached keptIn keepIn refresh (host.ask command parse) >>=
      fun value => pure (change value))
    (told : ∀ value cache, keptIn cache = some value →
      request.answer? (rebuild cache).ecosystem (rebuild cache).kept = some (answer (change value)))
    (cache : κ) (now : σ) :
    keeping cache rebuild answer run (rebuild cache, now) =
      (readAll host [(listing, refresh)] >>= fun _ => tell request) (rebuild cache, now) := by
  rw [keeping_apply, made]
  rcases stepped : Run.cached keptIn keepIn refresh (host.ask command parse) (cache, now) with
    ⟨outcome, after, later⟩
  have single := holds.read_of_cached host stepped
  cases outcome with
  | error fault =>
      have whole : readAll host [(listing, refresh)] (rebuild cache, now) =
          (.error fault, (rebuild after, later)) := Run.bind_apply_error single
      rw [Run.bind_apply_error stepped]
      exact (Run.bind_apply_error whole).symm
  | ok value =>
      have held : keptIn after = some value := Run.kept_of_cached holds.given stepped
      have whole : readAll host [(listing, refresh)] (rebuild cache, now) =
          (.ok (), (rebuild after, later)) := Run.bind_apply_ok single
      rw [Run.bind_apply_ok stepped]
      refine .trans ?_ (Run.bind_apply_ok whole).symm
      simp only [tell, told value after held]
      rfl

end Reading

section Reader

variable {host : Transport σ} {agent : Agent} {listing : Listing} {refresh : Bool} {now later : σ}

theorem read_of_kept {command : String} {parse : Reply → Except Fault Contents}
    {contents : Contents}
    (reader : agent.ecosystem.reader? listing = some (command, parse))
    (held : agent.kept listing = some contents) :
    read host listing false (agent, now) = (.ok contents, (agent, now)) := by
  have stored : (if false then none else agent.kept listing) = some contents := held
  simp only [read, reader, Run.cached, stored]

theorem stored_of_missing (missing : refresh = true ∨ agent.kept listing = none) :
    (if refresh then none else agent.kept listing) = none := by
  rcases missing with rfl | absent
  · rfl
  · rw [absent, ite_self]

variable {command : String} {parse : Reply → Except Fault Contents}
  (reader : agent.ecosystem.reader? listing = some (command, parse))
  (missing : refresh = true ∨ agent.kept listing = none)

include reader missing

theorem read_of_found {contents : Contents}
    (asked : host.ask command parse now = (.ok contents, later)) :
    read host listing refresh (agent, now) =
      (.ok contents, (keep listing contents agent, later)) := by
  simp only [read, reader, Run.cached, stored_of_missing missing, asked]

theorem read_of_failed {fault : Fault}
    (asked : host.ask command parse now = (.error fault, later)) :
    read host listing refresh (agent, now) = (.error fault, (agent, later)) := by
  simp only [read, reader, Run.cached, stored_of_missing missing, asked]

end Reader

/-- What is done for a request: the listings are read and the answer is told, if it is supported. -/
def answering (host : Transport σ) (request : Request) : Run Fault (Agent × σ) Answer :=
  fun (agent, now) =>
    match request.reads agent.ecosystem with
    | some reads => (readAll host reads >>= fun _ => tell request) (agent, now)
    | none => (.error .unsupportedOperation, (agent, now))

theorem performUpdateQuery_eq (host : Transport σ) (cache : UpdateQuery.Cache) (request : Request)
    (now : σ) : performUpdateQuery host cache request (.updateQuery cache, now) =
      answering host request (.updateQuery cache, now) := by
  have told {β : Type} {change : List InstalledUpdate → β} {answer : β → Answer}
      (gives : ∀ updates, request.ofUpdates updates = some (answer (change updates)))
      (updates : List InstalledUpdate) (cache : UpdateQuery.Cache)
      (held : id cache = some updates) :
      request.answer? (updateQuery cache).ecosystem (updateQuery cache).kept =
        some (answer (change updates)) := by
    cases held
    exact gives updates
  cases request with
  | fetch refresh | installedUpdates refresh =>
      exact holds_updates.keeping_eq host (bind_pure _).symm (told fun _ => rfl) cache now
  | names | kbIds | summary | securityUpdates =>
      exact holds_updates.keeping_eq host rfl (told fun _ => rfl) cache now
  | selected pattern => exact holds_updates.keeping_eq host rfl (told fun _ => rfl) cache now
  | between start stop => exact holds_updates.keeping_eq host rfl (told fun _ => rfl) cache now
  | _ => rfl

/-- A summary is answered from both listings, the second of which is read only if the first was. -/
theorem performSummary_eq (host : Transport σ) (manager : Manager) (cache : PackageQuery.Cache)
    (now : σ) :
    keeping cache (packageQuery manager) .text (PackageQuery.summary host manager)
        (packageQuery manager cache, now) =
      (readAll host [(.installed, false), (.upgradable, false)] >>= fun _ => tell .summary)
        (packageQuery manager cache, now) := by
  rw [keeping_apply, PackageQuery.summary]
  rcases listed : PackageQuery.installed host manager false (cache, now) with
    ⟨outcome, middle, later⟩
  have first := (holds_installed manager).read_of_cached host listed
  cases outcome with
  | error fault =>
      have whole : readAll host [(.installed, false), (.upgradable, false)]
          (packageQuery manager cache, now) =
            (.error fault, (packageQuery manager middle, later)) :=
        Run.bind_apply_error first
      rw [Run.bind_apply_error listed]
      exact (Run.bind_apply_error whole).symm
  | ok packages =>
      rw [Run.bind_apply_ok listed]
      rcases found : PackageQuery.upgradable host manager false (middle, later) with
        ⟨candidates, after, last⟩
      have second := (holds_upgradable manager).read_of_cached host found
      have both : readAll host [(.installed, false), (.upgradable, false)]
          (packageQuery manager cache, now) =
          (candidates.map fun _ => (), (packageQuery manager after, last)) := by
        refine (Run.bind_apply_ok first).trans ?_
        cases candidates with
        | error fault => exact Run.bind_apply_error second
        | ok upgradable => exact Run.bind_apply_ok second
      cases candidates with
      | error fault =>
          rw [Run.bind_apply_error found]
          exact (Run.bind_apply_error both).symm
      | ok upgradable =>
          have installed : after.installed = some packages := by
            have kept := Run.kept_of_cached (by exact fun _ _ => rfl) listed
            have same := Run.cached_leaves PackageQuery.Cache.installed
              (by exact fun _ _ => rfl) found
            exact same.trans kept
          have candidates : after.upgradable = some upgradable :=
            Run.kept_of_cached (by exact fun _ _ => rfl) found
          rw [Run.bind_apply_ok found]
          refine .trans ?_ (Run.bind_apply_ok both).symm
          obtain ⟨_, _⟩ := after
          cases installed
          cases candidates
          rfl

theorem performPackageQuery_eq (host : Transport σ) (manager : Manager) (cache : PackageQuery.Cache)
    (request : Request) (now : σ) :
    performPackageQuery host manager cache request (.packageQuery manager cache, now) =
      answering host request (.packageQuery manager cache, now) := by
  have told {β : Type} {change : List Package → β} {answer : β → Answer}
      (gives : ∀ packages upgradable,
        request.ofPackages (some packages) upgradable = some (answer (change packages)))
      (packages : List Package) (cache : PackageQuery.Cache)
      (held : cache.installed = some packages) :
      request.answer? (packageQuery manager cache).ecosystem (packageQuery manager cache).kept =
        some (answer (change packages)) := by
    obtain ⟨installed, upgradable⟩ := cache
    cases held
    exact gives packages _
  cases request with
  | fetch refresh | installedPackages refresh =>
      exact (holds_installed manager).keeping_eq host (bind_pure _).symm
        (told fun _ _ => rfl) cache now
  | upgradable refresh =>
      refine (holds_upgradable manager).keeping_eq host (bind_pure _).symm ?_ cache now
      rintro candidates ⟨installed, _⟩ rfl
      rfl
  | names => exact (holds_installed manager).keeping_eq host rfl (told fun _ _ => rfl) cache now
  | selected pattern =>
      exact (holds_installed manager).keeping_eq host rfl (told fun _ _ => rfl) cache now
  | summary => exact performSummary_eq host manager cache now
  | _ => rfl

theorem perform_query {agent : Agent} (query : agent.isQuery = true) (host : Transport σ)
    (request : Request) (now : σ) :
    perform host request (agent, now) = answering host request (agent, now) := by
  cases agent with
  | updateQuery cache => exact performUpdateQuery_eq host cache request now
  | packageQuery manager cache => exact performPackageQuery_eq host manager cache request now
  | updateExecutor cache => cases query
  | packageExecutor manager => cases query

end Agent

end FleetPatch
