import FleetPatch.Proofs.Searches

/-!
# What agents send

An agent sends the commands of its ecosystem and no others, however its host
answers and whatever it is asked. A Windows script is never a command of a package
manager. Recording what an agent does changes none of its answers.
-/

namespace FleetPatch

set_option autoImplicit false

open Windows Run

variable {σ α κ : Type}

/-- The commands with which hosts of an ecosystem are listed, changed and restarted. -/
def Ecosystem.Sends : Ecosystem → String → Prop
  | .windows, command =>
      command ∈ [installedUpdatesScript, searchScript, rebootCheckScript, Windows.restartCommand] ∨
        ∃ action entries, Action.script action entries = .ok command
  | .packages manager, command =>
      command ∈ [manager.installedCommand, manager.upgradableCommand, manager.rebootCheckCommand,
        Manager.rebootCommand] ∨ UpgradesBy manager command

def Ecosystem.initials : Ecosystem → List Char
  | .windows => ['\n', 'R']
  | .packages _ => ['a', 'd', 'i', 's', 't']

theorem ordered_begins {action : Action} {entries : List Json} {script : String}
    (ordered : action.script entries = .ok script) : Begins "\n" script := by
  obtain ⟨filter, _, rfl⟩ := map_eq_ok.mp ordered
  exact scriptWith_begins action filter

theorem Begins.head {lead command : String} {initial : Char} (begins : Begins lead command)
    (first : lead.toList.head? = some initial) : command.toList.head? = some initial := by
  obtain ⟨rest, rfl⟩ := begins
  rw [String.toList_append, List.head?_append, first]
  rfl

theorem Ecosystem.Sends.initial {ecosystem : Ecosystem} {command : String}
    (sends : ecosystem.Sends command) :
    ∃ initial ∈ ecosystem.initials, command.toList.head? = some initial := by
  cases ecosystem with
  | windows =>
      rcases sends with listed | ⟨action, entries, ordered⟩
      · simp only [List.mem_cons, List.not_mem_nil, or_false] at listed
        rcases listed with rfl | rfl | rfl | rfl
        · exact ⟨'\n', by decide, (scriptOf_begins _ _).head rfl⟩
        · exact ⟨'\n', by decide, (scriptOf_begins _ _).head rfl⟩
        · exact ⟨'\n', by decide, (scriptOf_begins _ _).head rfl⟩
        · exact ⟨'R', by decide, rfl⟩
      · exact ⟨'\n', by decide, (ordered_begins ordered).head rfl⟩
  | packages manager =>
      rcases sends with listed | upgrades
      · simp only [List.mem_cons, List.not_mem_nil, or_false] at listed
        rcases listed with rfl | rfl | rfl | rfl
        · cases manager <;> exact ⟨'d', by decide, rfl⟩
        · cases manager with
          | apt => exact ⟨'a', by decide, rfl⟩
          | dnf => exact ⟨'d', by decide, rfl⟩
        · cases manager with
          | apt => exact ⟨'t', by decide, rfl⟩
          | dnf =>
              have lead : Begins "if" "if command -v needs-restarting > /dev/null 2>&1; then " :=
                ⟨" command -v needs-restarting > /dev/null 2>&1; then ", rfl⟩
              exact ⟨'i', by decide, ((lead.append _).append _).head rfl⟩
        · exact ⟨'s', by simp [Ecosystem.initials], rfl⟩
      · cases manager with
        | apt => exact ⟨'s', by decide, (upgrades_begins upgrades).head rfl⟩
        | dnf => exact ⟨'d', by decide, (upgrades_begins upgrades).head rfl⟩

theorem Ecosystem.Sends.not_packages {command : String} (sends : Ecosystem.windows.Sends command)
    (manager : Manager) : ¬ (Ecosystem.packages manager).Sends command := by
  intro shell
  obtain ⟨initial, windows, begins⟩ := sends.initial
  obtain ⟨other, packages, also⟩ := shell.initial
  cases Option.some.inj (begins.symm.trans also)
  simp only [Ecosystem.initials, List.mem_cons, List.not_mem_nil, or_false] at windows packages
  rcases windows with rfl | rfl <;> revert packages <;> decide

namespace Web

variable {P : String × Exchange → Prop} {kind : String → Prop}

theorem recountsBeside_keeping {cache : κ} {rebuild : κ → Agent} {answer : α → Answer}
    {run : Run Fault (κ × History × σ) α} {other : Run Fault (κ × σ) α}
    (recounts : RecountsBeside κ P run other) :
    RecountsBeside Agent P (Agent.keeping cache rebuild answer run)
      (Agent.keeping cache rebuild answer other) where
  logs := fun (agent, now) => by
    rw [Agent.keeping_apply]
    exact recounts.logs (cache, now)
  same := fun (agent, (history, now)) => by
    have shown : other (cache, now) = _ := recounts.same (cache, (history, now))
    change Agent.keeping cache rebuild answer other (agent, now) = _
    rw [Agent.keeping_apply, Agent.keeping_apply, shown]
    rfl

theorem recountsBeside_plainly {answer : α → Answer} {run : Run Fault (History × σ) α}
    {other : Run Fault σ α} (recounts : Recounts P run other) :
    RecountsBeside Agent P (Agent.plainly answer run) (Agent.plainly answer other) where
  logs := fun (agent, now) => by
    rw [Agent.plainly_apply]
    exact recounts.logs now
  same := fun (agent, (history, now)) => plainly_recorded recounts.same answer agent history now

theorem recountsBeside_second {run : Run Fault (History × σ) α} {other : Run Fault σ α}
    (recounts : Recounts P run other) : RecountsBeside κ P (Run.second run) (Run.second other) where
  logs := fun (_, now) => recounts.logs now
  same := fun (part, pair) => by
    have shown := recounts.same pair
    simp only [Run.second, Prod.map, shown, id]

section Host

variable {name : String} {host : Transport σ} (acts : Acts P kind name host)

include acts

theorem Acts.performUpdateQuery (allowed : kind installedUpdatesScript) (cache : UpdateQuery.Cache)
    (request : FleetPatch.Request) :
    RecountsBeside Agent P (Agent.performUpdateQuery (host.recorded name) cache request)
      (Agent.performUpdateQuery host cache request) := by
  have fetches (refresh : Bool) : RecountsBeside UpdateQuery.Cache P
      (UpdateQuery.fetch (host.recorded name) refresh) (UpdateQuery.fetch host refresh) :=
    Retraces.cached (acts.ask allowed _)
  have shows {β : Type} (change : List InstalledUpdate → β) : RecountsBeside UpdateQuery.Cache P
      (UpdateQuery.fetch (host.recorded name) false >>= fun updates => pure (change updates))
      (UpdateQuery.fetch host false >>= fun updates => pure (change updates)) :=
    Retraces.bind (fetches false) fun _ => retraces_pure _
  cases request with
  | fetch refresh | installedUpdates refresh => exact recountsBeside_keeping (fetches refresh)
  | names | kbIds | summary | securityUpdates => exact recountsBeside_keeping (shows _)
  | selected pattern => exact recountsBeside_keeping (shows _)
  | between start stop => exact recountsBeside_keeping (shows _)
  | _ => exact retraces_fail _

theorem Acts.performPackageQuery {manager : Manager} (listing : kind manager.installedCommand)
    (candidates : kind manager.upgradableCommand) (cache : PackageQuery.Cache)
    (request : FleetPatch.Request) :
    RecountsBeside Agent P (Agent.performPackageQuery (host.recorded name) manager cache request)
      (Agent.performPackageQuery host manager cache request) := by
  have installed (refresh : Bool) : RecountsBeside PackageQuery.Cache P
      (PackageQuery.installed (host.recorded name) manager refresh)
      (PackageQuery.installed host manager refresh) :=
    Retraces.cached (acts.ask listing _)
  have upgradable (refresh : Bool) : RecountsBeside PackageQuery.Cache P
      (PackageQuery.upgradable (host.recorded name) manager refresh)
      (PackageQuery.upgradable host manager refresh) :=
    Retraces.cached (acts.ask candidates _)
  have shows {β : Type} (change : List Package → β) : RecountsBeside PackageQuery.Cache P
      (PackageQuery.installed (host.recorded name) manager false >>=
        fun packages => pure (change packages))
      (PackageQuery.installed host manager false >>= fun packages => pure (change packages)) :=
    Retraces.bind (installed false) fun _ => retraces_pure _
  cases request with
  | fetch refresh | installedPackages refresh => exact recountsBeside_keeping (installed refresh)
  | upgradable refresh => exact recountsBeside_keeping (upgradable refresh)
  | names => exact recountsBeside_keeping (shows _)
  | selected pattern => exact recountsBeside_keeping (shows _)
  | summary =>
      exact recountsBeside_keeping (Retraces.bind (installed false) fun _ =>
        Retraces.bind (upgradable false) fun _ => retraces_pure _)
  | _ => exact retraces_fail _

theorem Acts.performUpdateExecutor
    (allowed : ∀ command, Ecosystem.windows.Sends command → kind command)
    (cache : UpdateExecutor.Cache) (request : FleetPatch.Request) :
    RecountsBeside Agent P (Agent.performUpdateExecutor (host.recorded name) cache request)
      (Agent.performUpdateExecutor host cache request) := by
  have fixed {command : String} (listed : command ∈ [installedUpdatesScript, searchScript,
      rebootCheckScript, restartCommand]) : kind command := allowed command (.inl listed)
  cases request with
  | available refresh =>
      exact recountsBeside_keeping (Retraces.cached (acts.ask (fixed (by simp)) _))
  | act action kbIds =>
      refine recountsBeside_keeping (retells_planned (List.forall_mem_nil P) _ ?_)
      intro script ordered
      obtain ⟨entries, _, ordered⟩ := exists_of_bind_ok ordered
      obtain ⟨_, scripted, required⟩ := exists_of_bind_ok ordered
      obtain ⟨_, _, same⟩ := exists_of_bind_ok required
      cases same
      have asks := acts.ask (allowed script (.inr ⟨action, entries, scripted⟩))
        (UpdateExecutor.resultOf action)
      refine Retraces.bind (recountsBeside_second asks) fun result => ?_
      exact ⟨fun _ => ⟨[], (List.append_nil _).symm, List.forall_mem_nil P⟩, fun _ => rfl⟩
  | reboot => exact recountsBeside_plainly (acts.requestReboot (fixed (by simp)) _)
  | rebootRequired => exact recountsBeside_plainly (acts.ask (fixed (by simp)) _)
  | rebootSignals => exact recountsBeside_plainly (acts.ask (fixed (by simp)) _)
  | _ => exact retraces_fail _

theorem Acts.performPackageExecutor {manager : Manager}
    (allowed : ∀ command, (Ecosystem.packages manager).Sends command → kind command)
    (request : FleetPatch.Request) :
    RecountsBeside Agent P (Agent.performPackageExecutor (host.recorded name) manager request)
      (Agent.performPackageExecutor host manager request) := by
  cases request with
  | upgrade names =>
      refine recountsBeside_plainly (Retraces.bind (retraces_lift _) fun chosen => ?_)
      exact acts.ask (allowed _ (.inr (.inr ⟨chosen, rfl⟩))) _
  | upgradeAll => exact recountsBeside_plainly (acts.ask (allowed _ (.inr (.inl rfl))) _)
  | reboot => exact recountsBeside_plainly (acts.requestReboot (allowed _ (.inl (by simp))) _)
  | rebootRequired => exact recountsBeside_plainly (acts.ask (allowed _ (.inl (by simp))) _)
  | _ => exact retraces_fail _

/-- What an agent does over a recorded transport is what it does over the host, in steps that have
what steps with the commands of its ecosystem have. -/
theorem Acts.perform {agent : Agent}
    (allowed : ∀ command, agent.ecosystem.Sends command → kind command)
    (request : FleetPatch.Request) (history : History) (now : σ) :
    (∃ entries, (Agent.perform (host.recorded name) request (agent, (history, now))).2.2.1 =
        history ++ entries ∧ ∀ entry ∈ entries, P entry) ∧
      Agent.perform host request (agent, now) =
        Prod.map id (Prod.map id Prod.snd)
          (Agent.perform (host.recorded name) request (agent, (history, now))) := by
  have split {run : Run Fault (Agent × History × σ) Answer} {other : Run Fault (Agent × σ) Answer}
      (recounts : RecountsBeside Agent P run other) :
      (∃ entries, (run (agent, (history, now))).2.2.1 = history ++ entries ∧
          ∀ entry ∈ entries, P entry) ∧
        other (agent, now) = Prod.map id (Prod.map id Prod.snd) (run (agent, (history, now))) :=
    ⟨recounts.logs (agent, (history, now)), recounts.same (agent, (history, now))⟩
  cases agent with
  | updateQuery cache =>
      have told := split (acts.performUpdateQuery (allowed _ (.inl (by simp))) cache request)
      exact told
  | packageQuery manager cache =>
      have listing : kind manager.installedCommand := allowed _ (.inl (by simp))
      have candidates : kind manager.upgradableCommand := allowed _ (.inl (by simp))
      have told := split (acts.performPackageQuery listing candidates cache request)
      exact told
  | updateExecutor cache =>
      have told := split (acts.performUpdateExecutor allowed cache request)
      exact told
  | packageExecutor manager =>
      have told := split (acts.performPackageExecutor allowed request)
      exact told

end Host

end Web

namespace Agent

theorem keeping_ecosystem {cache : κ} (rebuild : κ → Agent) {answer : α → Answer}
    {run : Run Fault (κ × σ) α} {ecosystem : Ecosystem}
    (rebuilds : ∀ kept, (rebuild kept).ecosystem = ecosystem) (agent : Agent) (now : σ) :
    (keeping cache rebuild answer run (agent, now)).2.1.ecosystem = ecosystem := by
  rw [keeping_apply]
  exact rebuilds _

theorem plainly_ecosystem (answer : α → Answer) (run : Run Fault σ α) (agent : Agent) (now : σ) :
    (plainly answer run (agent, now)).2.1.ecosystem = agent.ecosystem := by
  rw [plainly_apply]

theorem perform_ecosystem (host : Transport σ) (request : Request) (agent : Agent) (now : σ) :
    (perform host request (agent, now)).2.1.ecosystem = agent.ecosystem := by
  cases agent with
  | updateQuery cache =>
      cases request with
      | fetch _ | installedUpdates _ | names | kbIds | summary | securityUpdates | selected _
      | between _ _ => exact keeping_ecosystem updateQuery (fun _ => rfl) (.updateQuery cache) now
      | _ => rfl
  | packageQuery manager cache =>
      cases request with
      | fetch _ | installedPackages _ | upgradable _ | names | summary | selected _ =>
          exact keeping_ecosystem (packageQuery manager) (fun _ => rfl)
            (.packageQuery manager cache) now
      | _ => rfl
  | updateExecutor cache =>
      cases request with
      | available _ | act _ _ =>
          exact keeping_ecosystem updateExecutor (fun _ => rfl) (.updateExecutor cache) now
      | reboot | rebootRequired | rebootSignals => exact plainly_ecosystem _ _ _ now
      | _ => rfl
  | packageExecutor manager =>
      cases request with
      | upgrade _ | upgradeAll | reboot | rebootRequired => exact plainly_ecosystem _ _ _ now
      | _ => rfl

/-- Whatever an agent is asked, one thing after another, it sends commands of its ecosystem. -/
theorem sends_of_deeds (name : String) (host : Transport σ) (requests : List Request)
    (agent : Agent) (now : σ) : ∀ deed ∈ deeds name host requests (agent, now),
      ∀ execution ∈ deed.exchanges.executions, agent.ecosystem.Sends execution.command := by
  have acts : Web.Acts
      (fun entry => ∀ execution ∈ entry.2.execution? entry.1,
        agent.ecosystem.Sends execution.command) agent.ecosystem.Sends name host :=
    ⟨fun _ => nofun, fun _ sends _ execution executed => by
      cases Option.some.inj executed
      exact sends⟩
  induction requests generalizing agent now with
  | nil => exact fun deed member => nomatch member
  | cons request rest continued =>
      obtain ⟨⟨entries, appended, sent⟩, _⟩ := acts.perform (fun _ sends => sends) request [] now
      have same := perform_ecosystem (host.recorded name) request agent ([], now)
      rcases performed : perform (host.recorded name) request (agent, ([], now)) with
        ⟨answer, after, exchanges, later⟩
      rw [performed] at appended same
      simp only [deeds, performed, List.forall_mem_cons]
      constructor
      · intro execution member
        obtain ⟨entry, entered, executed⟩ := List.mem_filterMap.mp member
        rw [show exchanges = entries from appended] at entered
        exact sent entry entered execution executed
      · rw [← show after.ecosystem = agent.ecosystem from same]
        exact continued after later (same ▸ acts)

end Agent

end FleetPatch
