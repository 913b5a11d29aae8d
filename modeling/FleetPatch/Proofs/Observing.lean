import FleetPatch.CommandLine.Program
import FleetPatch.Proofs.Comparisons
import FleetPatch.Proofs.Custody

/-!
# What the program does to hosts

Every command works on hosts within sessions, of which a comparison has one within the
other. A session that comes about is closed once, wherever the program stops, and one that
does not is left as it is. Within sessions only the name of a host is asked for, its
listings and whether a restart is pending. How the program ends tells whether one of its
own faults stopped it or a host failed the test.
-/

namespace FleetPatch

set_option autoImplicit false

open Run Windows

variable {σ κ α β : Type}

section Histories

/-- A step of a connection that stands, which leaves it open and sends no command but those of a
kind. -/
structure Uses (kind : String → Prop) (around : List String) (entry : String × Exchange) :
    Prop where
  stays : Stays around entry
  allowed : ∀ command outcome, entry.2 = .execute command outcome → kind command

/-- Sessions within sessions. One that comes about has a connection of its own, and a refused one
has taken its only step. -/
inductive Sessions (kind : String → Prop) : List String → History → Prop where
  | within (around : List String) (history : History)
      (uses : ∀ entry ∈ history, Uses kind around entry) : Sessions kind around history
  | refused (around : List String) (name : String) (fault : Fault) (fresh : name ∉ around) :
      Sessions kind around [(name, .connect (.error fault))]
  | session (around : List String) (name : String) (inner : History) (closed : Except Fault Unit)
      (fresh : name ∉ around) (inside : Sessions kind (name :: around) inner) :
      Sessions kind around ((name, .connect (.ok ())) :: inner ++ [(name, .close closed)])

/-- A history in which a connection that came about is closed once, behind its last step, and no
other connection is closed. -/
structure History.Released (history : History) : Prop where
  once : ∀ name, (name, .connect (.ok ())) ∈ history → history.closed.count name = 1
  opened : ∀ name ∈ history.closed, (name, .connect (.ok ())) ∈ history
  last : history.Pairwise fun earlier later => earlier.2.closed? ≠ none → later.1 ≠ earlier.1

namespace Sessions

variable {kind : String → Prop} {around : List String} {history : History}

theorem closed_of_uses (uses : ∀ entry ∈ history, Uses kind around entry) : history.closed = [] :=
  closed_of_stays fun entry member => (uses entry member).stays

theorem opened (sessions : Sessions kind around history) :
    ∀ name ∈ history.closed, name ∉ around ∧ (name, .connect (.ok ())) ∈ history := by
  induction sessions with
  | within around history uses =>
      rw [closed_of_uses uses]
      exact fun _ member => nomatch member
  | refused => exact fun _ member => nomatch member
  | session around name inner closed fresh _ ih =>
      rw [closed_visit]
      intro other member
      rcases List.mem_append.mp member with inside | last
      · obtain ⟨outside, opened⟩ := ih other inside
        exact ⟨fun stands => outside (List.mem_cons_of_mem _ stands), by simp [opened]⟩
      · rw [List.mem_singleton.mp last]
        exact ⟨fresh, by simp⟩

theorem once (sessions : Sessions kind around history) {name : String} (fresh : name ∉ around)
    (came : (name, .connect (.ok ())) ∈ history) : history.closed.count name = 1 := by
  induction sessions with
  | within around history uses => exact absurd (uses _ came).stays.1 fresh
  | refused => simp at came
  | session around other inner closed _ inside ih =>
      rw [closed_visit, List.count_append]
      by_cases same : other = name
      · have again : name ∉ inner.closed := fun member =>
          (inside.opened name member).1 (same ▸ List.mem_cons_self)
        rw [List.count_eq_zero.mpr again, same, List.count_singleton_self]
      · have within : (name, .connect (.ok ())) ∈ inner := by simpa [Ne.symm same] using came
        rw [ih (by simp [Ne.symm same, fresh]) within]
        simp [same]

theorem last (sessions : Sessions kind around history) :
    history.Pairwise fun earlier later => earlier.2.closed? ≠ none → later.1 ≠ earlier.1 := by
  induction sessions with
  | within around history uses =>
      apply List.pairwise_of_forall_mem_list
      intro earlier member _ _ closes
      exact absurd (uses earlier member).stays.2 closes
  | refused => exact List.pairwise_singleton _ _
  | session around name inner closed _ inside ih =>
      apply List.pairwise_append.mpr
      refine ⟨List.pairwise_cons.mpr ⟨fun _ _ closes => absurd rfl closes, ih⟩,
        List.pairwise_singleton _ _, ?_⟩
      intro earlier member later behind closes same
      rw [List.mem_singleton.mp behind] at same
      have entered : earlier ∈ inner :=
        (List.mem_cons.mp member).resolve_left fun first => closes (by rw [first]; rfl)
      exact (inside.opened _ (mem_closed entered closes)).1 (by simp [← same])

theorem released (sessions : Sessions kind [] history) : history.Released where
  once _ came := sessions.once List.not_mem_nil came
  opened name closed := (sessions.opened name closed).2
  last := sessions.last

theorem allowed (sessions : Sessions kind around history) :
    ∀ execution ∈ history.executions, kind execution.command := by
  induction sessions with
  | within around history uses =>
      intro execution member
      obtain ⟨⟨name, exchange⟩, entered, executed⟩ := List.mem_filterMap.mp member
      cases exchange with
      | execute command outcome =>
          cases Option.some.inj executed
          exact (uses _ entered).allowed command outcome rfl
      | connect | close => cases executed
  | refused => exact fun _ member => nomatch member
  | session around name inner closed _ _ ih =>
      intro execution member
      rw [executions_append] at member
      rcases List.mem_append.mp member with inside | last
      · exact ih execution inside
      · cases last

end Sessions

/-- What a session tells. -/
inductive SessionTold (name : String) (work : Told Fault α) : Told Fault α where
  | refused (fault : Fault) :
      SessionTold name work [(name, .connect (.error fault))] (.error fault)
  | held (inner : History) (outcome : Except Fault α) (closed : Except Fault Unit)
      (told : work inner outcome) :
      SessionTold name work ((name, .connect (.ok ())) :: inner ++ [(name, .close closed)])
        (closed.bind fun _ => outcome)

theorem records_session (name : String) (host : Transport σ) {work : Run Fault (History × σ) α}
    {told : Told Fault α} (works : Records work told) :
    Records ((host.recorded name).session work) (SessionTold name told) := by
  have connects := records_recording name .connect host.connect
  have closes := records_recording name .close host.close
  refine (Logs.bind connects fun _ => Logs.ensuring works closes).mono ?_
  intro exchanges outcome tells
  cases tells with
  | stopped _ fault connecting =>
      cases connecting with
      | step => exact .refused fault
  | went _ later _ _ connecting ended =>
      cases connecting with
      | step =>
          cases ended with
          | ended inner _ result closed works closing =>
              cases closing with
              | step => exact .held inner result closed works

theorem sessions_session {kind : String → Prop} {name : String} {around : List String}
    (fresh : name ∉ around) (host : Transport σ) {work : Run Fault (History × σ) α}
    {otherWork : Run Fault σ α}
    (works : Retells Prod.fst Prod.snd (Sessions kind (name :: around)) work otherWork) :
    Retells Prod.fst Prod.snd (Sessions kind around) ((host.recorded name).session work)
      (host.session otherWork) where
  logs := by
    refine (records_session name host works.logs).mono ?_
    intro exchanges outcome told
    cases told with
    | refused fault => exact .refused around name fault fresh
    | held inner _ closed inside => exact .session around name inner closed fresh inside
  same := by
    have connects : Echoes Prod.snd (host.recorded name).connect host.connect := fun _ => rfl
    have closes : Echoes Prod.snd (host.recorded name).close host.close := fun _ => rfl
    exact connects.bind fun _ => works.same.ensuring closes

theorem acts_uses (kind : String → Prop) {name : String} {around : List String}
    (stands : name ∈ around) (host : Transport σ) :
    Web.Acts (Uses kind around) kind name host where
  connects _ := ⟨⟨stands, rfl⟩, nofun⟩
  executes command allowed _ := by
    refine ⟨⟨stands, rfl⟩, ?_⟩
    rintro _ _ ⟨⟩
    exact allowed

end Histories

namespace CommandLine

/-- The commands that name a host, list what is installed or can be upgraded, and check for a
restart. -/
def programCommands : List String := [
  nameCommand,
  installedUpdatesScript,
  rebootCheckScript,
  Manager.apt.installedCommand,
  Manager.apt.upgradableCommand,
  Manager.apt.rebootCheckCommand,
  Manager.dnf.installedCommand,
  Manager.dnf.upgradableCommand,
  Manager.dnf.rebootCheckCommand]

theorem listing_member (ecosystem : Ecosystem) : ecosystem.listingCommand ∈ programCommands := by
  rcases ecosystem with _ | manager
  · simp only [Ecosystem.listingCommand, programCommands, List.mem_cons, true_or, or_true]
  · cases manager <;>
      simp only [Ecosystem.listingCommand, programCommands, List.mem_cons, true_or, or_true]

theorem upgradable_member (manager : Manager) : manager.upgradableCommand ∈ programCommands := by
  cases manager <;> simp only [programCommands, List.mem_cons, true_or, or_true]

theorem check_member (ecosystem : Ecosystem) : ecosystem.rebootCheck ∈ programCommands := by
  rcases ecosystem with _ | manager
  · simp only [Ecosystem.rebootCheck, programCommands, List.mem_cons, true_or, or_true]
  · cases manager <;>
      simp only [Ecosystem.rebootCheck, programCommands, List.mem_cons, true_or, or_true]

/-- A command that changes a host or prepares to. -/
def Changes (command : String) : Prop :=
  IsActionScript command ∨ IsUpgradeCommand command ∨ IsRestartCommand command

theorem name_unchanging : ¬ Changes nameCommand := by
  have begins : ∃ lead ∈ ["hostname"], Begins lead nameCommand :=
    ⟨"hostname", List.mem_singleton_self _, "", rfl⟩
  rintro (⟨action, digits, acts⟩ | upgrades | restarts)
  · exact ne_of_leads begins (action_begins action _) (by decide) acts
  · exact ne_of_leads begins (upgrade_begins upgrades) (by decide) rfl
  · exact ne_of_leads begins (restart_begins restarts) (by decide) rfl

theorem program_unchanging {command : String} (member : command ∈ programCommands) :
    ¬ Changes command := by
  rcases List.mem_cons.mp member with rfl | member
  · exact name_unchanging
  · have observes : command ∈ observingCommands := by
      simp only [List.mem_cons, List.not_mem_nil, or_false] at member
      rcases member with rfl | rfl | rfl | rfl | rfl | rfl | rfl | rfl <;>
        simp only [observingCommands, List.mem_cons, true_or, or_true]
    rintro (acts | upgrades | restarts)
    · exact observing_not_action observes acts
    · exact observing_not_upgrade observes upgrades
    · exact observing_not_restart observes restarts

def Site.named (site : Site σ) (name : String) : Site (History × σ) where
  files := site.files
  installation := site.installation
  environment := site.environment
  stack := site.stack
  hosts host := (site.hosts host).recorded name

def Site.over (site : Site σ) (hosts : String → Transport σ) : Site σ := { site with hosts }

/-- A comparison whose second session is one with a site of its own. -/
def compareOver (outer inner : Site σ) (inventory : Inventory) (first second : Json) :
    Printing σ Nat := do
  let (left, leftName) ← Run.lift (findAsset inventory first)
  let (right, rightName) ← Run.lift (findAsset inventory second)
  let leftWindows ← Run.lift left.isWindows
  let rightWindows ← Run.lift right.isWindows
  if leftWindows ≠ rightWindows then Run.fail (.commandLine .mixedSystems)
  let comparison ← Run.second (outer.withTransport inventory left fun leftHost =>
    inner.withTransport inventory right fun rightHost => do
      let leftEcosystem ← Run.lift (Ecosystem.ofJson (.str leftName))
      let rightEcosystem ← Run.lift (Ecosystem.ofJson (.str rightName))
      Comparison.ofRuns (leftEcosystem.keys leftHost) (rightEcosystem.keys rightHost))
  lines ([
    "Comparing " ++ left.hostname.text ++ " with " ++ right.hostname.text,
    s!"  Common: {comparison.common.length}"] ++
    onlyLines left comparison.onlyFirst ++ onlyLines right comparison.onlySecond)
  pure 0

def performOver (outer inner : Site σ) (inventory : Inventory) : Command → Printing σ Nat
  | .compare first second => compareOver outer inner inventory first second
  | command => perform outer inventory command

def carryOutOver (outer inner : Site σ) (arguments : Arguments) : Printing σ Nat := do
  let path := Inventory.location outer.installation outer.environment arguments.inventory
  let inventory ← Run.lift (Inventory.load outer.files path)
  performOver outer inner inventory arguments.command

def endingOf (carriedOut : Arguments → Printing σ Nat) (words : List String) (hosts : σ) :
    Ending × σ :=
  match Arguments.read words with
  | .error .help => (⟨.ok 0, ""⟩, hosts)
  | .error .misuse => (⟨.ok 2, ""⟩, hosts)
  | .ok arguments =>
      match tellingFaults (carriedOut arguments) ("", hosts) with
      | (outcome, (printed, after)) => (⟨outcome, printed⟩, after)

theorem run_eq_endingOf (site : Site σ) (words : List String) (hosts : σ) :
    run site words hosts = endingOf (carryOutOver site site) words hosts := by
  have same : carryOutOver site site = carryOut site := by
    funext arguments
    unfold carryOutOver carryOut
    cases arguments.command <;> rfl
  rw [same]
  rfl

section Quiet

abbrev Aside (run : Printing (History × σ) α) (other : Printing σ α) : Prop :=
  RetellsNothing (fun state => state.2.1) (Prod.map id Prod.snd) run other

theorem aside_line (text : String) : Aside (σ := σ) (line text) (line text) := retells_first _

theorem aside_lift (outcome : Except Fault α) :
    Aside (σ := σ) (Run.lift outcome) (Run.lift outcome) := retellsNothing_lift outcome

theorem Aside.bind {run : Printing (History × σ) α} {other : Printing σ α}
    {next : α → Printing (History × σ) β} {otherNext : α → Printing σ β} (first : Aside run other)
    (rest : ∀ value, Aside (next value) (otherNext value)) :
    Aside (run >>= next) (other >>= otherNext) := Retells.before first rest

theorem aside_lines (texts : List String) : Aside (σ := σ) (lines texts) (lines texts) := by
  induction texts with
  | nil => exact aside_lift (.ok _)
  | cons text rest ih => exact (aside_line text).bind fun _ => ih

theorem aside_if {condition : Prop} [Decidable condition]
    {run alternative : Printing (History × σ) α}
    {other otherAlternative : Printing σ α} (aside : Aside run other)
    (alternatively : Aside alternative otherAlternative) :
    Aside (if condition then run else alternative)
      (if condition then other else otherAlternative) := by
  split
  · exact aside
  · exact alternatively

theorem aside_printReply (reply : Reply) : Aside (σ := σ) (printReply reply)
    (printReply reply) := by
  refine (aside_line _).bind fun _ => (aside_lift _).bind fun stdout => ?_
  refine (aside_line _).bind fun _ => (aside_lift _).bind fun stderr => ?_
  refine aside_if ((aside_line _).bind fun _ => ?_) ?_
  all_goals
    refine (aside_line _).bind fun _ => aside_if ?_ ?_
    · exact (aside_line _).bind fun _ => aside_lift (.ok 0)
    · exact (aside_line _).bind fun _ => aside_lift (.ok 1)

end Quiet

section Works

variable {name : String} {around : List String} (stands : name ∈ around) (host : Transport σ)

include stands

theorem uses_keys (ecosystem : Ecosystem) :
    Web.Recounts (Uses (· ∈ programCommands) around) (ecosystem.keys (host.recorded name))
      (ecosystem.keys host) := by
  rw [keys_eq_ask, keys_eq_ask]
  exact (acts_uses _ stands host).ask (listing_member ecosystem) _

theorem uses_summary (ecosystem : Ecosystem) :
    Web.Recounts (Uses (· ∈ programCommands) around) (ecosystem.summary (host.recorded name))
      (ecosystem.summary host) := by
  have acts := acts_uses (· ∈ programCommands) stands host
  cases ecosystem with
  | windows =>
      have lists := acts.ask (listing_member .windows) UpdateQuery.installedOf
      exact Retraces.withFresh (Retraces.bind (Retraces.cached lists) fun _ => retraces_pure _)
  | packages manager =>
      have lists := acts.ask (listing_member (.packages manager)) (PackageQuery.installedOf manager)
      have candidates := acts.ask (upgradable_member manager) fun reply =>
        .ok (manager.upgradable (reply.stdout.getD ""))
      exact Retraces.withFresh (Retraces.bind (Retraces.cached lists) fun _ =>
        Retraces.bind (Retraces.cached candidates) fun _ => retraces_pure _)

theorem uses_pendingOn (asset : Asset) (ecosystemName : String) :
    Web.Recounts (Uses (· ∈ programCommands) around)
      (pendingOn asset ecosystemName (host.recorded name))
        (pendingOn asset ecosystemName host) := by
  have acts := acts_uses (· ∈ programCommands) stands host
  apply Retraces.bind (retraces_lift _)
  intro ecosystem
  apply Retraces.bind (retraces_lift _)
  intro windows
  cases windows with
  | true =>
      have signals := acts.ask (check_member .windows) UpdateExecutor.signalsOf
      exact Retraces.bind signals fun _ => retraces_pure _
  | false =>
      rw [ecosystem.rebootRequired_eq_ask, ecosystem.rebootRequired_eq_ask]
      exact Retraces.bind (acts.ask (check_member ecosystem) _) fun _ => retraces_pure _

end Works

section Commands

/-- A run of a command over named connections that ends as it does over the hosts, and whose history
is one of sessions. -/
abbrev Shown (run : Printing (History × σ) α) (other : Printing σ α) : Prop :=
  Retells (fun state => state.2.1) (Prod.map id Prod.snd) (Sessions (· ∈ programCommands) []) run
    other

theorem sessions_nil (around : List String) : Sessions (· ∈ programCommands) around [] :=
  .within around [] (List.forall_mem_nil _)

theorem sessions_withTransport (site : Site σ) {name : String} {around : List String}
    (fresh : name ∉ around) (inventory : Inventory) (asset : Asset)
    {work : Transport (History × σ) → Run Fault (History × σ) α}
    {otherWork : Transport σ → Run Fault σ α}
    (works : Retells Prod.fst Prod.snd (Sessions (· ∈ programCommands) (name :: around))
      (work ((site.hosts asset.hostname.text).recorded name))
      (otherWork (site.hosts asset.hostname.text))) :
    Retells Prod.fst Prod.snd (Sessions (· ∈ programCommands) around)
      ((site.named name).withTransport inventory asset work)
      (site.withTransport inventory asset otherWork) := by
  apply retells_planned (sessions_nil around)
  intro _ _
  exact sessions_session fresh _ works

/-- A command that works in one session. -/
theorem shown_session (site : Site σ) (inventory : Inventory) (asset : Asset)
    {work : Transport (History × σ) → Run Fault (History × σ) α}
    {otherWork : Transport σ → Run Fault σ α}
    (works : Web.Recounts (Uses (· ∈ programCommands) ["first"])
      (work ((site.hosts asset.hostname.text).recorded "first"))
      (otherWork (site.hosts asset.hostname.text))) :
    Shown (Run.second ((site.named "first").withTransport inventory asset work))
      (Run.second (site.withTransport inventory asset otherWork)) :=
  (sessions_withTransport site List.not_mem_nil inventory asset
    (works.mono fun inner uses => .within _ inner uses)).second

variable (site : Site σ) (inventory : Inventory)

theorem shown_test (name : Json) :
    Shown (test (site.named "first") inventory name) (test site inventory name) := by
  apply retells_planned (sessions_nil [])
  intro (asset, _) _
  refine Retells.behind (sessions_nil []) (aside_lines _) fun _ => ?_
  refine Retells.before (shown_session site inventory asset ?_) fun reply => aside_printReply reply
  exact (acts_uses _ (by simp) _).execute List.mem_cons_self

theorem shown_summarize (name : Option Json) :
    Shown (summarize (site.named "first") inventory name) (summarize site inventory name) := by
  unfold summarize
  cases name.filter Json.isPresent with
  | none =>
      apply retells_planned (sessions_nil [])
      intro text _
      exact ((aside_line text).bind fun _ => aside_lift (.ok 0)).mono fun _ none =>
        none ▸ sessions_nil []
  | some name =>
      apply retells_planned (sessions_nil [])
      intro (asset, ecosystemName) _
      refine Retells.before (shown_session site inventory asset ?_) fun text =>
        (aside_lines _).bind fun _ => aside_lift (.ok 0)
      exact Retraces.bind (retraces_lift _) fun ecosystem => uses_summary (by simp) _ ecosystem

theorem shown_rebootStatus (name : Json) :
    Shown (rebootStatus (site.named "first") inventory name)
      (rebootStatus site inventory name) := by
  apply retells_planned (sessions_nil [])
  intro (asset, ecosystemName) _
  refine Retells.before (shown_session site inventory asset
    (uses_pendingOn (by simp) _ asset ecosystemName)) fun (pending, markers) => ?_
  refine (aside_line _).bind fun _ => (aside_lines _).bind fun _ => ?_
  refine aside_if ((aside_line _).bind fun _ => ?_) ?_
  · exact aside_lift (.ok 0)
  · exact aside_lift (.ok 0)

theorem sessions_comparison (others : String → Transport σ) (left right : Asset)
    (leftName rightName : String) :
    Retells Prod.fst Prod.snd (Sessions (· ∈ programCommands) [])
      ((site.named "first").withTransport inventory left fun leftHost =>
        ((site.over others).named "second").withTransport inventory right fun rightHost => do
          let leftEcosystem ← Run.lift (Ecosystem.ofJson (.str leftName))
          let rightEcosystem ← Run.lift (Ecosystem.ofJson (.str rightName))
          Comparison.ofRuns (leftEcosystem.keys leftHost) (rightEcosystem.keys rightHost))
      (site.withTransport inventory left fun leftHost =>
        (site.over others).withTransport inventory right fun rightHost => do
          let leftEcosystem ← Run.lift (Ecosystem.ofJson (.str leftName))
          let rightEcosystem ← Run.lift (Ecosystem.ofJson (.str rightName))
          Comparison.ofRuns (leftEcosystem.keys leftHost) (rightEcosystem.keys rightHost)) := by
  apply sessions_withTransport site List.not_mem_nil inventory left
  apply sessions_withTransport (site.over others) (by simp) inventory right
  refine Retells.mono ?_ fun inner uses => .within ["second", "first"] inner uses
  refine Retraces.bind (retraces_lift _) fun leftEcosystem => ?_
  refine Retraces.bind (retraces_lift _) fun rightEcosystem => ?_
  refine Retraces.bind (uses_keys (by simp) _ leftEcosystem) fun _ => ?_
  exact Retraces.bind (uses_keys (by simp) _ rightEcosystem) fun _ => retraces_pure _

theorem shown_compareOver (others : String → Transport σ) (first second : Json) :
    Shown
      (compareOver (site.named "first") ((site.over others).named "second") inventory first second)
      (compareOver site (site.over others) inventory first second) := by
  apply retells_planned (sessions_nil [])
  intro (left, leftName) _
  apply retells_planned (sessions_nil [])
  intro (right, rightName) _
  apply retells_planned (sessions_nil [])
  intro leftWindows _
  apply retells_planned (sessions_nil [])
  intro rightWindows _
  dsimp only
  split
  · refine Retells.behind (sessions_nil []) (aside_lift (.error _)) fun _ => ?_
    refine Retells.before (sessions_comparison site inventory others left right _ _).second ?_
    exact fun _ => (aside_lines _).bind fun _ => aside_lift (.ok 0)
  · refine Retells.before (sessions_comparison site inventory others left right _ _).second ?_
    exact fun _ => (aside_lines _).bind fun _ => aside_lift (.ok 0)

theorem shown_carryOutOver (others : String → Transport σ) (arguments : Arguments) :
    Shown (carryOutOver (site.named "first") ((site.over others).named "second") arguments)
      (carryOutOver site (site.over others) arguments) := by
  apply retells_planned (sessions_nil [])
  intro inventory _
  cases arguments.command with
  | test name => exact shown_test site inventory name
  | summary name => exact shown_summarize site inventory name
  | compare first second => exact shown_compareOver site inventory others first second
  | rebootStatus name => exact shown_rebootStatus site inventory name

theorem shown_tellingFaults {run : Printing (History × σ) Nat} {other : Printing σ Nat}
    (shown : Shown run other) : Shown (tellingFaults run) (tellingFaults other) := by
  apply shown.handled
  intro fault
  split
  · exact (aside_line _).bind fun _ => aside_lift (.ok 1)
  · exact aside_lift (.error fault)

end Commands

section Codes

def Gives (given : α) (run : Printing σ α) : Prop :=
  ∀ now value, (run now).1 = .ok value → value = given

theorem gives_pure (given : α) : Gives (σ := σ) given (pure given) := by
  intro _ _ same
  exact (Except.ok.inj same).symm

theorem gives_bind {given : β} {run : Printing σ α} {next : α → Printing σ β}
    (rest : ∀ value, Gives given (next value)) : Gives given (run >>= next) := by
  intro now value came
  rcases stepped : run now with ⟨outcome, after⟩
  cases outcome with
  | error fault =>
      rw [bind_apply_error stepped] at came
      cases came
  | ok first =>
      rw [bind_apply_ok stepped] at came
      exact rest first after value came

theorem gives_if {condition : Prop} [Decidable condition] {given : α} {run other : Printing σ α}
    (first : condition → Gives given run) (second : ¬ condition → Gives given other) :
    Gives given (if condition then run else other) := by
  split
  next holds => exact first holds
  next fails => exact second fails

def testCode (reply : Reply) : Nat := if reply.succeeded then 0 else 1

theorem gives_printReply (reply : Reply) : Gives (σ := σ) (testCode reply) (printReply reply) := by
  refine gives_bind fun _ => gives_bind fun _ => gives_bind fun _ => gives_bind fun _ => ?_
  have decided : Gives (σ := σ) (testCode reply)
      (if reply.succeeded then do
        line "\nConnection test successful!"
        pure 0
      else do
        line "\nConnection test failed"
        pure 1) := by
    unfold testCode
    refine gives_if (fun holds => gives_bind fun _ => ?_) (fun fails => gives_bind fun _ => ?_)
    · rw [if_pos holds]
      exact gives_pure 0
    · rw [if_neg fails]
      exact gives_pure 1
  exact gives_if (fun _ => gives_bind fun _ => gives_bind fun _ => decided) fun _ =>
    gives_bind fun _ => decided

variable (site : Site σ) (inventory : Inventory)

theorem gives_summarize (name : Option Json) : Gives 0 (summarize site inventory name) := by
  unfold summarize
  cases name.filter Json.isPresent with
  | none => exact gives_bind fun _ => gives_bind fun _ => gives_pure 0
  | some name =>
      exact gives_bind fun (_, _) => gives_bind fun _ => gives_bind fun _ => gives_pure 0

theorem gives_rebootStatus (name : Json) : Gives 0 (rebootStatus site inventory name) := by
  refine gives_bind fun (_, _) => gives_bind fun (_, _) => gives_bind fun _ =>
    gives_bind fun _ => ?_
  exact gives_if (fun _ => gives_bind fun _ => gives_pure 0) fun _ => gives_pure 0

theorem gives_compareOver (inner : Site σ) (first second : Json) :
    Gives 0 (compareOver site inner inventory first second) := by
  refine gives_bind fun (_, _) => gives_bind fun (_, _) => gives_bind fun _ =>
    gives_bind fun _ => ?_
  refine gives_if (fun _ => gives_bind fun _ => ?_) fun _ => ?_
  all_goals exact gives_bind fun _ => gives_bind fun _ => gives_pure 0

def Tested (history : History) (code : Nat) : Prop :=
  ∃ host reply, history.executions = [⟨host, nameCommand, .ok reply⟩] ∧ code = testCode reply

theorem executions_of_session {name command : String} {history : History} {reply : Reply}
    {outcome : Except Fault Reply}
    (told : SessionTold name (Executed name command) history outcome)
    (answered : outcome = .ok reply) : history.executions = [⟨name, command, .ok reply⟩] := by
  cases told with
  | refused => cases answered
  | held inner came closed executed =>
      cases closed with
      | error fault => cases answered
      | ok _ =>
          have came : came = .ok reply := answered
          rw [came] at executed
          rw [executions_append]
          exact (List.append_nil _).trans executed.executions_of_ok

/-- A test that gives a code has asked its host for its name. -/
theorem test_tells (name : Json) :
    Logs (fun state : String × History × σ => state.2.1) (test (site.named "first") inventory name)
      fun entries outcome => ∀ code, outcome = .ok code → Tested entries code := by
  refine (aside_lift _).logs.behind (fun _ _ => nofun) fun (asset, _) => ?_
  refine (aside_lines _).logs.behind (fun _ _ => nofun) fun _ => ?_
  have executes : Records ((site.named "first").withTransport inventory asset fun host =>
      host.execute nameCommand) fun entries outcome => ∀ reply, outcome = .ok reply →
        History.executions entries = [⟨"first", nameCommand, .ok reply⟩] := by
    refine ((logs_lift _).mono fun _ _ quiet => quiet.1).behind (fun _ _ => nofun) fun _ => ?_
    refine (records_session "first" _ (records_execute "first" _ nameCommand)).mono ?_
    exact fun _ _ told _ answered => executions_of_session told answered
  have prints (reply : Reply) : Logs (fun state : String × History × σ => state.2.1)
      (printReply reply) fun entries outcome => entries = [] ∧
        ∀ code, outcome = .ok code → code = testCode reply := by
    intro now
    obtain ⟨entries, appended, none⟩ := (aside_printReply reply).logs now
    exact ⟨entries, appended, none, gives_printReply reply now⟩
  refine (executes.second.bind prints).mono ?_
  intro entries outcome tells code came
  cases tells with
  | stopped => cases came
  | went earlier later reply _ executed printed =>
      rw [printed.1, List.append_nil]
      exact ⟨_, reply, executed reply rfl, printed.2 code came⟩

/-- What a command that gives a code tells: a test has asked its host, and all else gives zero. -/
def CodeTold (command : Command) : Told Fault Nat := fun entries outcome =>
  ∀ code, outcome = .ok code →
    (∃ name, command = .test name) ∧ Tested entries code ∨
      (∀ name, command ≠ .test name) ∧ code = 0

theorem tells_of_gives {command : Command} {run : Printing (History × σ) Nat}
    {other : Printing σ Nat}
    (untested : ∀ name, command ≠ .test name) (shown : Shown run other) (gives : Gives 0 run) :
    Logs (fun state : String × History × σ => state.2.1) run (CodeTold command) := by
  intro now
  obtain ⟨entries, appended, _⟩ := shown.logs now
  exact ⟨entries, appended, fun code came => .inr ⟨untested, gives now code came⟩⟩

theorem carryOutOver_tells (others : String → Transport σ) (arguments : Arguments) :
    Logs (fun state : String × History × σ => state.2.1)
      (carryOutOver (site.named "first") ((site.over others).named "second") arguments)
      (CodeTold arguments.command) := by
  refine (aside_lift _).logs.behind (fun _ _ => nofun) fun inventory => ?_
  cases arguments.command with
  | test name =>
      refine (test_tells site inventory name).mono fun _ _ told code came => ?_
      exact .inl ⟨⟨name, rfl⟩, told code came⟩
  | summary name =>
      exact tells_of_gives nofun (shown_summarize site inventory name) (gives_summarize _ _ name)
  | compare first second =>
      exact tells_of_gives nofun (shown_compareOver site inventory others first second)
        (gives_compareOver _ _ _ first second)
  | rebootStatus name =>
      exact tells_of_gives nofun (shown_rebootStatus site inventory name)
        (gives_rebootStatus _ _ name)

end Codes

structure FailedTest (command : Command) (history : History) : Prop where
  test : ∃ name, command = .test name
  failed : ∃ execution ∈ history.executions, execution.command = nameCommand ∧
    ∃ reply, execution.outcome = .ok reply ∧ reply.exitCode ≠ some 0

theorem failedTest_iff {command : Command} {history : History} {code : Nat}
    (test : ∃ name, command = .test name) (tested : Tested history code) :
    FailedTest command history ↔ code = 1 := by
  obtain ⟨host, reply, executed, rfl⟩ := tested
  have succeeded : reply.succeeded = true ↔ reply.exitCode = some 0 := beq_iff_eq
  constructor
  · rintro ⟨_, execution, member, _, other, answered, failed⟩
    rw [executed] at member
    cases List.mem_singleton.mp member
    cases answered
    exact if_neg (mt succeeded.mp failed)
  · intro failed
    refine ⟨test, _, executed ▸ List.mem_singleton_self _, rfl, reply, rfl, fun zero => ?_⟩
    rw [testCode, if_pos (succeeded.mpr zero)] at failed
    cases failed

theorem faultLine_eq_none {fault : Fault} : faultLine? fault = none ↔ fault.isOwn = false := by
  unfold faultLine?
  cases fault <;> simp [Fault.isOwn]

namespace Site

variable (site : Site σ)

/-- A run of the program whose connections are named. The second one of a comparison leads to a host
of its own, also where both are to one asset. -/
def runApart (others : String → Transport σ) (words : List String) (hosts : History × σ) :
    Ending × (History × σ) :=
  endingOf (carryOutOver (site.named "first") ((site.over others).named "second")) words hosts

def custody (others : String → Transport σ) (words : List String) (now : σ) : History :=
  (site.runApart others words ([], now)).2.1

end Site

variable (site : Site σ) (others : String → Transport σ) {words : List String}
  {arguments : Arguments}

theorem endingOf_of_read (read : Arguments.read words = .ok arguments)
    (carriedOut : Arguments → Printing σ Nat) (hosts : σ) :
    endingOf carriedOut words hosts =
      (⟨(tellingFaults (carriedOut arguments) ("", hosts)).1,
        (tellingFaults (carriedOut arguments) ("", hosts)).2.1⟩,
        (tellingFaults (carriedOut arguments) ("", hosts)).2.2) := by
  unfold endingOf
  rw [read]

theorem custody_sessions (words : List String) (now : σ) :
    Sessions (· ∈ programCommands) [] (site.custody others words now) := by
  unfold Site.custody Site.runApart
  cases read : Arguments.read words with
  | error stop =>
      unfold endingOf
      rw [read]
      cases stop <;> exact sessions_nil []
  | ok arguments =>
      rw [endingOf_of_read read]
      obtain ⟨entries, appended, sessions⟩ :=
        (shown_tellingFaults (shown_carryOutOver site others arguments)).logs ("", [], now)
      dsimp only at appended ⊢
      rw [appended]
      exact sessions

/-- Naming connections changes neither how the program ends nor what becomes of the hosts. -/
theorem run_apart (words : List String) (history : History) (now : σ) :
    run site words now =
      ((site.runApart site.hosts words (history, now)).1,
        (site.runApart site.hosts words (history, now)).2.2) := by
  rw [run_eq_endingOf]
  unfold Site.runApart
  cases read : Arguments.read words with
  | error stop =>
      unfold endingOf
      rw [read]
      cases stop <;> rfl
  | ok arguments =>
      have same : tellingFaults (carryOutOver site site arguments) ("", now) = _ :=
        (shown_tellingFaults (shown_carryOutOver site site.hosts arguments)).same ("", history, now)
      rw [endingOf_of_read read, endingOf_of_read read, same]
      rfl

/-- A run that is understood and ends with a code ends with one if one of the program's own faults
stopped it or its test failed, and else with zero. -/
theorem code_iff (read : Arguments.read words = .ok arguments) {now : σ} {code : Nat}
    (ended : (site.runApart others words ([], now)).1.outcome = .ok code) :
    (code = 0 ∨ code = 1) ∧
      (code = 1 ↔
        (∃ fault, (carryOutOver site (site.over others) arguments ("", now)).1 = .error fault ∧
          fault.isOwn = true) ∨
        FailedTest arguments.command (site.custody others words now)) := by
  obtain ⟨entries, appended, tells⟩ := carryOutOver_tells site others arguments ("", [], now)
  have same : carryOutOver site (site.over others) arguments ("", now) = _ :=
    (shown_carryOutOver site others arguments).same ("", [], now)
  unfold Site.custody Site.runApart at *
  rw [endingOf_of_read read] at ended ⊢
  rw [same]
  rcases carried : carryOutOver (site.named "first") ((site.over others).named "second") arguments
    ("", [], now) with ⟨outcome, state⟩
  rw [carried] at appended tells
  cases outcome with
  | ok value =>
      have told : tellingFaults _ ("", [], now) = (.ok value, state) := orHandle_apply_ok carried
      rw [told] at ended ⊢
      cases ended
      have unstopped : ¬ ∃ fault, (Except.ok code : Except Fault Nat) = .error fault ∧
          fault.isOwn = true := by
        rintro ⟨_, ⟨⟩, _⟩
      rw [or_iff_right unstopped]
      have history : state.2.1 = entries := appended.trans (List.nil_append entries)
      dsimp only
      rw [history]
      rcases tells code rfl with ⟨test, tested⟩ | ⟨untested, rfl⟩
      · have binary : code = 0 ∨ code = 1 := by
          obtain ⟨_, reply, _, rfl⟩ := tested
          unfold testCode
          split
          · exact .inl rfl
          · exact .inr rfl
        exact ⟨binary, (failedTest_iff test tested).symm⟩
      · refine ⟨.inl rfl, iff_of_false Nat.zero_ne_one fun failed => ?_⟩
        obtain ⟨name, test⟩ := failed.test
        exact untested name test
  | error fault =>
      have told : tellingFaults _ ("", [], now) = _ := orHandle_apply_error carried
      rw [told] at ended ⊢
      cases line : faultLine? fault with
      | none =>
          rw [line] at ended
          cases ended
      | some text =>
          rw [line] at ended
          cases ended
          have own : fault.isOwn = true := by
            rw [← Bool.not_eq_false, ← faultLine_eq_none, line]
            exact Option.some_ne_none text
          exact ⟨.inr rfl, iff_of_true rfl (.inl ⟨fault, rfl, own⟩)⟩

/-- The program only observes. It executes no command but those that name, list and check, every
connection that came about is closed once and last, a code tells whether the program was stopped
or its test failed, and naming the connections changes none of it. -/
theorem program_observes (words : List String) (now : σ) :
    (∀ execution ∈ (site.custody others words now).executions,
      execution.command ∈ programCommands ∧ ¬ Changes execution.command) ∧
    (site.custody others words now).Released ∧
    (∀ arguments, Arguments.read words = .ok arguments → ∀ code,
      (site.runApart others words ([], now)).1.outcome = .ok code →
        (code = 0 ∨ code = 1) ∧
        (code = 1 ↔
          (∃ fault, (carryOutOver site (site.over others) arguments ("", now)).1 = .error fault ∧
            fault.isOwn = true) ∨
          FailedTest arguments.command (site.custody others words now))) ∧
    run site words now =
      ((site.runApart site.hosts words ([], now)).1,
        (site.runApart site.hosts words ([], now)).2.2) := by
  have sessions := custody_sessions site others words now
  refine ⟨fun execution member => ?_, sessions.released, ?_, run_apart site words [] now⟩
  · have listed := sessions.allowed execution member
    exact ⟨listed, program_unchanging listed⟩
  · intro arguments read code ended
    exact code_iff site others read ended

def failingSite : Site Unit where
  files := fun _ => some (.text (
    "\x7b\"credentials\": \x7b\"ops\": \x7b\"username\": \"u\"\x7d\x7d, " ++
    "\"assets\": [\x7b\"hostname\": \"web\", \"ip\": \"10.0.0.5\", \"os\": \"linux\", " ++
    "\"credential_ref\": \"ops\"\x7d]\x7d"))
  installation := ""
  environment := []
  stack := .upTo 100
  hosts := fun _ => ⟨fun _ => true, pure (), fun _ => pure ⟨some "", some "", some 3⟩, pure ()⟩

def isCode (code : Nat) : Except Fault Nat → Bool
  | .ok other => other == code
  | .error _ => false

theorem eq_ok_of_isCode {code : Nat} {outcome : Except Fault Nat}
    (isCode : isCode code outcome = true) : outcome = .ok code := by
  cases outcome with
  | error fault => cases isCode
  | ok other => exact congrArg Except.ok (beq_iff_eq.mp isCode)

/-- A test that fails ends the program with one, behind a connection that is closed. -/
theorem failed_test_told :
    let history := failingSite.custody failingSite.hosts ["test", "web"] ()
    Arguments.read ["test", "web"] = .ok ⟨none, .test (.str "web")⟩ ∧
      (failingSite.runApart failingSite.hosts ["test", "web"] ([], ())).1.outcome = .ok 1 ∧
      FailedTest (.test (.str "web")) history ∧ history.Released := by
  intro history
  have read : Arguments.read ["test", "web"] = .ok ⟨none, .test (.str "web")⟩ := by rfl
  have ended : (failingSite.runApart failingSite.hosts ["test", "web"] ([], ())).1.outcome =
      .ok 1 := eq_ok_of_isCode (by decide +kernel)
  have carried : (carryOutOver failingSite (failingSite.over failingSite.hosts)
      ⟨none, .test (.str "web")⟩ ("", ())).1 = .ok 1 := eq_ok_of_isCode (by decide +kernel)
  obtain ⟨_, released, codes, _⟩ :=
    program_observes failingSite failingSite.hosts ["test", "web"] ()
  refine ⟨read, ended, ?_, released⟩
  rcases (codes _ read 1 ended).2.mp rfl with ⟨_, stopped, _⟩ | failed
  · cases carried.symm.trans stopped
  · exact failed

end CommandLine

end FleetPatch
