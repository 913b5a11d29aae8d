import FleetPatch.Proofs.Answers
import FleetPatch.Proofs.Conservation
import FleetPatch.Proofs.Faults
import FleetPatch.Proofs.FilteredChanges
import FleetPatch.Proofs.PackageLines
import FleetPatch.Proofs.Partitions

/-!
# Comparisons of hosts

A comparison is answered when both hosts list their keys, each by one command, and
every step succeeds. What it shows is read from the two replies as sets of keys:
neither the order of the records nor their number counts.
-/

namespace FleetPatch

set_option autoImplicit false

open Windows Run

variable {σ α β : Type}

/-- A name that the output of a listing gives to a package: on a line that records it, or in a row
whose first column joins it with an architecture. -/
def Manager.Lists : Manager → String → String → Prop
  | .apt, output, key => ∃ lines, Text.Parted output.toList lines ∧
      ∃ line ∈ lines, ∃ package, Apt.Records line package ∧ package.name = key
  | .dnf, output, key => ∃ rows, Dnf.Regrouped (Dnf.wordLines output) rows ∧
      ∃ column version more name architecture, column :: version :: more ∈ rows ∧
        Dnf.Joins column name architecture ∧ String.ofList name = key

theorem Dnf.exists_package_iff {row : List (List Char)} {key : String} :
    (∃ package, rowPackage? .installed row = some package ∧ package.name = key) ↔
      ∃ column version more name architecture, row = column :: version :: more ∧
        Joins column name architecture ∧ String.ofList name = key := by
  constructor
  · rintro ⟨package, found, named⟩
    rcases row with _ | ⟨column, _ | ⟨version, more⟩⟩
    · cases found
    · cases found
    · obtain ⟨⟨name, architecture⟩, split, rfl⟩ := Option.map_eq_some_iff.mp found
      exact ⟨column, version, more, name, architecture, rfl,
        splitColumn_eq_some_iff.mp split, named⟩
  · rintro ⟨column, version, more, name, architecture, rfl, joins, named⟩
    have found : rowPackage? .installed (column :: version :: more) = some
        ⟨String.ofList name, String.ofList version, String.ofList architecture, .installed⟩ := by
      rw [rowPackage?, splitColumn_eq_some_iff.mpr joins]
      rfl
    exact ⟨_, found, named⟩

theorem Manager.exists_installed_iff {manager : Manager} {output key : String} :
    (∃ package ∈ manager.installed output, package.name = key) ↔ manager.Lists output key := by
  cases manager with
  | apt =>
      simp only [installed, Apt.installed, List.mem_filterMap, Apt.installedLine_eq_some_iff, Lists,
        ← Text.lines_eq_iff, exists_eq_left']
      grind
  | dnf =>
      have regrouped (rows : List (List (List Char))) :
          Dnf.Regrouped (Dnf.wordLines output) rows ↔ Dnf.rows output = rows := by
        rw [Dnf.rows_eq, Dnf.rowsFrom_eq_iff (Dnf.wordLines_inhabited output)]
      simp only [installed, Dnf.listing, List.mem_filterMap, Lists, regrouped, exists_eq_left']
      constructor
      · rintro ⟨package, ⟨row, member, found⟩, named⟩
        obtain ⟨column, version, more, name, architecture, rfl, joined⟩ :=
          Dnf.exists_package_iff.mp ⟨package, found, named⟩
        exact ⟨column, version, more, name, architecture, member, joined⟩
      · rintro ⟨column, version, more, name, architecture, member, joined⟩
        obtain ⟨package, found, named⟩ :=
          Dnf.exists_package_iff.mpr ⟨column, version, more, name, architecture, rfl, joined⟩
        exact ⟨package, ⟨_, member, found⟩, named⟩

namespace Ecosystem

def listingCommand : Ecosystem → String
  | .windows => installedUpdatesScript
  | .packages manager => manager.installedCommand

def keysOf : Ecosystem → Reply → Except Fault (List String)
  | .windows, reply => (UpdateQuery.installedOf reply).map (List.map (·.kbId))
  | .packages manager, reply => (PackageQuery.installedOf manager reply).map (List.map (·.name))

def Reports : Ecosystem → Reply → String → Prop
  | .windows, reply, key => ∃ output records,
      loadOutput "installed update listing" reply.stdout = .ok output ∧
      entries output = .ok records ∧
        ∃ record ∈ records, KbId.normalize? (field "HotFixID" record) = some key
  | .packages manager, reply, key => manager.Lists (reply.stdout.getD "") key

end Ecosystem

/-- What is kept by a query that kept nothing yet is what it reads. -/
theorem withFresh_cached_bind {κ : Type} {kept : κ → Option α} {keep : α → κ → κ} {fresh : κ}
    (empty : kept fresh = none) (read : Run Fault σ α) (next : α → Run Fault (κ × σ) β) :
    withFresh fresh (cached kept keep false read >>= next) =
      read >>= fun value => withFresh (keep value fresh) (next value) := by
  funext now
  have missing : (if false then none else kept fresh) = none := empty
  rcases stepped : read now with ⟨outcome, after⟩
  cases outcome with
  | error fault =>
      have failed : cached kept keep false read (fresh, now) = (.error fault, (fresh, after)) := by
        simp only [cached, missing, stepped]
      rw [bind_apply_error stepped, withFresh, bind_apply_error failed]
  | ok value =>
      have given : cached kept keep false read (fresh, now) =
          (.ok value, (keep value fresh, after)) := by
        simp only [cached, missing, stepped]
      rw [bind_apply_ok stepped, withFresh, bind_apply_ok given]
      rfl

theorem withFresh_cached {κ : Type} {kept : κ → Option α} {keep : α → κ → κ} {fresh : κ}
    (empty : kept fresh = none) (read : Run Fault σ α) (change : α → β) :
    withFresh fresh (cached kept keep false read >>= fun value => pure (change value)) =
      read >>= fun value => pure (change value) :=
  withFresh_cached_bind empty read fun value => pure (change value)

theorem ask_map (host : Transport σ) (command : String) (read : Reply → Except Fault α)
    (change : α → β) :
    host.ask command read >>= (fun value => pure (change value)) =
      host.ask command fun reply => (read reply).map change := by
  simp only [Transport.ask, bind_assoc]
  congr 1
  funext reply now
  cases read reply <;> rfl

theorem keys_eq_ask (ecosystem : Ecosystem) (host : Transport σ) :
    ecosystem.keys host = host.ask ecosystem.listingCommand ecosystem.keysOf := by
  cases ecosystem with
  | windows => exact (withFresh_cached rfl _ _).trans (ask_map host _ _ _)
  | packages manager => exact (withFresh_cached rfl _ _).trans (ask_map host _ _ _)

theorem mem_ofEntries {key : String} {records : List Entry} {seen : List String} :
    key ∈ (InstalledUpdate.ofEntries seen records).map (·.kbId) ↔
      key ∉ seen ∧ ∃ record ∈ records, KbId.normalize? (field "HotFixID" record) = some key := by
  induction records generalizing seen with
  | nil => simp [InstalledUpdate.ofEntries]
  | cons record rest induction =>
      cases found : KbId.normalize? (field "HotFixID" record) with
      | none => simp [InstalledUpdate.ofEntries, found, induction]
      | some kbId =>
          by_cases known : kbId ∈ seen
          · by_cases same : kbId = key
            · subst same
              simp [InstalledUpdate.ofEntries, found, known, induction]
            · simp [InstalledUpdate.ofEntries, found, known, induction, same]
          · by_cases same : kbId = key
            · subst same
              simp [InstalledUpdate.ofEntries, found, known, InstalledUpdate.ofEntry]
            · simp [InstalledUpdate.ofEntries, found, known, induction, same, Ne.symm same,
                InstalledUpdate.ofEntry]

theorem mem_keysOf {ecosystem : Ecosystem} {reply : Reply} {keys : List String}
    (listed : ecosystem.keysOf reply = .ok keys) (key : String) :
    key ∈ keys ↔ ecosystem.Reports reply key := by
  cases ecosystem with
  | windows =>
      obtain ⟨updates, read, rfl⟩ := map_eq_ok.mp listed
      obtain ⟨_, _, parsed⟩ := exists_of_bind_ok read
      obtain ⟨output, loaded, parsed⟩ := exists_of_bind_ok parsed
      obtain ⟨records, found, parsed⟩ := exists_of_bind_ok parsed
      cases parsed
      simp [mem_ofEntries, Ecosystem.Reports, loaded, found]
  | packages manager =>
      obtain ⟨packages, read, rfl⟩ := map_eq_ok.mp listed
      obtain ⟨_, _, parsed⟩ := exists_of_bind_ok read
      cases parsed
      simp [Ecosystem.Reports, ← Manager.exists_installed_iff]

theorem reported_of_query {ecosystem : Ecosystem} {host : Transport σ} {now : σ}
    {keys : List String} {after : Agent × σ}
    (listed : Agent.keys host (Agent.query ecosystem, now) = (.ok keys, after)) :
    ∃ reply, (host.execute ecosystem.listingCommand now).1 = .ok reply ∧
      ∀ key, key ∈ keys ↔ ecosystem.Reports reply key := by
  have given : (ecosystem.keys host now).1 = .ok keys := by
    refine Eq.trans ?_ (congrArg Prod.fst listed)
    cases ecosystem with
    | windows => exact (congrArg Prod.fst (Agent.keys_updateQuery none now)).symm
    | packages manager =>
        exact (congrArg Prod.fst (Agent.keys_packageQuery manager .empty now)).symm
  rw [keys_eq_ask, Transport.ask] at given
  rcases executed : host.execute ecosystem.listingCommand now with ⟨outcome, later⟩
  cases outcome with
  | error fault =>
      rw [bind_apply_error executed] at given
      cases given
  | ok reply =>
      rw [bind_apply_ok executed] at given
      exact ⟨reply, rfl, mem_keysOf given⟩

/-- What is told gives a value exactly if every step succeeds and the executions fit. -/
def SucceedsBy {ε : Type} (fits : List Execution → α → Prop) (told : Told ε α) : Prop :=
  ∀ history outcome, told history outcome → ∀ value,
    outcome = .ok value ↔
      (∀ entry ∈ history, entry.2.succeeded = true) ∧ fits (History.executions history) value

section Successes

variable {ε : Type} {told : Told ε α} {fits : List Execution → α → Prop}

theorem SucceedsBy.given {computed : Except ε β} {told : β → Told ε α}
    {fits : β → List Execution → α → Prop}
    (succeeds : ∀ given, SucceedsBy (fits given) (told given)) :
    SucceedsBy (fun executions value => ∃ given, computed = .ok given ∧ fits given executions value)
      (.given computed told) := by
  intro history outcome tells value
  cases computed with
  | error fault =>
      obtain ⟨rfl, rfl⟩ := tells
      simp
  | ok given => simpa using succeeds given history outcome tells value

/-- A computation whose value does not count may come first, if something has to be executed. -/
theorem SucceedsBy.behind {computed : Except ε β} {told : β → Told ε α}
    (busy : ∀ value, ¬ fits [] value) (succeeds : ∀ given, SucceedsBy fits (told given)) :
    SucceedsBy fits (.given computed told) := by
  intro history outcome tells value
  cases computed with
  | error fault =>
      obtain ⟨rfl, rfl⟩ := tells
      exact iff_of_false nofun fun answered => busy value answered.2
  | ok given => exact succeeds given history outcome tells value

theorem SucceedsBy.mapFault {δ : Type} (change : ε → δ) (succeeds : SucceedsBy fits told) :
    SucceedsBy fits (told.mapFault change) := by
  intro history outcome tells value
  cases tells with
  | changed _ inner first =>
      rw [mapError_eq_ok]
      exact succeeds _ _ first value

end Successes

theorem Executed.succeeded {name command : String} {exchanges : History} {reply : Reply}
    (executed : Executed name command exchanges (.ok reply)) :
    ∀ entry ∈ exchanges, entry.2.succeeded = true := by
  intro entry member
  generalize same : (Except.ok reply : Except Fault Reply) = answer at executed
  cases executed with
  | direct =>
      subst same
      rw [List.mem_singleton.mp member]
      rfl
  | connected =>
      subst same
      rcases List.mem_cons.mp member with first | second
      · rw [first]
        rfl
      · rw [List.mem_singleton.mp second]
        rfl
  | unconnected => cases same

theorem asked_cases {host command : String} {read : Reply → Except Fault α} {exchanges : History}
    {outcome : Except Fault α} (asked : Asked host command read exchanges outcome)
    (succeeded : ∀ entry ∈ exchanges, entry.2.succeeded = true) :
    ∃ reply, exchanges.executions = [⟨host, command, .ok reply⟩] ∧ outcome = read reply := by
  cases asked with
  | answered _ answer executed =>
      obtain ⟨reply, rfl⟩ := executed.answered succeeded
      exact ⟨reply, executed.executions_of_ok, rfl⟩

def KeysTold (first second firstName secondName : String) : Told Fault (Comparison String) :=
  .given (Ecosystem.ofJson (.str firstName)) fun left =>
    .given (Ecosystem.ofJson (.str secondName)) fun right =>
      .andThen (Asked first left.listingCommand left.keysOf) fun keys =>
        .map (Comparison.ofKeys keys) (Asked second right.listingCommand right.keysOf)

theorem records_compareHosts (first second : Transport σ)
    (firstHost secondHost firstName secondName : String) :
    Records (Web.compareHosts firstName secondName (first.recorded firstHost)
        (second.recorded secondHost))
      (KeysTold firstHost secondHost firstName secondName) := by
  apply logs_given
  intro left _
  apply logs_given
  intro right _
  rw [keys_eq_ask, keys_eq_ask]
  apply Logs.bind (records_ask firstHost first left.listingCommand left.keysOf)
  intro keys
  exact Logs.map _ (records_ask secondHost second right.listingCommand right.keysOf)

structure Listed (first second : String) (left right : Ecosystem) (firstReply secondReply : Reply)
    (executions : List Execution) (comparison : Comparison String) : Prop where
  executed : executions = [⟨first, left.listingCommand, .ok firstReply⟩,
    ⟨second, right.listingCommand, .ok secondReply⟩]
  compared : ∃ leftKeys rightKeys, left.keysOf firstReply = .ok leftKeys ∧
    right.keysOf secondReply = .ok rightKeys ∧ comparison = Comparison.ofKeys leftKeys rightKeys

theorem succeedsBy_listings (first second : String) (left right : Ecosystem) :
    SucceedsBy
      (fun executions comparison => ∃ firstReply secondReply,
        Listed first second left right firstReply secondReply executions comparison)
      (.andThen (Asked first left.listingCommand left.keysOf) fun keys =>
        .map (Comparison.ofKeys keys) (Asked second right.listingCommand right.keysOf)) := by
  intro history outcome tells comparison
  constructor
  · intro answered
    cases tells with
    | stopped _ fault first => cases answered
    | went earlier later leftKeys _ first second =>
        cases second with
        | changed _ inner second =>
            obtain ⟨rightKeys, rfl, rfl⟩ := map_eq_ok.mp answered
            obtain ⟨firstReply, firstExecuted, leftRead⟩ := first.of_ok
            obtain ⟨secondReply, secondExecuted, rightRead⟩ := second.of_ok
            refine ⟨List.forall_mem_append.mpr ⟨firstExecuted.succeeded, secondExecuted.succeeded⟩,
              firstReply, secondReply, ?_, leftKeys, rightKeys, leftRead, rightRead, rfl⟩
            rw [executions_append, firstExecuted.executions_of_ok, secondExecuted.executions_of_ok]
            rfl
  · intro ⟨succeeded, firstReply, secondReply, executed, leftKeys, rightKeys, leftRead, rightRead,
      compared⟩
    cases tells with
    | stopped _ fault first =>
        obtain ⟨reply, sole, _⟩ := asked_cases first succeeded
        rw [sole] at executed
        cases executed
    | went earlier later keys _ first second =>
        obtain ⟨firstSucceeded, secondSucceeded⟩ := List.forall_mem_append.mp succeeded
        cases second with
        | changed _ inner second =>
            obtain ⟨reply, sole, read⟩ := asked_cases first firstSucceeded
            obtain ⟨other, another, otherRead⟩ := asked_cases second secondSucceeded
            rw [executions_append, sole, another] at executed
            cases executed
            cases read.trans leftRead
            rw [otherRead, rightRead, compared]
            rfl

/-- The executions from whose replies the keys of two hosts are read, and what they compare to. -/
def KeysListed (first second firstName secondName : String) (executions : List Execution)
    (comparison : Comparison String) : Prop :=
  ∃ left, Ecosystem.ofJson (.str firstName) = .ok left ∧
    ∃ right, Ecosystem.ofJson (.str secondName) = .ok right ∧
      ∃ firstReply secondReply,
        Listed first second left right firstReply secondReply executions comparison

theorem succeedsBy_keys (first second firstName secondName : String) :
    SucceedsBy (KeysListed first second firstName secondName)
      (KeysTold first second firstName secondName) :=
  .given fun left => .given fun right => succeedsBy_listings first second left right

theorem not_keysListed_nil (first second firstName secondName : String)
    (comparison : Comparison String) :
    ¬ KeysListed first second firstName secondName [] comparison := by
  intro ⟨_, _, _, _, _, _, listed⟩
  exact nomatch listed.executed

namespace Web

theorem SucceedsBy.visited {host : String} {work : Told Failure α}
    {fits : List Execution → α → Prop} (succeeds : SucceedsBy fits work) :
    SucceedsBy fits (Visited host work) := by
  intro history outcome tells value
  cases tells with
  | unconnected fault closed =>
      apply iff_of_false
      · exact fun answered => nomatch (afterClosing_eq_ok.mp answered).2
      · exact fun answered => nomatch answered.1 _ List.mem_cons_self
  | worked exchanges inner closed told =>
      rw [afterClosing_eq_ok, succeeds exchanges inner told, succeeded_visit_iff, executions_visit]
      exact ⟨fun answered => ⟨⟨answered.2.1, answered.1⟩, answered.2.2⟩,
        fun answered => ⟨answered.1.2, answered.1.1, answered.2⟩⟩

variable (service : Service σ)

def ComparisonTold (order : ComparisonOrder) : Told Failure (Comparison String) :=
  .given (service.endpoint order.first) fun _ => Visited order.first.hostname.text
    (.given (service.endpoint order.second) fun _ => Visited order.second.hostname.text
      (.mapFault .fault (KeysTold order.first.hostname.text order.second.hostname.text
        order.firstEcosystem order.secondEcosystem)))

theorem records_readComparison (first second : Option String) :
    Records (readComparison service.recorded first second)
      (.given (comparisonOrder service first second) fun order =>
        .map (comparisonJson order.first order.second order.sort)
          (ComparisonTold service order)) := by
  apply logs_given
  intro order _
  apply Logs.map
  apply records_withTransport
  apply records_withTransport
  exact Logs.mapFault _ (records_compareHosts _ _ _ _ _ _)

def Unsuccessful (failure : Failure) : Prop := (Response.ofFailure failure).status ≠ 200

theorem unsuccessful_fault (fault : Fault) : Unsuccessful (.fault fault) := by
  cases fault <;>
    simp [Unsuccessful, Response.ofFailure, Response.ofFault, Response.ofError, Response.bare]

theorem computing_unsuccessful (outcome : Except Fault α) :
    FailsOnly Unsuccessful (computing outcome) := by
  intro failure failed
  obtain ⟨cause, _, rfl⟩ := mapError_eq_error.mp failed
  exact unsuccessful_fault cause

theorem findAsset_unsuccessful (name : String) :
    FailsOnly Unsuccessful (service.findAsset name) := by
  refine .bind (computing_unsuccessful _) fun inventory => ?_
  cases inventory.find? (.str name) with
  | some asset => exact .ok asset
  | none => exact .error (by simp [Unsuccessful, Response.ofFailure, Response.ofError])

theorem requireEcosystem_unsuccessful (asset : Asset) :
    FailsOnly Unsuccessful (requireEcosystem asset) := by
  refine .bind (computing_unsuccessful _) fun ecosystem => ?_
  cases ecosystem with
  | some name => exact .ok name
  | none => exact .error (by simp [Unsuccessful, Response.ofFailure, Response.ofError])

theorem comparisonOrder_unsuccessful (first second : Option String) :
    FailsOnly Unsuccessful (comparisonOrder service first second) := by
  have refused (message : String) (next : Unit → Except Failure ComparisonOrder) :
      FailsOnly Unsuccessful (refuse 400 message >>= next) :=
    .error (by simp [Unsuccessful, Response.ofFailure, Response.ofError])
  unfold comparisonOrder
  dsimp only
  split
  · exact refused _ _
  · refine .bind (findAsset_unsuccessful service _) fun firstAsset => ?_
    refine .bind (findAsset_unsuccessful service _) fun secondAsset => ?_
    refine .bind (requireEcosystem_unsuccessful _) fun firstEcosystem => ?_
    refine .bind (requireEcosystem_unsuccessful _) fun secondEcosystem => ?_
    refine .bind (computing_unsuccessful _) fun firstWindows => ?_
    refine .bind (computing_unsuccessful _) fun secondWindows => ?_
    split
    · exact refused _ _
    · exact .ok _

theorem visited_failsOnly {P : Failure → Prop} (faults : ∀ fault, P (.fault fault)) {host : String}
    {work : Told Failure α}
    (works : ∀ exchanges outcome, work exchanges outcome → FailsOnly P outcome)
    {history : History} {outcome : Except Failure α} (visited : Visited host work history outcome) :
    FailsOnly P outcome := by
  have closes (closed : Except Fault Unit) {inner : Except Failure α} (fails : FailsOnly P inner) :
      FailsOnly P (afterClosing closed inner) := by
    cases closed with
    | error fault => exact .error (faults fault)
    | ok _ => exact fails
  cases visited with
  | unconnected fault closed => exact closes closed (.error (faults fault))
  | worked exchanges inner closed told => exact closes closed (works exchanges inner told)

theorem comparisonTold_unsuccessful {order : ComparisonOrder} {history : History}
    {outcome : Except Failure (Comparison String)}
    (told : ComparisonTold service order history outcome) : FailsOnly Unsuccessful outcome := by
  have given {told : Endpoint → Told Failure (Comparison String)} (asset : Asset)
      (fails : ∀ endpoint history outcome, told endpoint history outcome →
        FailsOnly Unsuccessful outcome) :
      ∀ history outcome, Run.Telling.given (service.endpoint asset) told history outcome →
        FailsOnly Unsuccessful outcome := by
    intro history outcome tells
    rcases Run.Telling.given_cases tells with ⟨failure, failed, _, rfl⟩ | ⟨endpoint, _, tells⟩
    · exact .error (computing_unsuccessful _ failure failed)
    · exact fails endpoint history outcome tells
  apply given order.first _ history outcome told
  intro _ history outcome visited
  apply visited_failsOnly unsuccessful_fault _ visited
  apply given order.second
  intro _ history outcome visited
  apply visited_failsOnly unsuccessful_fault _ visited
  intro exchanges inner tells
  cases tells with
  | changed _ outcome _ => exact computing_unsuccessful outcome

theorem succeedsBy_comparison (order : ComparisonOrder) :
    SucceedsBy
      (KeysListed order.first.hostname.text order.second.hostname.text order.firstEcosystem
        order.secondEcosystem)
      (ComparisonTold service order) := by
  apply SucceedsBy.behind (not_keysListed_nil _ _ _ _)
  intro _
  apply SucceedsBy.visited
  apply SucceedsBy.behind (not_keysListed_nil _ _ _ _)
  intro _
  apply SucceedsBy.visited
  exact SucceedsBy.mapFault _ (succeedsBy_keys _ _ _ _)

/-- How an answered comparison came about: both assets were found, every step succeeded, and each
host executed the command by which it lists its keys. -/
structure Compared (request : Request) (history : History) (order : ComparisonOrder)
    (left right : Ecosystem) (firstReply secondReply : Reply) (comparison : Comparison String) :
    Prop where
  ordered : comparisonOrder service (request.target.value? "asset1")
    (request.target.value? "asset2") = .ok order
  first : Ecosystem.ofJson (.str order.firstEcosystem) = .ok left
  second : Ecosystem.ofJson (.str order.secondEcosystem) = .ok right
  succeeded : ∀ entry ∈ history, entry.2.succeeded = true
  executed : History.executions history =
    [⟨order.first.hostname.text, left.listingCommand, .ok firstReply⟩,
      ⟨order.second.hostname.text, right.listingCommand, .ok secondReply⟩]
  readable : (∃ keys, left.keysOf firstReply = .ok keys) ∧
    ∃ keys, right.keysOf secondReply = .ok keys
  parted : comparison.Partitions (left.Reports firstReply) (right.Reports secondReply)

theorem compared_iff_keysListed {request : Request} {history : History} {order : ComparisonOrder}
    (ordered : comparisonOrder service (request.target.value? "asset1")
      (request.target.value? "asset2") = .ok order) (comparison : Comparison String) :
    (∃ left right firstReply secondReply,
      Compared service request history order left right firstReply secondReply comparison) ↔
      (∀ entry ∈ history, entry.2.succeeded = true) ∧
        KeysListed order.first.hostname.text order.second.hostname.text order.firstEcosystem
          order.secondEcosystem (History.executions history) comparison := by
  constructor
  · intro ⟨left, right, firstReply, secondReply, compared⟩
    obtain ⟨⟨leftKeys, leftRead⟩, rightKeys, rightRead⟩ := compared.readable
    have parted := (Comparison.partitions_ofKeys leftKeys rightKeys).congr
      (fun key => (mem_keysOf leftRead key).symm) (fun key => (mem_keysOf rightRead key).symm)
    exact ⟨compared.succeeded, left, compared.first, right, compared.second, firstReply,
      secondReply,
      compared.executed, leftKeys, rightKeys, leftRead, rightRead, compared.parted.unique parted⟩
  · intro ⟨succeeded, left, first, right, second, firstReply, secondReply, listed⟩
    obtain ⟨leftKeys, rightKeys, leftRead, rightRead, rfl⟩ := listed.compared
    refine ⟨left, right, firstReply, secondReply, ordered, first, second, succeeded,
      listed.executed,
      ⟨⟨leftKeys, leftRead⟩, rightKeys, rightRead⟩, ?_⟩
    exact (Comparison.partitions_ofKeys leftKeys rightKeys).congr
      (fun key => (mem_keysOf leftRead key).symm) (fun key => (mem_keysOf rightRead key).symm)

theorem ofOutcome_eq_ofResult {outcome : Except Failure Json}
    (fails : FailsOnly Unsuccessful outcome) (body : Json) :
    Response.ofOutcome outcome = .ofResult body ↔ outcome = .ok body := by
  cases outcome with
  | error failure =>
      apply iff_of_false _ nofun
      intro same
      exact fails failure rfl (congrArg Response.status same)
  | ok value => simp [Response.ofOutcome, Response.ofResult]

/-- What a body holds at the end of a path of members. -/
def memberAt (path : List String) (body : Json) : Json :=
  path.foldl (fun value name => match value with
    | .obj members => Json.memberOrNull name members
    | _ => .null) body

/-- A body that shows a comparison: at most a hundred keys of each kind, the first ones, and how
many there are. -/
structure Shows (body : Json) (comparison : Comparison String) : Prop where
  common : memberAt ["comparison", "common"] body = .arr ((comparison.common.take 100).map .str)
  onlyFirst : memberAt ["comparison", "only_in_first"] body =
    .arr ((comparison.onlyFirst.take 100).map .str)
  onlySecond : memberAt ["comparison", "only_in_second"] body =
    .arr ((comparison.onlySecond.take 100).map .str)
  commonCount : memberAt ["summary", "common_count"] body = .int comparison.common.length
  onlyFirstCount : memberAt ["summary", "only_first_count"] body = .int comparison.onlyFirst.length
  onlySecondCount : memberAt ["summary", "only_second_count"] body =
    .int comparison.onlySecond.length
  identical : memberAt ["summary", "identical"] body = .bool comparison.identical

theorem shows_comparisonJson (first second : Asset) (sort : String)
    (comparison : Comparison String) :
    Shows (comparisonJson first second sort comparison) comparison := by
  constructor <;> rfl

theorem compared_iff {request : Request} (led : request.route = .serve .comparison true) (now : σ)
    (body : Json) :
    service.response request now = .ofResult body ↔
      ∃ order left right firstReply secondReply comparison,
        Compared service request (service.history request now) order left right firstReply
          secondReply comparison ∧
        body = comparisonJson order.first order.second order.sort comparison ∧
        Shows body comparison := by
  obtain ⟨outcome, told, answered⟩ := told_of_serve service led nofun
    (records_readComparison service _ _) now
  rw [answered]
  rcases Run.Telling.given_cases told with ⟨failure, failed, _, rfl⟩ | ⟨order, ordered, told⟩
  · apply iff_of_false
    · intro same
      exact comparisonOrder_unsuccessful service _ _ failure failed (congrArg Response.status same)
    · intro ⟨_, _, _, _, _, _, compared, _⟩
      exact nomatch failed.symm.trans compared.ordered
  · cases told with
    | changed _ inner first =>
        rw [ofOutcome_eq_ofResult (comparisonTold_unsuccessful service first).map, map_eq_ok]
        constructor
        · intro ⟨comparison, given, shown⟩
          obtain ⟨left, right, firstReply, secondReply, compared⟩ :=
            (compared_iff_keysListed service ordered comparison).mpr
              ((succeedsBy_comparison service order _ _ first comparison).mp given)
          subst shown
          exact ⟨order, left, right, firstReply, secondReply, comparison, compared, rfl,
            shows_comparisonJson _ _ _ comparison⟩
        · intro ⟨other, left, right, firstReply, secondReply, comparison, compared, shown, _⟩
          cases ordered.symm.trans compared.ordered
          refine ⟨comparison, ?_, shown⟩
          apply (succeedsBy_comparison service order _ _ first comparison).mpr
          exact (compared_iff_keysListed service ordered comparison).mp
            ⟨left, right, firstReply, secondReply, compared⟩

/-- Comparisons part the keys of two sides. Two queries, of whatever kinds and also one and the
same, that list their keys are compared by them, and the other way round with the sides exchanged. A
partition is known from the sets of keys, for which neither the order nor the number of records
counts. A new query lists what its reply reports, and a request is answered by the partition of what
two replies report, each list being cut at a hundred keys and counted in full. -/
theorem comparisons_part_keys {τ : Type} (transports : String → Transport τ) (service : Service σ) :
    (∀ (bench : Workbench) (now : τ) (first second : String) (left right : List String)
      (middle last : Workbench × τ),
      Workbench.withAgent transports first Agent.keys (bench, now) = (.ok left, middle) →
      Workbench.withAgent transports second Agent.keys middle = (.ok right, last) →
      ∃ comparison : Comparison String,
        comparison.Partitions (· ∈ left) (· ∈ right) ∧
        comparison.swapped.Partitions (· ∈ right) (· ∈ left) ∧
        Workbench.compare transports first second (bench, now) = (.ok comparison, last) ∧
        Workbench.compare transports second first last = (.ok comparison.swapped, last)) ∧
    (∀ (first second : String → Prop) (comparison other : Comparison String),
      comparison.Partitions first second → other.Partitions first second → comparison = other) ∧
    (∀ (ecosystem : Ecosystem) (host : Transport τ) (now : τ) (keys : List String)
      (after : Agent × τ), Agent.keys host (Agent.query ecosystem, now) = (.ok keys, after) →
      ∃ reply, (host.execute ecosystem.listingCommand now).1 = .ok reply ∧
        ∀ key, key ∈ keys ↔ ecosystem.Reports reply key) ∧
    ∀ (request : Request) (now : σ), request.route = .serve .comparison true →
      ∀ body, service.response request now = .ofResult body ↔
        ∃ order left right firstReply secondReply comparison,
          Compared service request (service.history request now) order left right firstReply
            secondReply comparison ∧
          body = comparisonJson order.first order.second order.sort comparison ∧
          Shows body comparison := by
  refine ⟨?_, fun _ _ _ _ => Comparison.Partitions.unique, fun _ _ _ _ _ => reported_of_query, ?_⟩
  · intro bench now first second left right middle last firstListed secondListed
    have parted := Comparison.partitions_ofKeys left right
    exact ⟨Comparison.ofKeys left right, parted, parted.swapped,
      Workbench.compare_of_listed firstListed secondListed,
      Workbench.compare_back firstListed secondListed⟩
  · intro request now led body
    exact compared_iff service led now body

/-- A host `web` that lists `b` twice and `a`, and others that list `a` in another version. -/
def listings (host : String) : Transport Unit :=
  answering fun _ => {
    stdout := some (if host = "web" then
      "b\t1\tall\tinstalled\nb\t1\tall\tinstalled\na\t1\tall\tinstalled"
      else "a\t2\tall\tinstalled")
    stderr := some ""
    exitCode := some 0 }

theorem listings_compared : ∃ comparison last,
    Workbench.compare listings "left" "right"
      ([("left", ⟨"web", .query (.packages .apt)⟩),
        ("right", ⟨"db", .query (.packages .apt)⟩)], ()) =
        (.ok comparison, last) ∧
    Workbench.compare listings "right" "left" last = (.ok comparison.swapped, last) ∧
    comparison.Partitions (· ∈ ["b", "b", "a"]) (· ∈ ["a"]) := by
  obtain ⟨comparison, parted, _, compared, back⟩ :=
    (comparisons_part_keys listings (soleService fun _ => .silent)).1
      [("left", ⟨"web", .query (.packages .apt)⟩), ("right", ⟨"db", .query (.packages .apt)⟩)] ()
      "left" "right" ["b", "b", "a"] ["a"] _ _ rfl rfl
  exact ⟨comparison, _, compared, back, parted⟩

end Web

end FleetPatch
