import FleetPatch.Proofs.Faults
import FleetPatch.Proofs.FilteredChanges
import FleetPatch.Proofs.Marks

/-!
# Client errors after changes

A client error says that the request was at fault, and so that nothing was
changed. It is told after a change only when the output of the change has a
number with too many digits: the fault of reading it is taken for one of the
request.
-/

namespace FleetPatch

set_option autoImplicit false

def Fault.isTransport : Fault → Bool
  | .authentication _ | .connection _ | .command _ | .notAuthorized _ => true
  | _ => false

/-- A transport that fails with faults of connections and of commands alone. -/
structure Transport.FailsPlainly {σ : Type} (host : Transport σ) : Prop where
  connects : ∀ now fault, (host.connect now).1 = .error fault → fault.isTransport = true
  executes : ∀ command now fault, (host.dispatch command now).1 = .error fault →
    fault.isTransport = true
  closes : ∀ now fault, (host.close now).1 = .error fault → fault.isTransport = true

namespace Web

variable {σ : Type}

def ClientError (response : Response) : Prop :=
  response.status = 400 ∨ response.status = 404 ∨ response.status = 409

def IsChange (command : String) : Prop :=
  IsInstallScript command ∨ IsUpgradeCommand command ∨ IsRestartCommand command

def Changed (history : History) : Prop := ∃ change ∈ history.executions, IsChange change.command

/-- The reply to a change has a number with more digits than can be read. -/
inductive Overflowed (change : Execution) : Prop where
  | installation (reply : Reply) (installs : IsInstallScript change.command)
      (answered : change.outcome = .ok reply) (succeeded : reply.succeeded = true)
      (overflows : Windows.Overflows reply.stdout)
  | upgrade (reply : Reply) (upgrades : UpgradesBy .apt change.command)
      (answered : change.outcome = .ok reply) (overflows : Apt.Overflows (reply.stdout.getD ""))

theorem not_blames_of_transport {fault : Fault} (plain : fault.isTransport = true) :
    fault.blamesRequest = false := by
  cases fault <;> first | rfl | cases plain

theorem clientError_ofFault {fault : Fault} (told : ClientError (.ofFault fault)) :
    fault.blamesRequest = true := by
  cases fault <;> first | rfl | (rcases told with told | told | told <;> cases told)

theorem clientError_changeFailure (fault : Fault) :
    ClientError (.ofFailure (changeFailure fault)) ↔ fault.blamesRequest = true := by
  constructor
  · intro told
    cases fault with
    | invalidValue cause => rfl
    | _ => exact clientError_ofFault told
  · intro blamed
    cases fault with
    | invalidValue cause | unsupportedAsset cause | unsupportedManager name => exact .inl rfl
    | denied reason => exact .inr (.inr rfl)
    | _ => cases blamed

theorem not_clientError_ofResult (body : Json) : ¬ ClientError (.ofResult body) := by
  rintro (told | told | told) <;> cases told

/-- A change whose result is read from its reply is answered by a client error exactly if closing
succeeds and the reading blames the request, when transports blame none. -/
theorem clientError_of_change_iff {α : Type} {closed : Except Fault Unit}
    {answer : Except Fault Reply} (read : Reply → Except Fault α) (shown : α → Json)
    (closes : ∀ fault, closed = .error fault → fault.isTransport = true)
    (answers : ∀ fault, answer = .error fault → fault.isTransport = true) :
    ClientError (.ofOutcome ((afterClosing closed ((answer.bind read).mapError changeFailure)).map
        shown)) ↔
      closed = .ok () ∧ ∃ reply, answer = .ok reply ∧
        ∃ fault, read reply = .error fault ∧ fault.blamesRequest = true := by
  cases closed with
  | error fault =>
      refine iff_of_false (fun told => ?_) nofun
      have blamed := clientError_ofFault told
      rw [not_blames_of_transport (closes fault rfl)] at blamed
      cases blamed
  | ok _ =>
      cases answer with
      | error fault =>
          refine iff_of_false (fun told => ?_) (by rintro ⟨_, _, answered, _⟩; cases answered)
          have blamed := (clientError_changeFailure fault).mp told
          rw [not_blames_of_transport (answers fault rfl)] at blamed
          cases blamed
      | ok reply =>
          change ClientError (.ofOutcome (((read reply).mapError changeFailure).map shown)) ↔ _
          cases reading : read reply with
          | ok result =>
              apply iff_of_false (not_clientError_ofResult _)
              rintro ⟨_, _, ⟨⟩, fault, failed, _⟩
              cases reading.symm.trans failed
          | error fault =>
              apply (clientError_changeFailure fault).trans
              constructor
              · exact fun blamed => ⟨rfl, reply, rfl, fault, reading, blamed⟩
              · rintro ⟨_, _, ⟨⟩, other, failed, blamed⟩
                cases reading.symm.trans failed
                exact blamed

theorem restart_blameless (label command : String) (answer : Except Fault Reply)
    (answers : ∀ fault, answer = .error fault → fault.isTransport = true) :
    Blameless (RebootRequest.ofAnswer label command answer) := by
  cases answer with
  | error fault =>
      unfold RebootRequest.ofAnswer
      dsimp only
      split
      · exact .ok _
      · exact .error (not_blames_of_transport (answers fault rfl))
  | ok reply =>
      unfold RebootRequest.ofAnswer RebootRequest.ofReply
      dsimp only
      split
      · exact .ok _
      · exact .bind (requireSuccess_blameless reply label "reboot") fun _ => .ok _

/-- A restart is never answered by a client error. -/
theorem not_clientError_of_restart {closed : Except Fault Unit}
    {answered : Except Fault RebootRequest} (shown : RebootRequest → Json)
    (closes : ∀ fault, closed = .error fault → fault.isTransport = true)
    (blameless : Blameless answered) :
    ¬ ClientError (.ofOutcome ((afterClosing closed (answered.mapError .fault)).map shown)) := by
  intro told
  cases closed with
  | error fault =>
      have blamed := clientError_ofFault told
      rw [not_blames_of_transport (closes fault rfl)] at blamed
      cases blamed
  | ok _ =>
      cases answered with
      | ok request => exact not_clientError_ofResult _ told
      | error fault =>
          have blamed := clientError_ofFault told
          rw [blameless fault rfl] at blamed
          cases blamed

def FailsPlainly (entry : String × Exchange) : Prop :=
  ∀ fault, entry.2.fault? = some fault → fault.isTransport = true

theorem keeps_plainly {name : String} {host : Transport σ} (plain : host.FailsPlainly) :
    Keeps FailsPlainly (fun _ => True) name host where
  connects now fault failed := plain.connects now fault (faultOf_eq_some.mp failed)
  executes command _ now fault failed :=
    plain.executes command now fault (faultOf_eq_some.mp failed)
  closes now fault failed := plain.closes now fault (faultOf_eq_some.mp failed)

section Histories

variable {history : History} (plain : ∀ entry ∈ history, FailsPlainly entry)

include plain

theorem execution_plain {execution : Execution} (member : execution ∈ history.executions) :
    ∀ fault, execution.outcome = .error fault → fault.isTransport = true := by
  obtain ⟨⟨host, exchange⟩, entered, executed⟩ := List.mem_filterMap.mp member
  intro fault failed
  cases exchange with
  | execute command outcome =>
      cases executed
      exact plain _ entered fault (faultOf_eq_some.mpr failed)
  | connect _ | close _ => cases executed

theorem closing_plain {closed : Except Fault Unit} (closes : history.closings = [closed]) :
    ∀ fault, closed = .error fault → fault.isTransport = true := by
  have member : closed ∈ history.closings := by
    rw [closes]
    exact List.mem_singleton_self closed
  obtain ⟨⟨host, exchange⟩, entered, closes⟩ := List.mem_filterMap.mp member
  intro fault failed
  cases exchange with
  | close outcome =>
      cases closes
      exact plain _ entered fault (faultOf_eq_some.mpr failed)
  | connect _ | execute _ _ => cases closes

end Histories

theorem observing_not_change {command : String} (observes : command ∈ observingCommands) :
    ¬ IsChange command := by
  rintro (installs | upgrades | restarts)
  · exact observing_not_install observes installs
  · exact observing_not_upgrade observes upgrades
  · exact observing_not_restart observes restarts

theorem Overflowed.isChange {change : Execution} (overflowed : Overflowed change) :
    IsChange change.command := by
  cases overflowed with
  | installation _ installs => exact .inl installs
  | upgrade _ upgrades => exact .inr (.inl ⟨.apt, upgrades⟩)

def ClosesWell (history : History) : Prop := ∀ closed ∈ history.closings, closed = .ok ()

variable {service : Service σ} {name : String} {body : List UInt8} {history : History}
  {outcome : Except Failure Json}

theorem observed_iff {response : Response}
    (observes : ∀ execution ∈ history.executions, execution.command ∈ observingCommands) :
    (ClientError response ∧ Changed history) ↔
      ∃ change ∈ history.executions, Overflowed change ∧ ClosesWell history := by
  apply iff_of_false
  · rintro ⟨_, change, member, changes⟩
    exact observing_not_change (observes change member) changes
  · rintro ⟨change, member, overflowed, _⟩
    exact observing_not_change (observes change member) overflowed.isChange

theorem ClearedChange.mem_executions {ecosystem : Ecosystem} {change : Execution}
    (cleared : ClearedChange history ecosystem change) : change ∈ history.executions := by
  obtain ⟨reply, executed⟩ := cleared.executions_eq
  rw [executed]
  exact List.mem_cons_of_mem _ List.mem_cons_self

/-- In a history with one change, an overflow is that of the change. -/
theorem ClearedChange.overflowed_eq {ecosystem : Ecosystem} {change other : Execution}
    (cleared : ClearedChange history ecosystem change) (member : other ∈ history.executions)
    (overflowed : Overflowed other) : other = change := by
  rcases cleared.observes_or_eq member with observes | same
  · exact absurd overflowed.isChange (observing_not_change observes)
  · exact same

theorem closesWell_iff {closed : Except Fault Unit} (closes : history.closings = [closed]) :
    ClosesWell history ↔ closed = .ok () := by
  rw [ClosesWell, closes]
  exact List.forall_mem_singleton

theorem installation_overflowed_iff {change : Execution} {reply : Reply}
    (installs : IsInstallScript change.command) (answered : change.outcome = .ok reply) :
    Overflowed change ↔ reply.succeeded = true ∧ Windows.Overflows reply.stdout := by
  constructor
  · intro overflowed
    cases overflowed with
    | installation other _ replied succeeded overflows =>
        cases answered.symm.trans replied
        exact ⟨succeeded, overflows⟩
    | upgrade _ upgrades => exact absurd ⟨.apt, upgrades⟩ (install_not_upgrade installs)
  · rintro ⟨succeeded, overflows⟩
    exact .installation reply installs answered succeeded overflows

theorem upgrade_overflowed_iff {manager : Manager} {change : Execution} {reply : Reply}
    (upgrades : UpgradesBy manager change.command) (answered : change.outcome = .ok reply) :
    Overflowed change ↔ manager = .apt ∧ Apt.Overflows (reply.stdout.getD "") := by
  constructor
  · intro overflowed
    cases overflowed with
    | installation _ installs => exact absurd ⟨manager, upgrades⟩ (install_not_upgrade installs)
    | upgrade other also replied overflows =>
        cases answered.symm.trans replied
        exact ⟨upgrades.manager_eq also, overflows⟩
  · rintro ⟨rfl, overflows⟩
    exact .upgrade reply upgrades answered overflows

theorem Overflowed.answered {change : Execution} (overflowed : Overflowed change) :
    ∃ reply, change.outcome = .ok reply := by
  cases overflowed with
  | installation reply _ answered => exact ⟨reply, answered⟩
  | upgrade reply _ answered => exact ⟨reply, answered⟩

section Routes

variable (plain : ∀ entry ∈ history, FailsPlainly entry)

include plain

/-- The law on one change, when reading its reply blames the request exactly for an overflow. -/
theorem change_client_error_iff {α : Type} {ecosystem : Ecosystem} {change : Execution}
    {closed : Except Fault Unit} (read : Reply → Except Fault α) (shown : α → Json)
    (cleared : ClearedChange history ecosystem change) (closes : history.closings = [closed])
    (changes : IsChange change.command)
    (blames : ∀ reply, change.outcome = .ok reply →
      ((∃ fault, read reply = .error fault ∧ fault.blamesRequest = true) ↔ Overflowed change)) :
    (ClientError (.ofOutcome ((afterClosing closed ((change.outcome.bind read).mapError
        changeFailure)).map shown)) ∧ Changed history) ↔
      ∃ change ∈ history.executions, Overflowed change ∧ ClosesWell history := by
  have member := cleared.mem_executions
  have told := clientError_of_change_iff read shown (closing_plain plain closes)
    (execution_plain plain member)
  constructor
  · rintro ⟨blamed, _⟩
    obtain ⟨well, reply, answered, unread⟩ := told.mp blamed
    exact ⟨change, member, (blames reply answered).mp unread, (closesWell_iff closes).mpr well⟩
  · rintro ⟨other, held, overflowed, well⟩
    cases cleared.overflowed_eq held overflowed
    obtain ⟨reply, answered⟩ := overflowed.answered
    refine ⟨told.mpr ⟨(closesWell_iff closes).mp well, reply, answered, ?_⟩, change, member,
      changes⟩
    exact (blames reply answered).mpr overflowed

theorem installation_client_error_iff
    (tells : InstallationTold service name body history outcome) :
    (ClientError (.ofOutcome outcome) ∧ Changed history) ↔
      ∃ change ∈ history.executions, Overflowed change ∧ ClosesWell history := by
  rcases installation_cases tells with
    checks | ⟨asset, kbIds, change, closed, _, cleared, _, ordered, closes, rfl⟩
  · exact observed_iff checks
  have installs := isInstallScript_of_order ordered
  refine change_client_error_iff plain (UpdateExecutor.resultOf .install) _ cleared closes
    (.inl installs) fun reply answered => ?_
  rw [installation_blames_iff, installation_overflowed_iff installs answered]

theorem upgrade_client_error_iff (tells : UpgradeTold service name body history outcome) :
    (ClientError (.ofOutcome outcome) ∧ Changed history) ↔
      ∃ change ∈ history.executions, Overflowed change ∧ ClosesWell history := by
  rcases upgrade_cases tells with
    checks | ⟨asset, names, manager, change, closed, _, cleared, _, ordered, closes, rfl⟩
  · exact observed_iff checks
  have upgrades := upgradesBy_of_order ordered
  refine change_client_error_iff plain manager.upgradeResult _ cleared closes
    (.inr (.inl ⟨manager, upgrades⟩)) fun reply answered => ?_
  rw [upgrade_blames_iff, upgrade_overflowed_iff upgrades answered]

theorem reboot_client_error_iff (tells : RebootTold service name history outcome) :
    (ClientError (.ofOutcome outcome) ∧ Changed history) ↔
      ∃ change ∈ history.executions, Overflowed change ∧ ClosesWell history := by
  rcases reboot_cases tells with
    nothing | ⟨asset, _, ecosystem, change, closed, _, only, _, restarts, closes, rfl⟩
  · apply observed_iff
    rw [nothing]
    exact List.forall_mem_nil _
  have member : change ∈ history.executions := by
    rw [only]
    exact List.mem_singleton_self change
  apply iff_of_false
  · rintro ⟨blamed, _⟩
    exact not_clientError_of_restart _ (closing_plain plain closes)
      (restart_blameless _ _ _ (execution_plain plain member)) blamed
  · rintro ⟨other, held, overflowed, _⟩
    rw [only] at held
    cases List.mem_singleton.mp held
    have restarted : IsRestartCommand change.command := ⟨ecosystem, restarts⟩
    cases overflowed with
    | installation _ installs => exact install_not_restart installs restarted
    | upgrade _ upgrades => exact upgrade_not_restart ⟨.apt, upgrades⟩ restarted

theorem told_client_error_iff {request : Request} {response : Response}
    (told : RequestTold service request history response) :
    (ClientError response ∧ Changed history) ↔
      ∃ change ∈ history.executions, Overflowed change ∧ ClosesWell history := by
  cases told with
  | observed _ _ _ observes => exact observed_iff (executions_of_observes observes)
  | installation _ _ _ _ tells => exact installation_client_error_iff plain tells
  | upgrade _ _ _ _ tells => exact upgrade_client_error_iff plain tells
  | reboot _ _ _ _ tells => exact reboot_client_error_iff plain tells

end Routes

def Answered (replies : String → Reply) (entry : String × Exchange) : Prop :=
  entry.2.succeeded = true ∧
    ∀ execution ∈ entry.2.execution? entry.1, execution.outcome = .ok (replies execution.command)

theorem keeps_answered (replies : String → Reply) (name : String) :
    Keeps (Answered replies) (fun _ => True) name (answering replies) where
  connects _ := ⟨rfl, nofun⟩
  executes command _ _ := by
    refine ⟨rfl, fun execution executed => ?_⟩
    cases executed
    rfl
  closes _ := ⟨rfl, nofun⟩

theorem answering_plain (replies : String → Reply) : (answering replies).FailsPlainly where
  connects _ _ failed := nomatch failed
  executes _ _ _ failed := nomatch failed
  closes _ _ failed := nomatch failed

def wholeUpgrade : Request where
  method := "POST"
  target := ⟨"/api/assets/web/packages/upgrade", []⟩
  body := []

theorem sole_host_upgraded {replies : String → Reply}
    (clear : Ecosystem.pendingOf (.packages .apt)
      (replies (Ecosystem.rebootCheck (.packages .apt))) = .ok false) :
    ∃ change ∈ ((soleService replies).history wholeUpgrade ()).executions,
      change.command = Manager.apt.upgradeAllCommand ∧
      change.outcome = .ok (replies Manager.apt.upgradeAllCommand) ∧
      ClosesWell ((soleService replies).history wholeUpgrade ()) := by
  have answered := history_steps (soleService replies) (keeps_answered replies) wholeUpgrade ()
  have led : wholeUpgrade.route = .serve (.upgrade "web") true := by decide +kernel
  obtain ⟨outcome, told, _⟩ := told_of_serve (soleService replies) led nofun
    (records_upgradePackages (soleService replies) "web" wholeUpgrade.body) ()
  -- From here on the history is known only by what it tells and by the replies in it.
  generalize (soleService replies).history wholeUpgrade () = history at answered told ⊢
  have replied {execution : Execution} (member : execution ∈ history.executions) :
      execution.outcome = .ok (replies execution.command) := by
    obtain ⟨entry, entered, executed⟩ := List.mem_filterMap.mp member
    exact (answered entry entered).2 execution executed
  have closes : ClosesWell history := by
    intro closed member
    obtain ⟨⟨host, exchange⟩, entered, closing⟩ := List.mem_filterMap.mp member
    cases exchange with
    | close given =>
        cases closing
        cases closed with
        | ok _ => rfl
        | error fault => cases (answered _ entered).1
    | connect _ | execute _ _ => cases closing
  have free : Unhindered (soleService replies) "web" (ManagedBy .apt) (.packages .apt) history := by
    refine ⟨⟨_, _, rfl, ⟨rfl, rfl⟩, rfl, rfl⟩, fun entry member => (answered entry member).1, ?_⟩
    intro execution member checks reply given
    cases (replied member).symm.trans given
    rw [checks]
    exact clear
  rcases upgrade_unhindered told free with ⟨_, stopped, _⟩ | ⟨names, asked, unordered | made⟩
  · cases stopped
  · cases asked
    obtain ⟨_, none, _⟩ := unordered
    cases none
  · cases asked
    obtain ⟨change, member, ordered⟩ := made
    have all := (Except.ok.inj ordered).symm
    exact ⟨change, member, all, all ▸ replied member, closes⟩

theorem summaryCount_of_digits {digits : List Char} (given : digits ≠ [])
    (all : ∀ digit ∈ digits, Text.isDigit digit = true) :
    Apt.summaryCount? (digits ++ " upgraded".toList) = some digits :=
  Apt.summary_seeks.eq_some_of_read
    (Apt.summaryAt_eq_some_iff.mpr ⟨given, all, .spaces 0, [], rfl⟩)

/-- A host whose upgrade states more digits than can be read. -/
def boastful (command : String) : Reply :=
  if command = Manager.apt.upgradeAllCommand then
    ⟨some (String.ofList (List.replicate 4301 '9' ++ " upgraded".toList)), some "", some 0⟩
  else ⟨some "false", some "", some 0⟩

theorem boastful_overflows :
    Apt.Overflows ((boastful Manager.apt.upgradeAllCommand).stdout.getD "") := by
  have stated : Apt.summaryCount? (List.replicate 4301 '9' ++ " upgraded".toList) =
      some (List.replicate 4301 '9') := by
    refine summaryCount_of_digits (List.ne_nil_of_length_pos ?_) fun digit member => ?_
    · rw [List.length_replicate]
      decide
    · rw [List.eq_of_mem_replicate member]
      decide
  refine ⟨List.replicate 4301 '9', ?_, ?_⟩
  · simp only [boastful, if_true, Option.getD_some, Apt.statedDigits?, String.toList_ofList, stated]
    rfl
  · rw [List.length_replicate]
    decide

theorem boastful_overflowed :
    ∃ change ∈ ((soleService boastful).history wholeUpgrade ()).executions, Overflowed change ∧
      ClosesWell ((soleService boastful).history wholeUpgrade ()) := by
  have other : Ecosystem.rebootCheck (.packages .apt) ≠ Manager.apt.upgradeAllCommand := by
    decide +kernel
  have clear : Ecosystem.pendingOf (.packages .apt)
      (boastful (Ecosystem.rebootCheck (.packages .apt))) = .ok false := by
    rw [boastful, if_neg other]
    rfl
  obtain ⟨change, member, all, answered, well⟩ := sole_host_upgraded clear
  exact ⟨change, member, .upgrade _ (.inl all) answered boastful_overflows, well⟩

/-- On hosts that fail with faults of connections and commands alone, a request that changed a host
is answered by a client error exactly if the reply to the change has a number with too many digits
and the connection closes. -/
theorem client_error_after_change_iff (service : Service σ)
    (plain : ∀ name, (service.hosts name).FailsPlainly) (request : Request) (now : σ) :
    (ClientError (service.response request now) ∧ Changed (service.history request now)) ↔
      ∃ change ∈ (service.history request now).executions, Overflowed change ∧
        ClosesWell (service.history request now) :=
  told_client_error_iff (history_steps service (fun name => keeps_plainly (plain name)) request now)
    (request_told service request now)

theorem boastful_upgrade_blamed :
    (∀ name, ((soleService boastful).hosts name).FailsPlainly) ∧
      ClientError ((soleService boastful).response wholeUpgrade ()) ∧
      Changed ((soleService boastful).history wholeUpgrade ()) :=
  ⟨fun _ => answering_plain boastful,
    (client_error_after_change_iff (soleService boastful) (fun _ => answering_plain boastful)
      wholeUpgrade ()).mpr boastful_overflowed⟩

/-- A client error does not mean that nothing was changed. -/
theorem changed_despite_client_error :
    ¬ (ClientError ((soleService boastful).response wholeUpgrade ()) →
      ¬ Changed ((soleService boastful).history wholeUpgrade ())) := by
  intro unchanged
  have plain := history_steps (soleService boastful)
    (fun _ => keeps_plainly (answering_plain boastful)) wholeUpgrade ()
  obtain ⟨told, changed⟩ := (told_client_error_iff plain
    (request_told (soleService boastful) wholeUpgrade ())).mpr boastful_overflowed
  exact unchanged told changed

end Web

end FleetPatch
