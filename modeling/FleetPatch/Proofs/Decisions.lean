import FleetPatch.Proofs.ClientErrors
import FleetPatch.Proofs.RemoteEscapes
import FleetPatch.Proofs.ResourceCourses

/-!
# Which failure answers a request

The first step of a request that fails decides how the request is answered, and
nothing is executed behind it. Only the status of an asset and a restart whose
command fails as it would if the host restarted are answered in spite of a failure.
-/

namespace FleetPatch.Web

set_option autoImplicit false

variable {σ α β : Type}

def unconfirmed (asset : Asset) (fault : Fault) : Json :=
  resultJson asset [
    ("deep_freeze", .bool asset.deepFreeze),
    ("rebooting", .bool true),
    ("confirmed", .bool false),
    ("detail", .str fault.describe)]

def answer? (fault : Fault) : Option (Nat × String) :=
  match fault with
  | .authentication _ => some (401, "Authentication failed: " ++ fault.message)
  | .connection _ => some (503, "Connection failed: " ++ fault.message)
  | .command _ | .notAuthorized _ => some (500, "Command failed: " ++ fault.message)
  | .unsupportedAsset _ | .unsupportedManager _ => some (400, fault.message)
  | .inventory _ => some (500, fault.message)
  | .denied reason => some (409, reason)
  | _ => none

theorem sent_eq (status : Nat) (body : Json) (withBody : Bool) :
    (Response.mk status (some body)).sent withBody =
      ⟨status, if withBody then some body else none⟩ := by
  cases withBody <;> rfl

section Known

variable {fault : Fault} {status : Nat} {text : String}

theorem ofFault_of_answer (known : answer? fault = some (status, text)) :
    Response.ofFault fault = .ofError status text := by
  cases fault <;> cases known <;> rfl

theorem isOwn_of_answer (known : answer? fault = some (status, text)) : fault.isOwn = true := by
  cases fault <;> cases known <;> rfl

theorem changeFailure_of_answer (known : answer? fault = some (status, text)) :
    changeFailure fault = .fault fault := by
  cases fault <;> cases known <;> rfl

theorem stops_of_answer {deed : Deed} (failed : deed.failure? = some (.fault fault))
    (known : answer? fault = some (status, text)) (none : deed.excused? = .none) :
    deed.stops? = some (.fault fault) := by
  have handled (handling : Handling) : handling.told (.fault fault) = .fault fault := by
    cases handling with
    | passed => rfl
    | blamed => exact changeFailure_of_answer known
    | awaited =>
        simp only [Handling.told, Handling.failure?]
        split <;> rfl
  cases deed with
  | computed handling outcome =>
      have same : failureOf outcome = some (.fault fault) := failed
      simp only [Deed.stops?, same, Option.map_some, handled]
  | connected _ outcome | closed _ outcome => exact failed
  | executed host command handling exchanges answer =>
      cases answer with
      | ok reply => cases failed
      | error cause =>
          cases failed
          cases handling with
          | passed => rfl
          | blamed => exact congrArg some (changeFailure_of_answer known)
          | awaited =>
              simp only [Deed.stops?, faultOf, Option.bind_some, Handling.failure?]
              simp only [Deed.excused?] at none
              split at none
              · cases none
              · next ends => rw [if_neg ends]

end Known

/-- What a closing of a shell connection lets out is a fault of the client library, which the
service does not know. -/
theorem shell_closing_unknown {now : Ssh.State} {fault : Fault}
    (scripted : ∀ raised ∈ now.faults, Ssh.ThirdParty raised)
    (failed : (Ssh.close now).1 = .error fault) : answer? fault = none := by
  rw [Ssh.close_apply] at failed
  rcases held : now.current with _ | ⟨number, client⟩
  · rw [held] at failed
    cases failed
  · rw [held] at failed
    have closing : client.closing = some fault := failing_eq_error.mp failed
    have raised : fault ∈ client.faults := by simp [Ssh.Client.faults, closing]
    obtain ⟨kind, text, rfl, _⟩ :=
      scripted fault (Ssh.mem_faults.mpr (.inr (.inr ⟨number, client, held, raised⟩)))
    rfl

theorem remote_closing_unknown {now : WinRm.State} {fault : Fault} (scripted : WinRm.Scripted now)
    (failed : (WinRm.close now).1 = .error fault) : answer? fault = none := by
  cases held : now.held with
  | none =>
      rw [WinRm.close_of_none held] at failed
      cases failed
  | some shell =>
      by_cases unnamed : shell.id = .null
      · rw [WinRm.close_of_unnamed held unnamed] at failed
        cases failed
      · rw [WinRm.close_of_held held unnamed] at failed
        have closing : shell.closing = some fault := (WinRm.closingResult_eq_error.mp failed).1
        have raised : fault ∈ shell.faults := by simp [WinRm.Shell.faults, closing]
        obtain ⟨kind, text, rfl, _⟩ := scripted.held shell held fault raised
        rfl

theorem stops_of_succeeded {deed : Deed} (succeeded : deed.failure? = none) :
    deed.stops? = none := by
  cases deed with
  | computed handling outcome =>
      have same : failureOf outcome = none := succeeded
      simp only [Deed.stops?, same, Option.map_none]
  | connected _ outcome | closed _ outcome => exact succeeded
  | executed host command handling exchanges answer =>
      have same : faultOf answer = none := Option.map_eq_none_iff.mp succeeded
      simp only [Deed.stops?, same, Option.bind_none]

theorem unexcused_of_succeeded {deed : Deed} (succeeded : deed.failure? = none) :
    deed.excused? = none := by
  cases deed with
  | computed _ _ | connected _ _ | closed _ _ => rfl
  | executed host command handling exchanges answer =>
      cases answer with
      | ok reply => cases handling <;> rfl
      | error cause => cases succeeded

theorem executions_of_uncommanded {deed : Deed} (none : deed.command? = .none) :
    deed.exchanges.executions = [] := by
  cases deed with
  | executed _ _ _ _ _ => cases none
  | computed _ _ | connected _ _ | closed _ _ => rfl

/-- What closing a connection of either kind comes to, whatever has befallen it, when the client
libraries and the system raise faults of their own. -/
inductive Closing : Except Fault Unit → Prop where
  | shell (homes : Path.Homes) (config : Ssh.Config) (keyFiles : Ssh.KeyFiles)
      (clients : List Ssh.Client) (incidents : List (Incident Ssh.Link))
      (scripted : ∀ raised ∈ (Ssh.State.fresh keyFiles clients).faults, Ssh.ThirdParty raised) :
      Closing (Ssh.close ((Ssh.setting homes config).after incidents (.fresh keyFiles clients))).1
  | remote (config : WinRm.Config) (probes : List WinRm.Probe)
      (handshakes : List WinRm.Handshake) (incidents : List (Incident Nat))
      (scripted : WinRm.Scripted (.fresh probes handshakes)) :
      Closing (WinRm.close ((WinRm.setting config).after incidents (.fresh probes handshakes))).1

theorem Closing.unknown {outcome : Except Fault Unit} (closing : Closing outcome) {fault : Fault}
    (failed : outcome = .error fault) : answer? fault = none := by
  cases closing with
  | shell homes config _ _ incidents scripted =>
      exact shell_closing_unknown (Ssh.after_scripted homes config scripted incidents) failed
  | remote config _ _ incidents scripted =>
      exact remote_closing_unknown (WinRm.after_scripted scripted incidents) failed

def Deed.FailsKnown (deed : Deed) : Prop :=
  ∀ failure, deed.failure? = some failure → ∃ fault, failure = .fault fault ∧ answer? fault ≠ none

/-- A deed that closes a connection does not fail with a fault that the service knows. -/
theorem succeeded_of_closes {deeds : List Deed} {deed : Deed}
    (closings : ∀ closing ∈ History.closings (deeds.flatMap Deed.exchanges), Closing closing)
    (listed : deed.FailsKnown) (member : deed ∈ deeds) (closes : deed.Closes) :
    deed.failure? = none := by
  cases deed with
  | computed _ _ | connected _ _ | executed _ _ _ _ _ => cases closes
  | closed host outcome =>
      have told : (host, Exchange.close outcome) ∈ deeds.flatMap Deed.exchanges :=
        List.mem_flatMap.mpr ⟨_, member, List.mem_singleton.mpr rfl⟩
      have closing := closings outcome (List.mem_filterMap.mpr ⟨_, told, rfl⟩)
      cases outcome with
      | ok _ => rfl
      | error fault =>
          obtain ⟨_, same, known⟩ := listed (.fault fault) rfl
          cases same
          exact absurd (closing.unknown rfl) known

theorem command_of_excused {deed : Deed} {cause : Fault} (excused : deed.excused? = some cause) :
    ∃ command, deed.command? = some command ∧ cause.mayBeRestart = true ∧
      deed.failure? = some (.fault cause) := by
  cases deed with
  | computed _ _ | connected _ _ | closed _ _ => cases excused
  | executed host command handling exchanges answer =>
      cases answer with
      | ok reply => cases handling <;> cases excused
      | error fault =>
          cases handling with
          | passed | blamed => cases excused
          | awaited =>
              simp only [Deed.excused?] at excused
              split at excused
              · next restarts =>
                  cases excused
                  exact ⟨command, rfl, restarts, rfl⟩
              · cases excused

namespace Service

open Course

variable (service : Service σ)

def deeds (request : Request) (resource : Resource) (now : σ) : List Deed :=
  ((service.course request resource).traced service.hosts ([], now)).2.1

def outcome (request : Request) (resource : Resource) (now : σ) : Except Failure Json :=
  ((service.course request resource).traced service.hosts ([], now)).1

theorem decided_deeds (request : Request) (resource : Resource) (now : σ) :
    Decided (service.deeds request resource now) (service.outcome request resource now) := by
  obtain ⟨deeds, appended, decided⟩ :=
    (service.course request resource).decided service.hosts ([], now)
  rw [List.nil_append] at appended
  rw [Service.deeds, appended]
  exact decided

section Commands

variable {P : String → Handling → Prop}

theorem commands_ask {handling : Handling} {host command : String} (holds : P command handling)
    (read : Reply → Except Fault α) : (ask handling host command read).Commands P :=
  ⟨holds, fun _ => trivial⟩

theorem commands_planned (computed : Except Failure α) {next : α → Course β}
    (rest : ∀ value, (next value).Commands P) : (planning computed >>= next).Commands P :=
  ⟨trivial, rest⟩

theorem commands_visiting {asset : Asset} {work : String → Course α}
    (works : (work asset.hostname.text).Commands P) : (service.visiting asset work).Commands P :=
  ⟨trivial, fun _ => works⟩

theorem commands_told {course : Course α} (commands : course.Commands P) (change : α → β) :
    (course >>= fun value => pure (change value)).Commands P :=
  ⟨commands, fun _ => trivial⟩

variable (passes : ∀ command, P command .passed)

include passes

theorem commands_guarding (asset : Asset) (action : String) (ecosystem : Ecosystem)
    (host : String) : (guarding asset action ecosystem host).Commands P :=
  commands_planned _ fun _ => ⟨commands_ask (passes _) _, fun _ => trivial⟩

theorem commands_listing (asset : Asset) (ecosystemName host : String) :
    (listing asset ecosystemName host).Commands P := by
  refine commands_planned _ fun ecosystem => ?_
  cases ecosystem with
  | windows =>
      have lists : (ask .passed host Windows.installedUpdatesScript
          UpdateQuery.installedOf).Commands P := commands_ask (passes _) _
      refine commands_planned _ fun windows => ?_
      cases windows with
      | true => exact commands_told lists _
      | false => exact commands_planned _ fun _ => commands_told lists _
  | packages manager =>
      exact ⟨commands_ask (passes _) _, fun _ => commands_told (commands_ask (passes _) _) _⟩

theorem commands_comparing (firstName secondName first second : String) :
    (comparing firstName secondName first second).Commands P := by
  refine commands_planned _ fun left => commands_planned _ fun right => ?_
  exact ⟨commands_ask (passes _) _, fun _ => commands_told (commands_ask (passes _) _) _⟩

theorem commands_searching (host : String) : (searching host).Commands P :=
  ⟨commands_ask (passes _) _, fun _ => commands_told (commands_ask (passes _) _) _⟩

theorem commands_checking (ecosystemName host : String) :
    (checking ecosystemName host).Commands P :=
  commands_planned _ fun _ => commands_ask (passes _) _

variable (blames : ∀ command, P command .blamed)

include blames

theorem commands_installing (asset : Asset) (kbIds : Json) (host : String) :
    (installing asset kbIds host).Commands P :=
  ⟨commands_guarding passes _ _ _ _, fun _ => ⟨trivial, fun _ => commands_ask (blames _) _⟩⟩

theorem commands_upgrading (asset : Asset) (names : Option (List Json)) (host : String) :
    (upgrading asset names host).Commands P := by
  refine commands_planned _ fun ecosystem => ⟨commands_guarding passes _ _ _ _, fun _ => ?_⟩
  cases ecosystem with
  | windows => trivial
  | packages manager => exact ⟨trivial, fun _ => commands_ask (blames _) _⟩

theorem course_commands (request : Request) {resource : Resource}
    (unlike : ∀ name, resource ≠ .reboot name) :
    (service.course request resource).Commands P := by
  cases resource with
  | health | file => trivial
  | inventory | asset _ => exact commands_planned _ fun _ => trivial
  | comparison =>
      refine commands_planned _ fun order => commands_told (service.commands_visiting ?_) _
      exact service.commands_visiting (commands_comparing passes _ _ _ _)
  | status name =>
      refine commands_planned _ fun asset => commands_told (service.commands_visiting ?_) _
      exact commands_ask (passes _) _
  | updates name =>
      refine commands_planned _ fun asset => commands_planned _ fun _ => ?_
      exact service.commands_visiting (commands_listing passes asset _ _)
  | availableUpdates name =>
      refine commands_planned _ fun asset => commands_planned _ fun _ => ?_
      exact ⟨service.commands_visiting (commands_searching passes _), fun _ => trivial⟩
  | rebootStatus name =>
      refine commands_planned _ fun asset => commands_planned _ fun _ => commands_told ?_ _
      exact service.commands_visiting (commands_checking passes _ _)
  | installation name =>
      refine commands_planned _ fun asset => commands_planned _ fun _ => ?_
      refine commands_planned _ fun _ => commands_planned _ fun _ => commands_planned _ fun _ => ?_
      exact commands_told (service.commands_visiting (commands_installing passes blames _ _ _)) _
  | upgrade name =>
      refine commands_planned _ fun asset => commands_planned _ fun _ => ?_
      refine commands_planned _ fun _ => commands_planned _ fun _ => commands_planned _ fun _ => ?_
      exact commands_told (service.commands_visiting (commands_upgrading passes blames _ _ _)) _
  | reboot name => exact absurd rfl (unlike name)

end Commands

/-- Every command of a request to restart is the restart, which is awaited. -/
theorem reboot_commands (request : Request) (name : String) :
    (service.course request (.reboot name)).Commands fun command handling =>
      IsRestartCommand command ∧ handling = .awaited := by
  refine commands_planned _ fun asset => commands_planned _ fun ecosystemName => ?_
  refine commands_planned _ fun _ => commands_told (service.commands_visiting ?_) _
  exact commands_planned _ fun ecosystem => ⟨⟨⟨ecosystem, rfl⟩, rfl⟩, fun _ => trivial⟩

theorem awaited_restarting (hosts : String → Transport σ) (ecosystemName host : String) :
    Run.Logs Prod.fst ((restarting ecosystemName host).traced hosts)
      (Awaited fun fault request =>
        request.confirmed = false ∧ request.detail = fault.describe) := by
  rw [restarting]
  refine awaited_computed fun ecosystem _ => awaited_command ?_
  intro fault restarts
  have unconfirmed : RebootRequest.ofAnswer ecosystem.label ecosystem.restartCommand
      (.error fault) = .ok ⟨ecosystem.restartCommand, false, fault.describe⟩ := by
    rw [RebootRequest.ofAnswer, restarts, if_pos rfl]
  exact ⟨_, congrArg computing unconfirmed, by simp⟩

theorem awaited_reboot (request : Request) (name : String) :
    Run.Logs Prod.fst ((service.course request (.reboot name)).traced service.hosts)
      (Awaited fun fault body =>
        ∃ asset, service.findAsset name = .ok asset ∧ body = unconfirmed asset fault) := by
  rw [course]
  refine awaited_computed fun asset found => ?_
  refine awaited_computed fun ecosystemName _ => awaited_computed fun _ _ => ?_
  have visits : Run.Logs Prod.fst
      ((service.visiting asset (restarting ecosystemName)).traced service.hosts) _ :=
    awaited_computed fun _ _ => awaited_visit (awaited_restarting service.hosts ecosystemName _)
  refine awaited_changed ?_ visits
  rintro fault request ⟨confirmed, detail⟩
  refine ⟨asset, found, ?_⟩
  rw [RebootRequest.members, confirmed, detail]
  rfl

/-- Over recorded transports a course keeps the history of its deeds. -/
theorem course_run_recorded (request : Request) (resource : Resource) (now : σ) :
    ((service.recorded.course request resource).run service.recorded.hosts) ([], now) =
      (service.outcome request resource now,
        ((service.deeds request resource now).flatMap Deed.exchanges,
          ((service.course request resource).traced service.hosts ([], now)).2.2)) := by
  rw [service.course_recorded]
  exact (service.course request resource).traced_echoes service.hosts ([], now)

variable {service} {request : Request} {resource : Resource} {withBody : Bool}

theorem history_eq (led : request.route = .serve resource withBody) (now : σ) :
    service.history request now = (service.deeds request resource now).flatMap Deed.exchanges := by
  rw [Service.history, respond_snd_of_serve service.recorded led, service.recorded.serve_apply,
    course_run_recorded]

theorem response_eq (led : request.route = .serve resource withBody) (served : resource ≠ .file)
    (now : σ) :
    service.response request now =
      (Response.ofOutcome (service.settle resource (service.outcome request resource now))).sent
        withBody := by
  have settled : service.recorded.settle resource = service.settle resource := rfl
  rw [Service.response, respond_recorded service request [] now,
    respond_fst service.recorded led served, service.recorded.serve_apply, course_run_recorded,
    settled]

end Service

variable {service : Service σ} {request : Request} {resource : Resource} {withBody : Bool}

section First

variable {before after : List Deed} {deed : Deed} {fault : Fault} {now : σ} {status : Nat}
  {text : String}

/-- The first deed that fails, and is not excused, ends the course with its fault. -/
theorem outcome_of_first (split : service.deeds request resource now = before ++ deed :: after)
    (first : ∀ earlier ∈ before, earlier.failure? = none)
    (failed : deed.failure? = some (.fault fault)) (known : answer? fault = some (status, text))
    (closed : ∀ later ∈ after, later.Closes → later.failure? = none)
    (unexcused : deed.excused? = none) :
    (∀ later ∈ after, later.Closes) ∧
      service.outcome request resource now = .error (.fault fault) := by
  have stops := stops_of_answer failed known unexcused
  obtain ⟨closes, ended⟩ := (service.decided_deeds request resource now).of_first split
    (fun earlier member => stops_of_succeeded (first earlier member)) stops
  refine ⟨closes, ?_⟩
  rw [ended, lastFailure_of_closed]
  exact fun later member => stops_of_succeeded (closed later member (closes later member))

theorem commands_of_member {P : String → Handling → Prop}
    (commands : (service.course request resource).Commands P)
    (member : deed ∈ service.deeds request resource now) : deed.Commands P := by
  obtain ⟨deeds, appended, holds⟩ := Course.logs_commands service.hosts commands ([], now)
  rw [Service.deeds, appended] at member
  exact holds deed member

/-- A command of a request is excused only if it restarts a host. -/
theorem unexcused_of_plain (plain : ∀ name, resource ≠ .reboot name)
    (member : deed ∈ service.deeds request resource now) : deed.excused? = none := by
  have commands := commands_of_member (service.course_commands
    (P := fun _ handling => handling ≠ .awaited) (by simp) (by simp) request plain) member
  cases deed with
  | computed _ _ | connected _ _ | closed _ _ => rfl
  | executed host command handling exchanges answer =>
      cases handling with
      | passed | blamed => rfl
      | awaited => exact absurd rfl commands

theorem restart_of_excused {cause : Fault} (member : deed ∈ service.deeds request resource now)
    (excused : deed.excused? = some cause) : ∃ name, resource = .reboot name := by
  cases resource with
  | reboot name => exact ⟨name, rfl⟩
  | _ =>
      rw [unexcused_of_plain (by simp) member] at excused
      cases excused

/-- The command of a request to restart is excused exactly if its fault may be a restart. -/
theorem excused_of_reboot {name command : String}
    (member : deed ∈ service.deeds request (.reboot name) now)
    (executed : deed.command? = some command) (failed : deed.failure? = some (.fault fault)) :
    IsRestartCommand command ∧
      deed.excused? = if fault.mayBeRestart then some fault else none := by
  have commands := commands_of_member (service.reboot_commands request name) member
  cases deed with
  | computed _ _ | connected _ _ | closed _ _ => cases executed
  | executed host _ handling exchanges answer =>
      cases executed
      obtain ⟨restarts, awaited⟩ := commands
      cases awaited
      refine ⟨restarts, ?_⟩
      cases answer with
      | ok reply => cases failed
      | error cause =>
          cases failed
          rfl

theorem outcome_of_excused {name : String}
    (split : service.deeds request (.reboot name) now = before ++ deed :: after)
    (first : ∀ earlier ∈ before, earlier.failure? = none) (excused : deed.excused? = some fault)
    (closed : ∀ later ∈ after, later.Closes → later.failure? = none) :
    (∀ later ∈ after, later.command? = none) ∧
      ∃ asset, service.findAsset name = .ok asset ∧
        service.outcome request (.reboot name) now = .ok (unconfirmed asset fault) := by
  obtain ⟨deeds, appended, awaited⟩ := service.awaited_reboot request name ([], now)
  rw [List.nil_append] at appended
  have same : before ++ deed :: after = deeds := by rw [← split, Service.deeds, appended]
  cases awaited with
  | plain _ _ none =>
      have told := none deed (by simp [← same])
      rw [excused] at told
      cases told
  | excused others other later cause _ uncommanded excuses last answered =>
      obtain ⟨rfl, rfl⟩ := first_unique (P := fun deed => deed.excused? ≠ none) same
        (fun earlier member => not_not_intro (unexcused_of_succeeded (first earlier member)))
        (by simp [excused])
        (fun earlier member =>
          not_not_intro (Deed.unexcused_of_uncommanded (uncommanded earlier member)))
        (by simp [excuses])
      rw [excuses] at excused
      cases excused
      obtain ⟨_, told, asset, found, rfl⟩ :=
        answered fun later member closes => stops_of_succeeded (closed later member closes)
      exact ⟨last, asset, found, told⟩

theorem served_of_failed (split : service.deeds request resource now = before ++ deed :: after)
    (failed : deed.failure? = some (.fault fault)) : resource ≠ .file := by
  rintro rfl
  have member : deed ∈ service.deeds request .file now := by simp [split]
  cases List.mem_singleton.mp member
  cases failed

end First

/-- The first step of a request that fails decides. Where all that fails does so with faults that
the service knows, nothing is executed behind the first on any connection, and the request is
answered by the status of that fault and an object whose only member is the error. The status of an
asset that was found is told all the same, and so is a restart whose own command fails as it would
if the host restarted. -/
theorem first_failure_decides (service : Service σ) (request : Request) (now : σ)
    {resource : Resource} {withBody : Bool} (led : request.route = .serve resource withBody)
    {before after : List Deed} {deed : Deed} {fault : Fault} {status : Nat} {text : String}
    (split : service.deeds request resource now = before ++ deed :: after)
    (first : ∀ earlier ∈ before, earlier.failure? = none)
    (failed : deed.failure? = some (.fault fault)) (known : answer? fault = some (status, text))
    (listed : ∀ later ∈ after, later.FailsKnown)
    (closings : ∀ closing ∈ (service.history request now).closings, Closing closing) :
    service.history request now = (before ++ deed :: after).flatMap Deed.exchanges ∧
    (∀ later ∈ after, later.exchanges.executions = []) ∧
    ((∀ name asset, resource = .status name → service.findAsset name ≠ .ok asset) →
      (∀ name command, resource = .reboot name → deed.command? = some command →
        fault.mayBeRestart = false) →
      service.response request now =
        ⟨status, if withBody then some (.obj [("error", .str text)]) else none⟩) ∧
    (∀ name asset, resource = .status name → service.findAsset name = .ok asset →
      service.response request now = ⟨200, if withBody then some (.obj [
        ("name", asset.hostname),
        ("status", .str "offline"),
        ("error", .str fault.message)]) else none⟩) ∧
    (∀ name asset command, resource = .reboot name → service.findAsset name = .ok asset →
      deed.command? = some command → fault.mayBeRestart = true →
        IsRestartCommand command ∧
        service.response request now = ⟨200, if withBody then some (.obj [
          ("asset", asset.hostname),
          ("deep_freeze", .bool asset.deepFreeze),
          ("rebooting", .bool true),
          ("confirmed", .bool false),
          ("detail", .str fault.describe)]) else none⟩) := by
  have answered : service.response request now = _ :=
    Service.response_eq led (served_of_failed split failed) now
  have member : deed ∈ service.deeds request resource now := by simp [split]
  have kept : service.history request now = (before ++ deed :: after).flatMap Deed.exchanges := by
    rw [Service.history_eq led, split]
  have closed : ∀ later ∈ after, later.Closes → later.failure? = none := by
    rw [kept] at closings
    exact fun later last => succeeded_of_closes closings (listed later last) (by simp [last])
  cases excused : deed.excused? with
  | none =>
      obtain ⟨closes, ended⟩ := outcome_of_first split first failed known closed excused
      rw [ended] at answered
      refine ⟨kept, fun later last => executions_of_uncommanded (closes later last).uncommanded,
        ?_, ?_, ?_⟩
      · intro unfound _
        rw [answered, service.settle_unfound unfound]
        exact (congrArg (Response.sent withBody) (ofFault_of_answer known)).trans (sent_eq _ _ _)
      · rintro name asset rfl found
        rw [answered, service.settle_found found, excuse, isOwn_of_answer known]
        exact sent_eq _ _ _
      · rintro name asset command rfl _ executed restarts
        have told := (excused_of_reboot member executed failed).2
        rw [excused, restarts] at told
        cases told
  | some cause =>
      obtain ⟨name, rfl⟩ := restart_of_excused member excused
      obtain ⟨command, executed, restarts, same⟩ := command_of_excused excused
      rw [failed] at same
      cases same
      obtain ⟨uncommanded, other, found, ended⟩ := outcome_of_excused split first excused closed
      rw [ended] at answered
      refine ⟨kept, fun later last => executions_of_uncommanded (uncommanded later last),
        ?_, ?_, ?_⟩
      · intro _ unlike
        rw [unlike name command rfl executed] at restarts
        cases restarts
      · rintro _ _ ⟨⟩
      · rintro _ asset _ ⟨⟩ finds again _
        rw [found] at finds
        cases finds
        exact ⟨(excused_of_reboot member again failed).1, answered.trans (sent_eq _ _ _)⟩

def losing : Transport Unit where
  connected _ := true
  connect := pure ()
  dispatch _ := Run.fail (.connection (.reported "lost"))
  close := pure ()

def lostService : Service Unit := { soleService fun _ => .silent with hosts := fun _ => losing }

/-- A host that is lost before it tells whether a restart is pending is not upgraded. -/
theorem lost_host_not_upgraded :
    lostService.response wholeUpgrade () =
        ⟨503, some (.obj [("error", .str "Connection failed: lost")])⟩ ∧
      (lostService.history wholeUpgrade ()).executions =
        [⟨"web", Manager.apt.rebootCheckCommand, .error (.connection (.reported "lost"))⟩] := by
  have led : wholeUpgrade.route = .serve (.upgrade "web") true := by decide +kernel
  let lost : Except Fault Reply := .error (.connection (.reported "lost"))
  let check := Manager.apt.rebootCheckCommand
  have split : lostService.deeds wholeUpgrade (.upgrade "web") () =
      (List.replicate 6 (.computed .passed (.ok ())) ++
        [.connected "web" (.ok ()), .computed .passed (.ok ()), .computed .passed (.ok ())]) ++
      .executed "web" check .passed [("web", .execute check lost)] lost ::
        [.closed "web" (.ok ())] := by rfl
  have closings : ∀ closing ∈ (lostService.history wholeUpgrade ()).closings, Closing closing := by
    rw [Service.history_eq led, split]
    exact List.forall_mem_singleton.mpr
      (.shell ⟨"/root", []⟩ (.ofHost (.str "web") (.str "ops")) [] [] [] (List.forall_mem_nil _))
  have listed : Deed.FailsKnown (.closed "web" (.ok ())) := nofun
  obtain ⟨kept, _, answered, _⟩ := first_failure_decides lostService wholeUpgrade () led split
    (by decide) rfl rfl (List.forall_mem_singleton.mpr listed) closings
  refine ⟨answered nofun nofun, ?_⟩
  rw [kept]
  rfl

end FleetPatch.Web
