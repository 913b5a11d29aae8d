import FleetPatch.Proofs.ActionScripts
import FleetPatch.Proofs.ClientErrors

/-!
# Filters that are accepted

An action should run exactly for the lists that make a filter line: an accepted
list is one command, which is the script of the action, and a refused one is
nothing. It does so for every list but one of identifiers that are not all texts,
which is accepted and then stops the action before anything is executed.
-/

namespace FleetPatch

set_option autoImplicit false

open Windows

namespace UpdateExecutor

/-- What an action has to tell of a list: when the list makes a filter line, the one command that
the script of the action is, and nothing but the fault of the line when it makes none. -/
structure FollowsFilter (name : String) (action : Action) (list : List Json) (exchanges : History)
    (outcome : Except Fault Installation) : Prop where
  accepted : ∀ line, filterLine list = .ok line → ∃ script answer,
    action.script list = .ok script ∧ Executed name script exchanges answer ∧
      outcome = answer.bind (resultOf action)
  refused : ∀ fault, filterLine list = .error fault →
    (∃ cause, fault = .invalidValue cause) ∧ exchanges = [] ∧ outcome = .error fault

/-- A list that makes a filter line although not all its entries are texts. -/
def Mixed (list : List Json) : Prop :=
  (∃ line, filterLine list = .ok line) ∧ ∃ entry ∈ list, ∀ text, entry ≠ .str text

theorem Mixed.not_texts {list : List Json} (mixed : Mixed list) :
    ¬ ∀ entry ∈ list, ∃ text, entry = .str text := by
  intro texts
  obtain ⟨_, entry, member, other⟩ := mixed
  obtain ⟨text, same⟩ := texts entry member
  exact other text same

theorem filterLine_error {list : List Json} {fault : Fault}
    (failed : filterLine list = .error fault) : ∃ cause, fault = .invalidValue cause :=
  (filterDigits_error (map_eq_error.mp failed)).2

theorem actionScript_cases (action : Action) (list : List Json) :
    (∃ fault, filterLine list = .error fault ∧ actionScript action (.arr list) = .error fault) ∨
    (Mixed list ∧ actionScript action (.arr list) = .error .wrongType) ∨
    (¬ Mixed list ∧ ∃ line, filterLine list = .ok line ∧
      actionScript action (.arr list) = .ok (action.scriptWith line)) := by
  rw [actionScript, bind_of_ok (Json.elementsIfPresent_arr list), Action.script]
  cases lined : filterLine list with
  | error fault => exact .inl ⟨fault, rfl, rfl⟩
  | ok line =>
      refine .inr ?_
      change (_ ∧ (requireStrings list >>= fun _ => _) = _) ∨
        (_ ∧ ∃ other, _ ∧ (requireStrings list >>= fun _ => _) = _)
      cases strings : requireStrings list with
      | error fault =>
          obtain ⟨rfl, other⟩ := requireStrings_error strings
          exact .inl ⟨⟨⟨line, lined⟩, other⟩, rfl⟩
      | ok _ =>
          exact .inr ⟨fun mixed => mixed.not_texts (requireStrings_ok strings), line, rfl, rfl⟩

variable {σ : Type} (host : Transport σ) (name : String) (action : Action)

theorem logs_act (kbIds : Json) :
    Run.Logs (fun state => state.2.1) (act (host.recorded name) action kbIds)
      (.given (actionScript action kbIds) fun script => Asked name script (resultOf action)) := by
  apply Run.logs_given
  intro script _
  have asks := (records_ask name host script (resultOf action)).second (τ := Cache)
  have forgets (result : Installation) :
      Run.Logs (fun state : Cache × History × σ => state.2.1)
        (Run.first (Run.update fun _ => none) >>= fun _ => pure result)
        (.quiet (.ok result : Except Fault Installation)) :=
    fun _ => ⟨[], (List.append_nil _).symm, rfl, rfl⟩
  apply (asks.bind forgets).mono
  intro exchanges outcome tells
  cases tells with
  | stopped _ fault asked => exact asked
  | went _ _ result _ asked quiet =>
      obtain ⟨rfl, rfl⟩ := quiet
      rw [List.append_nil]
      exact asked

/-- An action follows its filter exactly unless the list is mixed, and then nothing is executed. -/
theorem act_follows_iff (list : List Json) :
    Run.Logs (fun state => state.2.1) (act (host.recorded name) action (.arr list))
      fun exchanges outcome =>
        (FollowsFilter name action list exchanges outcome ↔ ¬ Mixed list) ∧
        (Mixed list → exchanges = [] ∧ outcome = .error .wrongType) := by
  apply (logs_act host name action (.arr list)).mono
  intro exchanges outcome tells
  rcases actionScript_cases action list with
    ⟨fault, refused, stopped⟩ | ⟨mixed, stopped⟩ | ⟨sound, line, lined, scripted⟩
  · rw [stopped] at tells
    obtain ⟨rfl, rfl⟩ := tells
    have sound : ¬ Mixed list := by
      rintro ⟨⟨line, lined⟩, _⟩
      rw [refused] at lined
      cases lined
    refine ⟨iff_of_true ⟨fun line lined => ?_, fun other again => ?_⟩ sound, fun mixed =>
      absurd mixed sound⟩
    · rw [refused] at lined
      cases lined
    · cases refused.symm.trans again
      exact ⟨filterLine_error refused, rfl, rfl⟩
  · rw [stopped] at tells
    obtain ⟨rfl, rfl⟩ := tells
    refine ⟨iff_of_false (fun follows => ?_) fun sound => sound mixed, fun _ => ⟨rfl, rfl⟩⟩
    obtain ⟨line, lined⟩ := mixed.1
    obtain ⟨_, _, _, executed, _⟩ := follows.accepted line lined
    cases executed
  · rw [scripted] at tells
    cases tells with
    | answered _ answer executed =>
        refine ⟨iff_of_true ⟨fun other again => ?_, fun fault refused => ?_⟩ sound, fun mixed =>
          absurd mixed sound⟩
        · refine ⟨_, answer, ?_, executed, rfl⟩
          rw [Action.script, lined]
          rfl
        · rw [lined] at refused
          cases refused

end UpdateExecutor

namespace Web

open UpdateExecutor

def ListsUpdates (body : List UInt8) (list : List Json) : Prop :=
  ∃ members, bodyMembers body = .ok members ∧ Json.memberOrNull "kb_numbers" members = .arr list

/-- A check on a pending restart was answered that there is none. -/
def PastGuard (ecosystem : Ecosystem) (history : History) : Prop :=
  ∃ check ∈ history.executions, check.command = ecosystem.rebootCheck ∧
    ∃ reply, check.outcome = .ok reply ∧ ecosystem.pendingOf reply = .ok false

theorem guarded_past {α : Type} {host : String} {ecosystem : Ecosystem} {asset : Asset}
    {action : String} {order : Except Failure String} {read : Reply → Except Fault α}
    {history : History} {outcome : Except Failure α}
    (visited : Visited host (Guarded host ecosystem asset action order read) history outcome)
    (past : PastGuard ecosystem history) :
    ∃ closed, history.closings = [closed] ∧
      ((∃ failure, order = .error failure ∧ outcome = afterClosing closed (.error failure) ∧
          ∀ execution ∈ history.executions, execution.command = ecosystem.rebootCheck) ∨
        ∃ command later answer, order = .ok command ∧ Executed host command later answer ∧
          (∀ entry ∈ later, entry ∈ history) ∧
          (∃ reply, history.executions =
            ⟨host, ecosystem.rebootCheck, .ok reply⟩ :: History.executions later) ∧
          outcome = afterClosing closed ((answer.bind read).mapError changeFailure)) := by
  obtain ⟨check, member, checks, reply, answered, clear⟩ := past
  cases visited with
  | unconnected fault closed => cases member
  | worked work result closed told =>
      rw [executions_visit] at member ⊢
      rw [closings_visit]
      cases told with
      | unchecked _ fault checked =>
          rcases checked.executions_eq with dispatched | ⟨nothing, _⟩
          · rw [dispatched, List.mem_singleton] at member
            rw [member] at answered
            cases answered
          · rw [nothing] at member
            cases member
      | refused _ given fault checked refusal =>
          rw [checked.executions_of_ok, List.mem_singleton] at member
          rw [member] at answered
          cases answered
          rw [cleared_of_pending clear] at refusal
          cases refusal
      | unordered _ given failure checked _ none =>
          rw [checked.closings_eq, checked.executions_of_ok]
          refine ⟨closed, rfl, .inl ⟨failure, none, rfl, fun execution held => ?_⟩⟩
          rw [List.mem_singleton.mp held]
      | changed earlier later given command answer checked _ ordered executed =>
          rw [closings_append, executions_append, checked.closings_eq, executed.closings_eq,
            checked.executions_of_ok]
          refine ⟨closed, rfl, .inr ⟨command, later, answer, ordered, executed,
            fun entry held => ?_,
            ⟨given, rfl⟩, rfl⟩⟩
          exact List.mem_append_left _ (List.mem_cons_of_mem _ (List.mem_append_right _ held))

theorem executed_plain {host command : String} {exchanges : History} {answer : Except Fault Reply}
    (executed : Executed host command exchanges answer)
    (plain : ∀ entry ∈ exchanges, FailsPlainly entry) :
    ∀ fault, answer = .error fault → fault.isTransport = true := by
  rintro fault rfl
  cases executed with
  | direct => exact plain _ List.mem_cons_self fault rfl
  | connected => exact plain _ (List.mem_cons_of_mem _ List.mem_cons_self) fault rfl
  | unconnected => exact plain _ List.mem_cons_self fault rfl

theorem installCommand_error_iff {list : List Json} {failure : Failure}
    (failed : installCommand (.arr list) = .error failure) :
    (Response.ofFailure failure).status = 400 ↔ ∃ fault, filterLine list = .error fault := by
  obtain ⟨fault, stopped, rfl⟩ := mapError_eq_error.mp failed
  rcases actionScript_cases .install list with
    ⟨other, refused, same⟩ | ⟨mixed, same⟩ | ⟨_, line, lined, same⟩
  · cases same.symm.trans stopped
    obtain ⟨cause, rfl⟩ := filterLine_error refused
    exact iff_of_true rfl ⟨_, refused⟩
  · cases same.symm.trans stopped
    refine iff_of_false nofun ?_
    rintro ⟨fault, refused⟩
    obtain ⟨line, lined⟩ := mixed.1
    rw [refused] at lined
    cases lined
  · rw [same] at stopped
    cases stopped

theorem installCommand_listed {members : List (String × Json)} {list : List Json}
    {entries : Option (List Json)} (held : Json.memberOrNull "kb_numbers" members = .arr list)
    (listed : listed? "kb_numbers" members = .ok entries) :
    installCommand ((entries.map Json.arr).getD .null) = installCommand (.arr list) := by
  rw [listed?, held] at listed
  cases list with
  | nil =>
      cases listed
      rfl
  | cons head tail =>
      cases listed
      rfl

theorem installed_status_iff {closed : Except Fault Unit} {answer : Except Fault Reply}
    (shown : Installation → Json)
    (closes : ∀ fault, closed = .error fault → fault.isTransport = true)
    (answers : ∀ fault, answer = .error fault → fault.isTransport = true) :
    (Response.ofOutcome ((afterClosing closed ((answer.bind (resultOf .install)).mapError
        changeFailure)).map shown)).status = 400 ↔
      closed = .ok () ∧ ∃ reply, answer = .ok reply ∧ reply.succeeded = true ∧
        Windows.Overflows reply.stdout := by
  constructor
  · intro refused
    obtain ⟨well, reply, answered, unread⟩ :=
      (clientError_of_change_iff (resultOf .install) shown closes answers).mp (.inl refused)
    exact ⟨well, reply, answered, (installation_blames_iff reply).mp unread⟩
  · rintro ⟨rfl, reply, rfl, succeeded, overflows⟩
    obtain ⟨cause, unread⟩ := Windows.parse_of_overflow "install" overflows
    have read : resultOf .install reply = .error (.invalidValue cause) := by
      rw [resultOf, bind_of_ok (required_of_succeeded succeeded _ _)]
      exact unread
    change (Response.ofOutcome
      (((resultOf .install reply).mapError changeFailure).map shown)).status =
      400
    rw [read]
    rfl

section Status

variable {σ : Type} {service : Service σ} {name : String} {body : List UInt8} {history : History}
  {outcome : Except Failure Json} {list : List Json}

/-- Past the guard, a request to install what a list names is answered 400 exactly when the
list makes no filter line or the result is taken for a fault of the request, and the
connection closes. -/
theorem installation_status_iff (plain : ∀ entry ∈ history, FailsPlainly entry)
    (tells : InstallationTold service name body history outcome) (lists : ListsUpdates body list)
    (past : PastGuard .windows history) :
    (Response.ofOutcome outcome).status = 400 ↔ ClosesWell history ∧
      ((∃ fault, filterLine list = .error fault) ∨
        ∃ change ∈ history.executions, Overflowed change) := by
  have visible : history ≠ [] := by
    rintro rfl
    obtain ⟨_, member, _⟩ := past
    cases member
  rcases Run.Telling.given_cases tells with ⟨_, _, none, _⟩ | ⟨⟨asset, kbIds⟩, planned, mapped⟩
  · exact absurd none visible
  obtain ⟨members, entries, reads, listed, rfl⟩ := (installation_planned service planned).listed
  obtain ⟨others, again, held⟩ := lists
  cases reads.symm.trans again
  cases mapped with
  | changed _ result reached =>
      rcases Run.Telling.given_cases reached with ⟨_, _, none, _⟩ | ⟨_, _, visited⟩
      · exact absurd none visible
      rw [installCommand_listed held listed] at visited
      obtain ⟨closed, closes, made⟩ := guarded_past visited past
      have closing := closing_plain plain closes
      rw [closesWell_iff closes]
      rcases made with ⟨failure, unordered, rfl, checks⟩ |
        ⟨command, later, answer, ordered, executed, within, ⟨reply, only⟩, rfl⟩
      · have unchanged : ¬ ∃ change ∈ history.executions, Overflowed change := by
          rintro ⟨change, member, overflowed⟩
          refine observing_not_change ?_ overflowed.isChange
          rw [checks change member]
          exact rebootCheck_observes .windows
        rw [or_iff_left unchanged, ← installCommand_error_iff unordered]
        cases closed with
        | error fault =>
            refine iff_of_false (fun refused => ?_) nofun
            have blamed := clientError_ofFault (.inl refused)
            rw [not_blames_of_transport (closing fault rfl)] at blamed
            cases blamed
        | ok _ => exact (and_iff_right rfl).symm
      · have accepted : ¬ ∃ fault, filterLine list = .error fault := by
          rintro ⟨fault, refused⟩
          obtain ⟨_, digits, lists, found, _⟩ := installCommand_ok ordered
          cases (Json.elementsIfPresent_arr list).symm.trans lists
          rw [filterLine, found] at refused
          cases refused
        have installs := isInstallScript_of_order ordered
        rw [or_iff_right accepted, installed_status_iff _ closing
          (executed_plain executed fun entry held => plain entry (within entry held)), only]
        refine and_congr_right fun _ => ⟨?_, ?_⟩
        · rintro ⟨given, rfl, succeeded, overflows⟩
          refine ⟨⟨asset.hostname.text, command, .ok given⟩, ?_,
            .installation given installs rfl succeeded overflows⟩
          rw [executed.executions_of_ok]
          exact List.mem_cons_of_mem _ List.mem_cons_self
        · rintro ⟨change, member, overflowed⟩
          obtain ⟨given, answered⟩ := overflowed.answered
          rcases List.mem_cons.mp member with rfl | member
          · exact absurd overflowed.isChange (observing_not_change (rebootCheck_observes .windows))
          rcases executed.executions_eq with dispatched | ⟨nothing, _⟩
          · rw [dispatched, List.mem_singleton] at member
            subst member
            exact ⟨given, answered, (installation_overflowed_iff installs answered).mp overflowed⟩
          · rw [nothing] at member
            cases member

theorem past_of_unhindered (tells : InstallationTold service name body history outcome)
    (free : Unhindered service name (fun asset => requireWindows asset = .ok ()) .windows history)
    (lists : ListsUpdates body list) : PastGuard .windows history := by
  obtain ⟨asset, endpoint, found, windows, unprotected, reached⟩ := free.admitted
  obtain ⟨members, reads, held⟩ := lists
  obtain ⟨entries, asked⟩ : ∃ entries, requested "kb_numbers" body = .ok entries := by
    rw [requested, bind_of_ok reads, listed?, held]
    cases list with
    | nil => exact ⟨none, rfl⟩
    | cons head tail => exact ⟨some (head :: tail), rfl⟩
  unfold InstallationTold at tells
  rw [installationOrder_of_admitted found windows unprotected, asked] at tells
  cases tells with
  | changed _ result visited =>
      rw [reached] at visited
      cases visited with
      | unconnected fault closed => cases free.succeeded _ List.mem_cons_self
      | worked work result closed told =>
          obtain ⟨works, _⟩ := succeeded_visit_iff.mp free.succeeded
          have clear := free.clear
          rw [executions_visit] at clear
          rw [PastGuard, executions_visit]
          cases told with
          | unchecked _ fault checked =>
              obtain ⟨reply, answered⟩ := checked.answered works
              cases answered
          | refused _ reply fault checked refusal =>
              rw [checked.executions_of_ok] at clear
              rw [cleared_of_pending (clear _ List.mem_cons_self rfl reply rfl)] at refusal
              cases refusal
          | unordered _ reply failure checked cleared _ =>
              rw [checked.executions_of_ok]
              exact ⟨_, List.mem_cons_self, rfl, reply, rfl, pending_of_cleared cleared⟩
          | changed earlier later reply command answer checked cleared _ _ =>
              rw [executions_append, checked.executions_of_ok]
              exact ⟨_, List.mem_cons_self, rfl, reply, rfl, pending_of_cleared cleared⟩

end Status

variable {σ : Type}

/-- An action runs exactly for the lists that make a filter line, except that it stops before
anything is executed when a list is mixed. Past the guard, a request to install what a list names is
answered 400 exactly for the lists that make no line, except that closing may fail instead and that
the result of the action may be taken for a fault of the request. -/
theorem accepted_filters_run (host : Transport σ) (hostName : String) (action : Action)
    (service : Service σ) (request : Request) (name : String) (now : σ) (list : List Json) :
    Run.Logs (fun state => state.2.1) (act (host.recorded hostName) action (.arr list))
      (fun exchanges outcome =>
        (FollowsFilter hostName action list exchanges outcome ↔ ¬ Mixed list) ∧
        (Mixed list → exchanges = [] ∧ outcome = .error .wrongType)) ∧
    ((∀ name, (service.hosts name).FailsPlainly) →
      request.route = .serve (.installation name) true → ListsUpdates request.body list →
      PastGuard .windows (service.history request now) →
        ((service.response request now).status = 400 ↔
          ClosesWell (service.history request now) ∧ ((∃ fault, filterLine list = .error fault) ∨
            ∃ change ∈ (service.history request now).executions, Overflowed change))) := by
  refine ⟨act_follows_iff host hostName action list, fun plain led lists past => ?_⟩
  obtain ⟨outcome, told, answered⟩ := told_of_serve service led nofun
    (records_installUpdates service name request.body) now
  rw [answered]
  exact installation_status_iff
    (history_steps service (fun name => keeps_plainly (plain name)) request now) told lists past

theorem past_of_served {σ : Type} {service : Service σ} {request : Request} {name : String}
    {now : σ} {list : List Json} (led : request.route = .serve (.installation name) true)
    (lists : ListsUpdates request.body list)
    (free : Unhindered service name (fun asset => requireWindows asset = .ok ()) .windows
      (service.history request now)) : PastGuard .windows (service.history request now) := by
  obtain ⟨outcome, told, _⟩ := told_of_serve service led nofun
    (records_installUpdates service name request.body) now
  exact past_of_unhindered told free lists

theorem answered_history {replies : String → Reply} {service : Service Unit} (request : Request)
    (now : Unit) (hosts : service.hosts = fun _ => answering replies) :
    (∀ entry ∈ service.history request now, entry.2.succeeded = true) ∧
      (∀ execution ∈ (service.history request now).executions,
        execution.outcome = .ok (replies execution.command)) ∧
      ClosesWell (service.history request now) := by
  have answered := history_steps (P := Answered replies) service
    (fun name => by rw [hosts]; exact keeps_answered replies name) request now
  refine ⟨fun entry member => (answered entry member).1, fun execution member => ?_,
    fun closed member => ?_⟩
  · obtain ⟨entry, entered, executed⟩ := List.mem_filterMap.mp member
    exact (answered entry entered).2 execution executed
  · obtain ⟨⟨host, exchange⟩, entered, closing⟩ := List.mem_filterMap.mp member
    cases exchange with
    | close given =>
        cases closing
        cases closed with
        | ok _ => rfl
        | error fault => cases (answered _ entered).1
    | connect _ | execute _ _ => cases closing

def clean : Reply := ⟨some "\x7b\x7d", some "", some 0⟩

theorem clean_pending : Ecosystem.pendingOf .windows clean = .ok false := by
  have read : (Ecosystem.pendingOf .windows clean).toOption = some false := by decide +kernel
  cases found : Ecosystem.pendingOf .windows clean with
  | ok pending =>
      rw [found] at read
      exact congrArg Except.ok (Option.some.inj read)
  | error fault =>
      rw [found] at read
      cases read

def soleWindows : Service Unit where
  inventory := .ok {
    credentials := .obj [("login", .obj [])]
    assets := [{
      hostname := .str "dc"
      ip := .str "10.0.0.1"
      os := .str "windows"
      osVersion := .null
      role := .null
      credentialRef := .str "login"
      tags := []
      deepFreeze := false
      docker := false
      packageManager := .null }] }
  resolver := ⟨[], .upTo 100⟩
  hosts _ := answering fun _ => clean
  now := ""

/-- A request to install whose body is `{"kb_numbers":["x"]}`. -/
def namelessFilter : Request where
  method := "POST"
  target := ⟨"/api/assets/dc/updates/install", []⟩
  body := [123, 34, 107, 98, 95, 110, 117, 109, 98, 101, 114, 115, 34, 58, 91, 34, 120, 34, 93, 125]

def soleText? : Json → Option String
  | .arr [.str text] => some text
  | _ => none

theorem eq_of_soleText {value : Json} {text : String} (sole : soleText? value = some text) :
    value = .arr [.str text] := by
  unfold soleText? at sole
  split at sole
  · rw [Option.some.inj sole]
  · cases sole

theorem namelessFilter_lists : ListsUpdates namelessFilter.body [.str "x"] := by
  have read : (bodyMembers namelessFilter.body).toOption.bind (fun members =>
      soleText? (Json.memberOrNull "kb_numbers" members)) = some "x" := by
    decide +kernel
  cases found : bodyMembers namelessFilter.body with
  | ok members =>
      rw [found] at read
      exact ⟨members, found, eq_of_soleText read⟩
  | error failure =>
      rw [found] at read
      cases read

theorem nameless_refused : ∃ fault, filterLine [.str "x"] = .error fault := by
  have unnamed : KbId.normalize? (.str "x") = none := by decide +kernel
  rcases filterDigits_cases [.str "x"] with ⟨named, _⟩ | ⟨_, cause, failed⟩
  · exact absurd unnamed (named _ List.mem_cons_self)
  · exact ⟨_, by rw [filterLine, failed]; rfl⟩

theorem soleWindows_unhindered (request : Request) :
    Unhindered soleWindows "dc" (fun asset => requireWindows asset = .ok ()) .windows
        (soleWindows.history request ()) ∧
      ClosesWell (soleWindows.history request ()) := by
  obtain ⟨succeeded, replied, well⟩ :=
    answered_history request () (rfl : soleWindows.hosts = fun _ => answering fun _ => clean)
  refine ⟨⟨⟨_, _, rfl, rfl, rfl, rfl⟩, succeeded, ?_⟩, well⟩
  intro execution member _ reply given
  cases (replied execution member).symm.trans given
  exact clean_pending

/-- A list that names no update is refused past the guard. -/
theorem nameless_filter_refused :
    (∀ name, (soleWindows.hosts name).FailsPlainly) ∧
      namelessFilter.route = .serve (.installation "dc") true ∧
      ListsUpdates namelessFilter.body [.str "x"] ∧
      PastGuard .windows (soleWindows.history namelessFilter ()) ∧
      (soleWindows.response namelessFilter ()).status = 400 := by
  have plain : ∀ name, (soleWindows.hosts name).FailsPlainly := fun _ => answering_plain _
  have led : namelessFilter.route = .serve (.installation "dc") true := by decide +kernel
  obtain ⟨free, well⟩ := soleWindows_unhindered namelessFilter
  have past := past_of_served led namelessFilter_lists free
  exact ⟨plain, led, namelessFilter_lists, past,
    ((accepted_filters_run (soleWindows.hosts "dc") "dc" .install soleWindows namelessFilter "dc" ()
      [.str "x"]).2 plain led namelessFilter_lists past).mpr ⟨well, .inl nameless_refused⟩⟩

/-- A number is accepted as an identifier, but it is no text. -/
theorem number_stops_action :
    filterLine [.int 5073379] = .ok "$KBFilter = @('5073379')" ∧
    ¬ Run.Logs (fun state => state.2.1)
      (act ((answering fun _ => .silent).recorded "dc01") .install (.arr [.int 5073379]))
      (FollowsFilter "dc01" .install [.int 5073379]) := by
  have lined : filterLine [.int 5073379] = .ok "$KBFilter = @('5073379')" := by rfl
  refine ⟨lined, fun logs => ?_⟩
  have mixed : Mixed [.int 5073379] := ⟨⟨_, lined⟩, _, List.mem_cons_self, nofun⟩
  obtain ⟨exchanges, appended, follows⟩ := logs (none, [], ())
  obtain ⟨others, again, _, stopped⟩ :=
    act_follows_iff (answering fun _ => .silent) "dc01" .install [.int 5073379] (none, [], ())
  cases List.append_cancel_left (appended.symm.trans again)
  obtain ⟨_, _, _, executed, _⟩ := follows.accepted _ lined
  rw [(stopped mixed).1] at executed
  cases executed

end Web

end FleetPatch
