import FleetPatch.Proofs.Outputs
import FleetPatch.Proofs.Readings

/-!
# Failures that scripts report

A script that catches a failure writes a record with a member for its message. The message
makes the operation end with a command's fault if it counts as present; an empty one is
overlooked, and the record is read as if it were the result.
-/

namespace FleetPatch

set_option autoImplicit false

open Windows

variable {σ α : Type}

namespace Windows

/-- The output is a record with a message about an error. -/
def Caught (stdout : Option String) (message : Json) : Prop :=
  ∃ members, document stdout = .ok (.obj members) ∧ Json.member? "Error" members = some message

section Caught

variable {stdout : Option String} {message : Json} (caught : Caught stdout message)

include caught

theorem Caught.loaded_tells_iff (operation : String) {next : Json → Except Fault α}
    (untold : ∀ members, NeverTells (next (.obj members))) :
    Tells (loadOutput operation stdout >>= next) ↔ message.isPresent = true := by
  obtain ⟨members, written, found⟩ := caught
  have report : Json.memberOrNull "Error" members = message := by
    rw [Json.memberOrNull, show members.lookup "Error" = some message from found]
    rfl
  cases present : message.isPresent with
  | true =>
      rw [loadOutput_of_reported operation written (report ▸ present)]
      exact iff_of_true ⟨_, rfl⟩ rfl
  | false =>
      have shows : Shows stdout (.obj members) := .value written (by
        rw [reportsError, report, present])
      rw [bind_of_ok (loadOutput_of_shown operation shows)]
      exact iff_of_false (untold members).not_tells Bool.false_ne_true

theorem Caught.installedUpdates_tells_iff :
    Tells (InstalledUpdate.parse stdout) ↔ message.isPresent = true :=
  caught.loaded_tells_iff _ fun _ => .bind (neverTells_entries _) fun _ => .ok _

theorem Caught.availableUpdates_tells_iff :
    Tells (AvailableUpdate.parse stdout) ↔ message.isPresent = true :=
  caught.loaded_tells_iff _ fun _ =>
    .bind (neverTells_entries _) fun _ => .mapM AvailableUpdate.neverTells_ofEntry _

theorem Caught.installation_tells_iff (operation : String) :
    Tells (Installation.parse operation stdout) ↔ message.isPresent = true := by
  refine caught.loaded_tells_iff operation fun report => ?_
  refine .bind (neverTells_entries _) fun _ => ?_
  refine .bind (.mapM UpdateOutcome.neverTells_ofEntry _) fun _ => ?_
  refine .bind (Json.neverTells_toInteger _) fun _ => ?_
  exact .bind (Json.neverTells_toInteger _) fun _ => .ok _

end Caught

end Windows

namespace Reply

/-- The reply to a listing is read if the command succeeded or came with an error text. -/
theorem tells_listed_iff {reply : Reply} {next : Except Fault α} :
    Tells (reply.requireErrors >>= fun _ => next) ↔
      (reply.succeeded = true ∨ reply.stderr.isSome = true) ∧ Tells next := by
  unfold requireErrors errors
  cases reply.succeeded with
  | true => exact ⟨fun told => ⟨.inl rfl, told⟩, And.right⟩
  | false =>
      cases reply.stderr with
      | none => exact iff_of_false nofun (fun ⟨read, _⟩ => nomatch read)
      | some text => exact ⟨fun told => ⟨.inr rfl, told⟩, And.right⟩

/-- The reply to anything else is read if the command succeeded; a failed command is told itself. -/
theorem tells_required_iff {reply : Reply} {label operation : String} {next : Except Fault α} :
    Tells (reply.requireSuccess label operation >>= fun _ => next) ↔
      if reply.succeeded = true then Tells next else reply.stderr.isSome = true := by
  unfold requireSuccess errors
  cases reply.succeeded with
  | true => exact Iff.rfl
  | false =>
      cases reply.stderr with
      | none => exact iff_of_false nofun nofun
      | some text => exact iff_of_true ⟨_, rfl⟩ rfl

end Reply

/-- The operation ends with a command's fault in this state. -/
def Surfaces {τ : Type} (performed : Except Fault α × τ) (state : τ) : Prop :=
  ∃ cause, performed = (.error (.command cause), state)

theorem surfaces_error_iff {τ β : Type} {fault : Fault} {state : τ} :
    Surfaces ((.error fault, state) : Except Fault α × τ) state ↔
      Tells (.error fault : Except Fault β) := by
  constructor
  · rintro ⟨cause, same⟩
    cases same
    exact ⟨cause, rfl⟩
  · rintro ⟨cause, same⟩
    cases same
    exact ⟨cause, rfl⟩

theorem not_surfaces_ok {τ : Type} (value : α) (state other : τ) :
    ¬ Surfaces ((.ok value, state) : Except Fault α × τ) other := nofun

theorem not_tells_ok (value : α) : ¬ Tells (.ok value : Except Fault α) := nofun

namespace Agent

variable {host : Transport σ} {now after : σ} {reply : Reply}

theorem ask_of_answered {command : String}
    (answered : host.execute command now = (.ok reply, after)) (parse : Reply → Except Fault α) :
    host.ask command parse now = (parse reply, after) := by
  rw [Transport.ask, Run.bind_apply_ok answered, Run.lift_apply]

theorem not_surfaces_tell (request : Request) (state other : Agent × σ) :
    ¬ Surfaces (tell request state) other := by
  obtain ⟨agent, now⟩ := state
  rintro ⟨cause, told⟩
  simp only [tell] at told
  split at told <;> cases told

theorem query_surfaces_iff {cache : UpdateQuery.Cache} {request : Request} {refresh : Bool}
    (reads : request.reads .windows = some [(.installed, refresh)])
    (missing : refresh = true ∨ cache = none)
    (answered : host.execute installedUpdatesScript now = (.ok reply, after)) :
    Surfaces (perform host request (.updateQuery cache, now)) (.updateQuery cache, after) ↔
      Tells (UpdateQuery.installedOf reply) := by
  have unkept : refresh = true ∨ (updateQuery cache).kept .installed = none := by
    rcases missing with again | rfl
    · exact .inl again
    · exact .inr rfl
  have asked := ask_of_answered answered fun reply =>
    (UpdateQuery.installedOf reply).map Contents.updates
  have performed : perform host request (.updateQuery cache, now) =
      (readAll host [(.installed, refresh)] >>= fun _ => tell request)
        (.updateQuery cache, now) := by
    rw [perform_query rfl, answering]
    simp only [ecosystem, reads]
  rw [performed]
  cases listed : UpdateQuery.installedOf reply with
  | error fault =>
      rw [listed] at asked
      have failed : readAll host [(.installed, refresh)] (.updateQuery cache, now) =
          (.error fault, (.updateQuery cache, after)) :=
        Run.bind_apply_error (read_of_failed rfl unkept asked)
      rw [Run.bind_apply_error failed]
      exact surfaces_error_iff
  | ok updates =>
      rw [listed] at asked
      have found : readAll host [(.installed, refresh)] (.updateQuery cache, now) =
          (.ok (), (.updateQuery (some updates), after)) :=
        Run.bind_apply_ok (read_of_found rfl unkept asked)
      rw [Run.bind_apply_ok found]
      exact iff_of_false (not_surfaces_tell _ _ _) (not_tells_ok updates)

theorem search_surfaces_iff {cache : UpdateExecutor.Cache} {refresh : Bool}
    (missing : refresh = true ∨ cache = none)
    (answered : host.execute searchScript now = (.ok reply, after)) :
    Surfaces (perform host (.available refresh) (.updateExecutor cache, now))
        (.updateExecutor cache, after) ↔ Tells (UpdateExecutor.found reply) := by
  rw [perform_available, UpdateExecutor.available_of_missing host missing, UpdateExecutor.search,
    ask_of_answered answered]
  cases UpdateExecutor.found reply with
  | error fault => exact surfaces_error_iff
  | ok updates => exact iff_of_false (not_surfaces_ok _ _ _) (not_tells_ok updates)

theorem action_surfaces_iff {cache : UpdateExecutor.Cache} {action : Action} {kbIds : Json}
    {script : String} (scripted : UpdateExecutor.actionScript action kbIds = .ok script)
    (answered : host.execute script now = (.ok reply, after)) :
    Surfaces (perform host (.act action kbIds) (.updateExecutor cache, now))
        (.updateExecutor cache, after) ↔ Tells (UpdateExecutor.resultOf action reply) := by
  rw [perform_act, UpdateExecutor.act_of_script host scripted, ask_of_answered answered]
  cases UpdateExecutor.resultOf action reply with
  | error fault => exact surfaces_error_iff
  | ok result => exact iff_of_false (not_surfaces_ok _ _ _) (not_tells_ok result)

end Agent

/-- The requests for which an agent executes a script and reads its output: a query that lists
updates, and an executor that searches or acts. -/
inductive Feeds : Agent → Request → String → Prop
  | listing {cache : UpdateQuery.Cache} {request : Request} {refresh : Bool}
      (reads : request.reads .windows = some [(.installed, refresh)])
      (missing : refresh = true ∨ cache = none) :
      Feeds (.updateQuery cache) request installedUpdatesScript
  | search {cache : UpdateExecutor.Cache} {refresh : Bool}
      (missing : refresh = true ∨ cache = none) :
      Feeds (.updateExecutor cache) (.available refresh) searchScript
  | action {cache : UpdateExecutor.Cache} {action : Action} {kbIds : Json} {script : String}
      (scripted : UpdateExecutor.actionScript action kbIds = .ok script) :
      Feeds (.updateExecutor cache) (.act action kbIds) script

/-- A failure that a script caught surfaces, and leaves what the agent keeps, exactly if there is a
message that is not empty and the output is read. Where an executor does not read it, because the
command failed, it is the failed command that surfaces. -/
theorem caught_failure_surfaces_iff {host : Transport σ} {agent : Agent} {request : Request}
    {command : String} {now after : σ} {reply : Reply} {message : Json}
    (feeds : Feeds agent request command)
    (answered : host.execute command now = (.ok reply, after))
    (caught : Caught reply.stdout message) :
    Surfaces (Agent.perform host request (agent, now)) (agent, after) ↔
      if agent.isQuery = true then
        (reply.succeeded = true ∨ reply.stderr.isSome = true) ∧ message.isPresent = true
      else if reply.succeeded = true then message.isPresent = true
      else reply.stderr.isSome = true := by
  cases feeds with
  | listing reads missing =>
      rw [Agent.query_surfaces_iff reads missing answered, UpdateQuery.installedOf,
        Reply.tells_listed_iff, caught.installedUpdates_tells_iff]
      exact Iff.rfl
  | search missing =>
      rw [Agent.search_surfaces_iff missing answered, UpdateExecutor.found,
        Reply.tells_required_iff, caught.availableUpdates_tells_iff]
      exact Iff.rfl
  | action scripted =>
      rw [Agent.action_surfaces_iff scripted answered, UpdateExecutor.resultOf,
        Reply.tells_required_iff, caught.installation_tells_iff]
      exact Iff.rfl

def answeringWith (stdout : String) : Transport Unit where
  connected _ := true
  connect := pure ()
  dispatch _ := pure ⟨some stdout, some "", some 0⟩
  close := pure ()

theorem execute_answeringWith (stdout command : String) :
    (answeringWith stdout).execute command () = (.ok ⟨some stdout, some "", some 0⟩, ()) := rfl

/-- A query that lists updates anew although it keeps some. -/
theorem message_surfaces :
    Surfaces (Agent.perform (answeringWith "\x7b\"Error\": \"0x8024402C\"\x7d")
      (.installedUpdates true)
      (.updateQuery (some []), ())) (.updateQuery (some []), ()) := by
  have written : document (some "\x7b\"Error\": \"0x8024402C\"\x7d") =
      .ok (.obj [("Error", .str "0x8024402C")]) := by
    simp only [document_eq, String.reduceToList]
    rfl
  have caught : Caught (some "\x7b\"Error\": \"0x8024402C\"\x7d") (.str "0x8024402C") :=
    ⟨[("Error", .str "0x8024402C")], written, rfl⟩
  have feeds : Feeds (.updateQuery (some [])) (.installedUpdates true) installedUpdatesScript :=
    .listing rfl (.inl rfl)
  refine (caught_failure_surfaces_iff feeds (execute_answeringWith _ _) caught).mpr ?_
  exact ⟨.inl rfl, rfl⟩

theorem read_of_unreported {stdout : String}
    (shows : Shows (some stdout) (.obj [("Error", .str "")])) :
    UpdateQuery.installedOf ⟨some stdout, some "", some 0⟩ = .ok [] ∧
      UpdateExecutor.resultOf .install ⟨some stdout, some "", some 0⟩ = .ok ⟨0, false, 0, []⟩ := by
  have passed : Reply.requireErrors ⟨some stdout, some "", some 0⟩ = .ok () := rfl
  constructor
  · rw [UpdateQuery.installedOf, bind_of_ok passed, InstalledUpdate.parse,
      bind_of_ok (loadOutput_of_shown _ shows)]
    rfl
  · rw [UpdateExecutor.resultOf, bind_of_ok (required_of_succeeded rfl _ _), Installation.parse,
      bind_of_ok (loadOutput_of_shown _ shows)]
    rfl

/-- An empty message is overlooked: the listing is empty and is kept, and the installation has a
result. -/
theorem empty_message_overlooked :
    Caught (some "\x7b\"Error\": \"\"\x7d") (.str "") ∧
      Agent.perform (answeringWith "\x7b\"Error\": \"\"\x7d") (.installedUpdates true)
        (.updateQuery none, ()) = (.ok (.updates []), (.updateQuery (some []), ())) ∧
      Agent.perform (answeringWith "\x7b\"Error\": \"\"\x7d") (.act .install .null)
        (.updateExecutor (some []), ()) =
          (.ok (.installation ⟨0, false, 0, []⟩), (.updateExecutor none, ())) := by
  have written : document (some "\x7b\"Error\": \"\"\x7d") = .ok (.obj [("Error", .str "")]) := by
    simp only [document_eq, String.reduceToList]
    rfl
  obtain ⟨listed, reported⟩ := read_of_unreported (.value written (by decide))
  obtain ⟨script, scripted⟩ : ∃ script, UpdateExecutor.actionScript .install .null = .ok script :=
    ⟨_, rfl⟩
  refine ⟨⟨_, written, rfl⟩, ?_, ?_⟩
  · have asked := Agent.ask_of_answered
      (execute_answeringWith "\x7b\"Error\": \"\"\x7d" installedUpdatesScript) UpdateQuery.installedOf
    rw [listed] at asked
    simp only [Agent.perform, Agent.performUpdateQuery, Agent.keeping_apply, UpdateQuery.fetch,
      Run.cached, UpdateQuery.listing, asked]
    rfl
  · rw [Agent.perform_act, UpdateExecutor.act_of_script _ scripted,
      Agent.ask_of_answered (execute_answeringWith _ _), reported]
    rfl

end FleetPatch
