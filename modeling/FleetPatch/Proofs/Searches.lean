import FleetPatch.Agent
import FleetPatch.Proofs.Steps

/-!
# Search results that are kept

An executor gives the list that its last search found until an action has reported
its result. An action that is handed over and then fails leaves the list, which is
given again although the host may have changed.
-/

namespace FleetPatch

set_option autoImplicit false

open Windows Run

variable {σ α : Type}

def Execution.found? (execution : Execution) : Option (List AvailableUpdate) :=
  if execution.command = searchScript then (execution.outcome.bind UpdateExecutor.found).toOption
  else none

theorem Execution.found?_of_search {command : String} (search : command = searchScript)
    (name : String) (outcome : Except Fault Reply) :
    Execution.found? ⟨name, command, outcome⟩ = (outcome.bind UpdateExecutor.found).toOption :=
  if_pos search

/-- What is asked of an agent, what is done for it on the transport, and the answer. -/
structure Deed where
  request : Request
  exchanges : History
  answer : Except Fault Answer

namespace Deed

def found? (deed : Deed) : Option (List AvailableUpdate) :=
  match deed.request with
  | .available _ => (History.executions deed.exchanges).findSome? Execution.found?
  | _ => none

theorem found?_available (refresh : Bool) (exchanges : History) (answer : Except Fault Answer) :
    found? ⟨.available refresh, exchanges, answer⟩ =
      exchanges.executions.findSome? Execution.found? := rfl

def Handed (deed : Deed) : Prop :=
  (∃ action kbIds, deed.request = .act action kbIds) ∧ deed.exchanges ≠ []

def reported (deed : Deed) : Bool :=
  match deed.answer with
  | .ok (.installation _) => true
  | _ => false

def Idle (deed : Deed) : Prop := deed.found? = none ∧ deed.reported = false

def leaves (deed : Deed) (kept : UpdateExecutor.Cache) : UpdateExecutor.Cache :=
  match deed.found? with
  | some list => some list
  | none => if deed.reported then none else kept

theorem leaves_of_found {deed : Deed} {list : List AvailableUpdate}
    (found : deed.found? = some list)
    (kept : UpdateExecutor.Cache) : deed.leaves kept = some list := by
  simp only [leaves, found]

theorem Idle.leaves {deed : Deed} (idle : deed.Idle) (kept : UpdateExecutor.Cache) :
    deed.leaves kept = kept := by
  simp only [Deed.leaves, idle.1, idle.2, Bool.false_eq_true, if_false]

theorem leaves_eq_some {deed : Deed} {kept : UpdateExecutor.Cache} {list : List AvailableUpdate} :
    deed.leaves kept = some list ↔ deed.found? = some list ∨ kept = some list ∧ deed.Idle := by
  cases found : deed.found? with
  | some other => simp only [leaves, Idle, found, reduceCtorEq, false_and, and_false, or_false]
  | none => cases told : deed.reported <;> simp [leaves, Idle, found, told]

/-- What deeds one after another leave of the list that was kept before them. -/
def remains (deeds : List Deed) (kept : UpdateExecutor.Cache) : UpdateExecutor.Cache :=
  deeds.foldl (fun kept deed => deed.leaves kept) kept

theorem remains_append (earlier later : List Deed) (kept : UpdateExecutor.Cache) :
    remains (earlier ++ later) kept = remains later (remains earlier kept) :=
  List.foldl_append

/-- Whether a list is the one that a search gave and that nothing has replaced or dropped since. -/
def Lasts (list : List AvailableUpdate) (deeds : List Deed) : Prop :=
  ∃ before search between, deeds = before ++ search :: between ∧
    search.found? = some list ∧ ∀ deed ∈ between, deed.Idle

theorem lasts_cons {list : List AvailableUpdate} {deed : Deed} {rest : List Deed} :
    Lasts list (deed :: rest) ↔
      Lasts list rest ∨ deed.found? = some list ∧ ∀ other ∈ rest, other.Idle := by
  constructor
  · rintro ⟨before, search, between, split, found, idle⟩
    cases before with
    | nil =>
        obtain ⟨rfl, rfl⟩ := List.cons.inj split
        exact .inr ⟨found, idle⟩
    | cons former before =>
        exact .inl ⟨before, search, between, (List.cons.inj split).2, found, idle⟩
  · rintro (⟨before, search, between, rfl, found, idle⟩ | ⟨found, idle⟩)
    · exact ⟨deed :: before, search, between, rfl, found, idle⟩
    · exact ⟨[], deed, rest, rfl, found, idle⟩

theorem remains_eq_some {deeds : List Deed} {kept : UpdateExecutor.Cache}
    {list : List AvailableUpdate} :
    remains deeds kept = some list ↔
      Lasts list deeds ∨ kept = some list ∧ ∀ deed ∈ deeds, deed.Idle := by
  induction deeds generalizing kept with
  | nil => simp [remains, Lasts]
  | cons deed rest continued =>
      change remains rest (deed.leaves kept) = some list ↔ _
      rw [continued, leaves_eq_some, lasts_cons, List.forall_mem_cons, or_and_right, and_assoc,
        or_assoc]

end Deed

namespace Agent

def deeds (name : String) (host : Transport σ) : List Request → Agent × σ → List Deed
  | [], _ => []
  | request :: rest, (agent, now) =>
      let (answer, (after, (exchanges, later))) :=
        perform (host.recorded name) request (agent, ([], now))
      ⟨request, exchanges, answer⟩ :: deeds name host rest (after, later)

theorem keeping_apply {κ : Type} (cache : κ) (rebuild : κ → Agent) (answer : α → Answer)
    (run : Run Fault (κ × σ) α) (agent : Agent) (now : σ) :
    keeping cache rebuild answer run (agent, now) =
      ((run (cache, now)).1.map answer,
        (rebuild (run (cache, now)).2.1, (run (cache, now)).2.2)) := by
  rcases stepped : run (cache, now) with ⟨outcome, after, rest⟩
  cases outcome <;> simp only [keeping, stepped] <;> rfl

theorem plainly_apply (answer : α → Answer) (run : Run Fault σ α) (agent : Agent) (now : σ) :
    plainly answer run (agent, now) = ((run now).1.map answer, (agent, (run now).2)) := by
  rcases stepped : run now with ⟨outcome, after⟩
  have second : Run.second run (agent, now) = (outcome, (agent, after)) := by
    simp only [Run.second, stepped]
  cases outcome with
  | error fault => exact Run.bind_apply_error second
  | ok value => exact Run.bind_apply_ok second

theorem perform_available (host : Transport σ) (refresh : Bool) (cache : UpdateExecutor.Cache)
    (now : σ) :
    perform host (.available refresh) (.updateExecutor cache, now) =
      ((UpdateExecutor.available host refresh (cache, now)).1.map .available,
        (.updateExecutor (UpdateExecutor.available host refresh (cache, now)).2.1,
          (UpdateExecutor.available host refresh (cache, now)).2.2)) :=
  keeping_apply cache .updateExecutor .available _ (.updateExecutor cache) now

theorem perform_act (host : Transport σ) (action : Action) (kbIds : Json)
    (cache : UpdateExecutor.Cache) (now : σ) :
    perform host (.act action kbIds) (.updateExecutor cache, now) =
      ((UpdateExecutor.act host action kbIds (cache, now)).1.map .installation,
        (.updateExecutor (UpdateExecutor.act host action kbIds (cache, now)).2.1,
          (UpdateExecutor.act host action kbIds (cache, now)).2.2)) :=
  keeping_apply cache .updateExecutor .installation _ (.updateExecutor cache) now

def answers (host : Transport σ) : List Request → Agent × σ → List (Except Fault Answer)
  | [], _ => []
  | request :: rest, now =>
      let (answer, after) := perform host request now
      answer :: answers host rest after

end Agent

namespace UpdateExecutor

theorem available_of_kept (host : Transport σ) {kept : List AvailableUpdate} (now : σ) :
    available host false (some kept, now) = (.ok kept, (some kept, now)) := by
  have held : (if false then none else id (some kept)) = some kept := rfl
  simp only [available, cached, held]

/-- What is not kept or asked for anew is searched, and kept if it is found. -/
theorem available_of_missing (host : Transport σ) {refresh : Bool} {cache : Cache}
    (missing : refresh = true ∨ cache = none) (now : σ) :
    available host refresh (cache, now) =
      ((search host now).1, ((search host now).1.toOption.or cache, (search host now).2)) := by
  have absent : (if refresh then none else id cache) = none := by
    rcases missing with rfl | rfl
    · rfl
    · exact ite_self none
  rcases searched : search host now with ⟨outcome, after⟩
  cases outcome <;> simp only [available, cached, absent, searched] <;> rfl

theorem act_of_unscripted (host : Transport σ) {action : Action} {kbIds : Json} {fault : Fault}
    (unscripted : actionScript action kbIds = .error fault) (cache : Cache) (now : σ) :
    act host action kbIds (cache, now) = (.error fault, (cache, now)) := by
  rw [act, unscripted]
  rfl

/-- An action drops what is kept only if it reports its result. -/
theorem act_of_script (host : Transport σ) {action : Action} {kbIds : Json} {script : String}
    (scripted : actionScript action kbIds = .ok script) (cache : Cache) (now : σ) :
    act host action kbIds (cache, now) =
      ((host.ask script (resultOf action) now).1,
        (if (host.ask script (resultOf action) now).1.toOption.isSome then none else cache,
          (host.ask script (resultOf action) now).2)) := by
  rcases asked : host.ask script (resultOf action) now with ⟨outcome, after⟩
  have second : Run.second (host.ask script (resultOf action)) (cache, now) =
      (outcome, (cache, after)) := by
    simp only [Run.second, asked]
  rw [act, scripted]
  cases outcome with
  | error fault => exact (Run.bind_apply_error second).trans rfl
  | ok result => exact (Run.bind_apply_ok second).trans rfl

end UpdateExecutor

theorem found_of_asked {name : String} {exchanges : History}
    {outcome : Except Fault (List AvailableUpdate)} {answer : Except Fault Answer} {refresh : Bool}
    (asked : Asked name searchScript UpdateExecutor.found exchanges outcome) :
    Deed.found? ⟨.available refresh, exchanges, answer⟩ = outcome.toOption := by
  cases asked with
  | answered _ reply executed =>
      rw [Deed.found?_available]
      rcases executed.executions_eq with dispatched | ⟨nothing, fault, rfl⟩
      · rw [dispatched, List.findSome?_cons, Execution.found?_of_search rfl]
        cases (reply.bind UpdateExecutor.found).toOption <;> rfl
      · rw [nothing, List.findSome?_nil]
        rfl

/-- What a deed of an executor is like: it leaves a list as the deed does, and it is answered with
the list that was found, or, if no other one is asked for, with the list that was kept. -/
structure Deed.Keeps (cache : UpdateExecutor.Cache) (after : Agent) (deed : Deed) : Prop where
  left : after = .updateExecutor (deed.leaves cache)
  given : ∀ list, deed.answer = .ok (.available list) ↔
    deed.found? = some list ∨ deed.request = .available false ∧ cache = some list
  unsought : ∀ list, deed.request = .available false → cache = some list → deed.found? = none

theorem keeps_served (kept : List AvailableUpdate) :
    Deed.Keeps (some kept) (.updateExecutor (some kept))
      ⟨.available false, [], .ok (.available kept)⟩ := by
  refine ⟨rfl, fun list => ⟨fun given => ?_, ?_⟩, fun _ _ _ => rfl⟩
  · cases given
    exact .inr ⟨rfl, rfl⟩
  · rintro (found | ⟨_, same⟩)
    · cases found
    · cases same
      rfl

/-- A search that cannot be spared gives its list and leaves it, or fails and
leaves what was kept. -/
theorem keeps_searched {name : String} {refresh : Bool} {cache : UpdateExecutor.Cache}
    (missing : refresh = true ∨ cache = none) {exchanges : History}
    {outcome : Except Fault (List AvailableUpdate)}
    (asked : Asked name searchScript UpdateExecutor.found exchanges outcome) :
    Deed.Keeps cache (.updateExecutor (outcome.toOption.or cache))
      ⟨.available refresh, exchanges, outcome.map .available⟩ := by
  have found : Deed.found? ⟨.available refresh, exchanges, outcome.map .available⟩ =
    outcome.toOption := found_of_asked asked
  have unserved (list : List AvailableUpdate) :
      ¬ (Request.available refresh = .available false ∧ cache = some list) := by
    rintro ⟨same, kept⟩
    rcases missing with rfl | rfl
    · cases same
    · cases kept
  cases outcome with
  | error fault =>
      refine ⟨congrArg Agent.updateExecutor (Deed.Idle.leaves ⟨found, rfl⟩ cache).symm,
        fun list => iff_of_false nofun ?_, fun _ _ _ => found⟩
      rintro (also | served)
      · cases found.symm.trans also
      · exact unserved list served
  | ok updates =>
      refine ⟨congrArg Agent.updateExecutor (Deed.leaves_of_found found cache).symm,
        fun list => ⟨fun given => ?_, ?_⟩, fun list same kept =>
          absurd ⟨same, kept⟩ (unserved list)⟩
      · cases given
        exact .inl found
      · rintro (also | served)
        · cases found.symm.trans also
          rfl
        · exact absurd served (unserved list)

theorem keeps_available (name : String) (host : Transport σ) {refresh : Bool}
    {cache : UpdateExecutor.Cache} {now later : σ} {answer : Except Fault Answer} {after : Agent}
    {exchanges : History}
    (performed : Agent.perform (host.recorded name) (.available refresh)
      (.updateExecutor cache, ([], now)) = (answer, (after, (exchanges, later)))) :
    Deed.Keeps cache after ⟨.available refresh, exchanges, answer⟩ := by
  rw [Agent.perform_available] at performed
  by_cases served : refresh = false ∧ ∃ kept, cache = some kept
  · obtain ⟨rfl, kept, rfl⟩ := served
    rw [UpdateExecutor.available_of_kept] at performed
    cases performed
    exact keeps_served kept
  · have missing : refresh = true ∨ cache = none := by
      cases refresh <;> cases cache <;> simp_all
    obtain ⟨entries, appended, asked⟩ :=
      records_ask name host searchScript UpdateExecutor.found ([], now)
    rw [UpdateExecutor.available_of_missing _ missing, UpdateExecutor.search] at performed
    rcases searched : (host.recorded name).ask searchScript UpdateExecutor.found ([], now) with
      ⟨outcome, history, last⟩
    rw [searched] at performed appended asked
    cases appended
    cases performed
    exact keeps_searched missing asked

/-- What is no request for a list gives none, and leaves the one that is kept unless an action
reports its result. -/
theorem keeps_other {deed : Deed} {cache : UpdateExecutor.Cache} {after : Agent}
    (other : ∀ refresh, deed.request ≠ .available refresh)
    (answered : ∀ list, deed.answer ≠ .ok (.available list))
    (left : after = .updateExecutor (if deed.reported then none else cache)) :
    deed.Keeps cache after := by
  have missed : deed.found? = none := by
    unfold Deed.found?
    split
    next refresh asked => exact absurd asked (other refresh)
    next => rfl
  refine ⟨by simp only [Deed.leaves, missed, left], fun list => iff_of_false (answered list) ?_,
    fun _ _ _ => missed⟩
  rintro (found | ⟨asked, _⟩)
  · cases missed.symm.trans found
  · exact other false asked

theorem keeps_act (name : String) (host : Transport σ) {action : Action} {kbIds : Json}
    {cache : UpdateExecutor.Cache} {now later : σ} {answer : Except Fault Answer} {after : Agent}
    {exchanges : History}
    (performed : Agent.perform (host.recorded name) (.act action kbIds)
      (.updateExecutor cache, ([], now)) = (answer, (after, (exchanges, later)))) :
    Deed.Keeps cache after ⟨.act action kbIds, exchanges, answer⟩ := by
  rw [Agent.perform_act] at performed
  cases scripted : UpdateExecutor.actionScript action kbIds with
  | error fault =>
      rw [UpdateExecutor.act_of_unscripted _ scripted] at performed
      cases performed
      exact keeps_other nofun nofun rfl
  | ok script =>
      rw [UpdateExecutor.act_of_script _ scripted] at performed
      rcases asked : (host.recorded name).ask script (UpdateExecutor.resultOf action) ([], now) with
        ⟨outcome, history, last⟩
      rw [asked] at performed
      cases outcome <;> cases performed <;> exact keeps_other nofun nofun rfl

theorem keeps_plainly {shown : α → Answer} {run : Run Fault (History × σ) α} {request : Request}
    {cache : UpdateExecutor.Cache} {now later : σ} {answer : Except Fault Answer} {after : Agent}
    {exchanges : History} (other : ∀ refresh, request ≠ .available refresh)
    (listless : ∀ value list, shown value ≠ .available list)
    (resultless : ∀ value result, shown value ≠ .installation result)
    (performed : Agent.plainly shown run (.updateExecutor cache, ([], now)) =
      (answer, (after, (exchanges, later)))) :
        Deed.Keeps cache after ⟨request, exchanges, answer⟩ := by
  rw [Agent.plainly_apply] at performed
  rcases stepped : run ([], now) with ⟨outcome, history, last⟩
  rw [stepped] at performed
  cases outcome with
  | error fault =>
      cases performed
      exact keeps_other other nofun rfl
  | ok value =>
      cases performed
      apply keeps_other other
      · exact fun list given => listless value list (Except.ok.inj given)
      · have unreported : Deed.reported ⟨request, exchanges, .ok (shown value)⟩ = false := by
          unfold Deed.reported
          split
          next result given => exact absurd (Except.ok.inj given) (resultless value result)
          next => rfl
        change _ = Agent.updateExecutor (if Deed.reported ⟨request, exchanges, .ok (shown value)⟩
          then none else cache)
        rw [unreported]
        rfl

/-- What is asked of an executor finds, keeps, drops and gives lists as the deed tells. -/
theorem deed_of_executor (name : String) (host : Transport σ) (request : Request)
    (cache : UpdateExecutor.Cache) (now : σ) {answer : Except Fault Answer} {after : Agent}
    {exchanges : History} {later : σ}
    (performed : Agent.perform (host.recorded name) request (.updateExecutor cache, ([], now)) =
      (answer, (after, (exchanges, later)))) :
    Deed.Keeps cache after ⟨request, exchanges, answer⟩ := by
  cases request with
  | available refresh => exact keeps_available name host performed
  | act action kbIds => exact keeps_act name host performed
  | reboot => exact keeps_plainly nofun nofun nofun performed
  | rebootRequired => exact keeps_plainly nofun nofun nofun performed
  | rebootSignals => exact keeps_plainly nofun nofun nofun performed
  | _ =>
      cases performed
      exact keeps_other nofun nofun rfl

theorem plainly_recorded {run : Run Fault (History × σ) α} {other : Run Fault σ α}
    (same : Run.Echoes Prod.snd run other) (answer : α → Answer) (agent : Agent) (history : History)
    (now : σ) :
    Agent.plainly answer other (agent, now) =
      ((Agent.plainly answer run (agent, (history, now))).1,
        Prod.map id Prod.snd (Agent.plainly answer run (agent, (history, now))).2) := by
  have shown : other now = _ := same (history, now)
  rw [Agent.plainly_apply, Agent.plainly_apply, shown]
  rfl

theorem perform_recorded (name : String) (host : Transport σ) (request : Request)
    (cache : UpdateExecutor.Cache) (history : History) (now : σ) :
    Agent.perform host request (.updateExecutor cache, now) =
      ((Agent.perform (host.recorded name) request (.updateExecutor cache, (history, now))).1,
        Prod.map id Prod.snd
          (Agent.perform (host.recorded name) request
            (.updateExecutor cache, (history, now))).2) := by
  have acts : Web.Acts (fun _ => True) (fun _ => True) name host :=
    ⟨fun _ => trivial, fun _ _ _ => trivial⟩
  have asks {β : Type} (command : String) (read : Reply → Except Fault β) :
      Web.Recounts (fun _ => True) ((host.recorded name).ask command read)
        (host.ask command read) :=
    acts.ask trivial read
  cases request with
  | available refresh =>
      have lists : Web.RecountsBeside UpdateExecutor.Cache (fun _ => True)
          (UpdateExecutor.available (host.recorded name) refresh)
          (UpdateExecutor.available host refresh) :=
        Retraces.cached (asks searchScript UpdateExecutor.found)
      have same : UpdateExecutor.available host refresh (cache, now) = _ :=
        lists.same (cache, (history, now))
      rw [Agent.perform_available, Agent.perform_available, same]
      rfl
  | act action kbIds =>
      rw [Agent.perform_act, Agent.perform_act]
      cases scripted : UpdateExecutor.actionScript action kbIds with
      | error fault =>
          rw [UpdateExecutor.act_of_unscripted _ scripted,
            UpdateExecutor.act_of_unscripted _ scripted]
          rfl
      | ok script =>
          rw [UpdateExecutor.act_of_script _ scripted, UpdateExecutor.act_of_script _ scripted,
            (asks script (UpdateExecutor.resultOf action)).same (history, now)]
          rfl
  | reboot =>
      exact plainly_recorded (acts.requestReboot trivial UpdateExecutor.label).same _ _ history now
  | rebootRequired =>
      exact plainly_recorded (asks rebootCheckScript UpdateExecutor.pendingOf).same _ _ history now
  | rebootSignals =>
      exact plainly_recorded (asks rebootCheckScript UpdateExecutor.signalsOf).same _ _ history now
  | _ => rfl

theorem answers_of_deeds (name : String) (host : Transport σ) (requests : List Request)
    (cache : UpdateExecutor.Cache) (now : σ) :
    (Agent.deeds name host requests (.updateExecutor cache, now)).map Deed.answer =
      Agent.answers host requests (.updateExecutor cache, now) := by
  induction requests generalizing cache now with
  | nil => rfl
  | cons request rest continued =>
      have same := perform_recorded name host request cache [] now
      rcases performed : Agent.perform (host.recorded name) request
        (.updateExecutor cache, ([], now)) with ⟨answer, after, exchanges, later⟩
      have keeps := deed_of_executor name host request cache now performed
      rw [performed] at same
      simp only [Agent.deeds, performed, Agent.answers, same, List.map_cons]
      rw [keeps.left]
      exact congrArg _ (continued _ later)

/-- Each deed of an executor meets the list that the deeds before it left. -/
theorem keeps_of_deeds (name : String) (host : Transport σ) {requests : List Request}
    {cache : UpdateExecutor.Cache} {now : σ} {earlier rest : List Deed} {deed : Deed}
    (run : Agent.deeds name host requests (.updateExecutor cache, now) = earlier ++ deed :: rest) :
    ∃ after, deed.Keeps (Deed.remains earlier cache) after := by
  -- The list that is kept goes through the induction: every deed leaves it to the next one.
  induction requests generalizing cache now earlier with
  | nil => cases earlier <;> cases run
  | cons request others continued =>
      rcases performed : Agent.perform (host.recorded name) request
        (.updateExecutor cache, ([], now)) with ⟨answer, after, exchanges, later⟩
      have keeps := deed_of_executor name host request cache now performed
      simp only [Agent.deeds, performed] at run
      cases earlier with
      | nil =>
          cases run
          exact ⟨after, keeps⟩
      | cons former earlier =>
          obtain ⟨rfl, remainder⟩ := List.cons.inj run
          rw [keeps.left] at remainder
          obtain ⟨last, met⟩ := continued remainder
          exact ⟨last, met⟩

/-- After an action was handed over, a list that no search found since is given exactly if it is the
last one found before the action, it is not asked for anew, and nothing since, the action included,
has found a list or reported a result. -/
theorem stale_list_given_iff (name : String) (host : Transport σ) (requests : List Request)
    (now : σ)
    {earlier later rest : List Deed} {action last : Deed} (list : List AvailableUpdate)
    (run : Agent.deeds name host requests (.updateExecutor none, now) =
      earlier ++ action :: (later ++ last :: rest))
    (handed : action.Handed) :
    (last.answer = .ok (.available list) ∧ ∀ deed ∈ later ++ [last], deed.found? ≠ some list) ↔
      last.request = .available false ∧ Deed.Lasts list earlier ∧
        ∀ deed ∈ action :: later, deed.Idle := by
  have split : earlier ++ action :: (later ++ last :: rest) =
      (earlier ++ action :: later) ++ last :: rest := by simp
  obtain ⟨after, keeps⟩ := keeps_of_deeds name host (run.trans split)
  obtain ⟨⟨kind, kbIds, asked⟩, _⟩ := handed
  have unsought : action.found? = none := by simp only [Deed.found?, asked]
  -- An action finds no list, so the one kept at the end was found after it or outlived it.
  have kept : Deed.remains (earlier ++ action :: later) none = some list ↔
      Deed.Lasts list later ∨ Deed.Lasts list earlier ∧ ∀ deed ∈ action :: later, deed.Idle := by
    rw [Deed.remains_append, Deed.remains_eq_some, Deed.remains_eq_some, Deed.lasts_cons, unsought]
    simp
  rw [keeps.given, kept]
  constructor
  · rintro ⟨given, unfound⟩
    rcases given with found | ⟨again, ⟨_, search, _, rfl, found, _⟩ | ⟨lasts, idle⟩⟩
    · exact absurd found (unfound last (by simp))
    · exact absurd found (unfound search (by simp))
    · exact ⟨again, lasts, idle⟩
  · rintro ⟨again, lasts, idle⟩
    refine ⟨.inr ⟨again, .inr ⟨lasts, idle⟩⟩, fun deed member => ?_⟩
    rcases List.mem_append.mp member with before | final
    · rw [(idle deed (List.mem_cons_of_mem _ before)).1]
      exact nofun
    · rw [List.mem_singleton.mp final, keeps.unsought list again (kept.mpr (.inr ⟨lasts, idle⟩))]
      exact nofun

/-- A host that finds no updates when it is first asked, and loses the connection ever after. -/
def losing : Transport Bool where
  connected _ := true
  connect := pure ()
  dispatch _ := fun lost =>
    (if lost then .error (.connection (.reported "lost")) else .ok Reply.silent, true)
  close := pure ()

theorem deeds_of_losing : ∃ script,
    Agent.deeds "web" losing [.available false, .act .install .null, .available false]
      (.updateExecutor none, false) =
        [⟨.available false, [("web", .execute searchScript (.ok Reply.silent))],
            .ok (.available [])⟩,
          ⟨.act .install .null,
            [("web", .execute script (.error (.connection (.reported "lost"))))],
            .error (.connection (.reported "lost"))⟩,
          ⟨.available false, [], .ok (.available [])⟩] :=
  ⟨_, rfl⟩

theorem lasts_of_losing : Deed.Lasts [] [⟨.available false,
    [("web", .execute searchScript (.ok Reply.silent))], .ok (.available [])⟩] :=
  have asked : Asked "web" searchScript UpdateExecutor.found
      [("web", .execute searchScript (.ok Reply.silent))] (.ok []) :=
    .answered _ _ (.direct (.ok Reply.silent))
  ⟨[], _, [], rfl, found_of_asked asked, List.forall_mem_nil _⟩

/-- The list from before an installation that lost the connection is given again. -/
theorem lost_installation_leaves_list : ∃ search action last,
    Agent.deeds "web" losing [.available false, .act .install .null, .available false]
      (.updateExecutor none, false) = [search, action, last] ∧
    action.Handed ∧ last.answer = .ok (.available []) ∧ last.found? ≠ some [] := by
  obtain ⟨script, run⟩ := deeds_of_losing
  have whole : Agent.deeds "web" losing _ (.updateExecutor none, false) =
      [_] ++ _ :: ([] ++ _ :: []) := run
  have handed : Deed.Handed ⟨.act .install .null,
      [("web", .execute script (.error (.connection (.reported "lost"))))],
      .error (.connection (.reported "lost"))⟩ := ⟨⟨_, _, rfl⟩, nofun⟩
  obtain ⟨given, unfound⟩ := (stale_list_given_iff "web" losing _ false [] whole handed).mpr
    ⟨rfl, lasts_of_losing, List.forall_mem_singleton.mpr ⟨rfl, rfl⟩⟩
  exact ⟨_, _, _, run, handed, given, unfound _ (List.mem_singleton_self _)⟩

/-- Not every list that is given after an action was found since. -/
theorem given_list_not_found_since :
    ¬ ∀ (earlier later rest : List Deed) (action last : Deed) (list : List AvailableUpdate),
      Agent.deeds "web" losing [.available false, .act .install .null, .available false]
          (.updateExecutor none, false) = earlier ++ action :: (later ++ last :: rest) →
        action.Handed → last.answer = .ok (.available list) →
          ¬ (Deed.Lasts list earlier ∧ ∀ deed ∈ later ++ [last], deed.found? ≠ some list) := by
  intro fresh
  obtain ⟨script, run⟩ := deeds_of_losing
  apply fresh [_] [] [] _ _ [] run ⟨⟨_, _, rfl⟩, nofun⟩ rfl
  exact ⟨lasts_of_losing, List.forall_mem_singleton.mpr nofun⟩

end FleetPatch
