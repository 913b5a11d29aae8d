import FleetPatch.Proofs.Summaries
import FleetPatch.Proofs.Turns

/-!
# Calls on a workbench

A call asks the agent of a name for something, or compares the keys of two. What is done
for the agents of the names is told turn by turn, as recorded transports show it; the calls
are those of the workbench itself, on the transports as they are.
-/

namespace FleetPatch

set_option autoImplicit false

variable {σ : Type}

namespace Workbench

inductive Call where
  | ask (name : String) (request : Request)
  | compare (first second : String)

variable (transports : String → Transport σ)

def Call.run : Call → Run Fault (Workbench × σ) (Answer ⊕ Comparison String)
  | .ask name request => do
      let answer ← perform transports name request
      pure (.inl answer)
  | .compare first second => do
      let comparison ← Workbench.compare transports first second
      pure (.inr comparison)

def turnOf (name : String) (post : Post) (request : Request) (now : σ) : Turn × σ :=
  let (answer, (after, (exchanges, later))) :=
    Agent.perform ((transports post.host).recorded post.host) request (post.agent, ([], now))
  (⟨name, request, exchanges, answer, after⟩, later)

/-- The turns of a call. For a comparison the keys of the first agent are asked for, and if they are
given those of the second, which may be the same one. -/
def Call.turns : Call → Workbench × σ → List Turn
  | .ask name request, (bench, now) =>
      match bench.lookup name with
      | some post => [(turnOf transports name post request now).1]
      | none => []
  | .compare first second, (bench, now) =>
      match bench.lookup first, bench.lookup second with
      | some post, some _ =>
          if post.agent.isQuery then
            let (turn, later) := turnOf transports first post .names now
            match turn.answer, (put first ⟨post.host, turn.after⟩ bench).lookup second with
            | .ok _, some other => [turn, (turnOf transports second other .names later).1]
            | _, _ => [turn]
          else []
      | _, _ => []

inductive Call.Made : Call → List Turn → Except Fault (Answer ⊕ Comparison String) → Prop
  | refused (call : Call) (fault : Fault) : Made call [] (.error fault)
  | asked (turn : Turn) : Made (.ask turn.name turn.request) [turn] (turn.answer.map .inl)
  | unlisted {turn : Turn} {fault : Fault} (second : String) (names : turn.request = .names)
      (failed : turn.answer = .error fault) : Made (.compare turn.name second) [turn] (.error fault)
  | listed {turn other : Turn} {left : List String} {fault : Fault} (names : turn.request = .names)
      (given : turn.answer = .ok (.names left)) (otherNames : other.request = .names)
      (failed : other.answer = .error fault) :
      Made (.compare turn.name other.name) [turn, other] (.error fault)
  | compared {turn other : Turn} {left right : List String} (names : turn.request = .names)
      (given : turn.answer = .ok (.names left)) (otherNames : other.request = .names)
      (otherGiven : other.answer = .ok (.names right)) :
      Made (.compare turn.name other.name) [turn, other] (.ok (.inr (Comparison.ofKeys left right)))

/-- Turns one after another, each of the agent that its name stands for then. -/
inductive Turns : Workbench × σ → List Turn → Workbench × σ → Prop
  | nil (state : Workbench × σ) : Turns state [] state
  | cons {bench : Workbench} {now later : σ} {name : String} {post : Post} {request : Request}
      {turn : Turn} {rest : List Turn} {last : Workbench × σ}
      (found : bench.lookup name = some post)
      (taken : turnOf transports name post request now = (turn, later))
      (others : Turns (put name ⟨post.host, turn.after⟩ bench, later) rest last) :
      Turns (bench, now) (turn :: rest) last

variable {transports}

/-- Recording what is done for a turn changes nothing. -/
theorem perform_of_turn {name : String} {post : Post} {request : Request} {now later : σ}
    {turn : Turn}
    (taken : turnOf transports name post request now = (turn, later)) :
    turn.name = name ∧ turn.request = request ∧
      Agent.perform (transports post.host) request (post.agent, now) =
        (turn.answer, (turn.after, later)) := by
  have acts : Web.Acts (fun _ => True) (fun _ => True) post.host (transports post.host) :=
    ⟨fun _ => trivial, fun _ _ _ => trivial⟩
  obtain ⟨_, same⟩ : _ ∧ Agent.perform (transports post.host) request (post.agent, now) = _ :=
    acts.perform (fun _ _ => trivial) request [] now
  rcases performed : Agent.perform ((transports post.host).recorded post.host) request
    (post.agent, ([], now)) with ⟨answer, after, exchanges, last⟩
  rw [performed] at same
  simp only [turnOf, performed] at taken
  cases taken
  exact ⟨rfl, rfl, same⟩

theorem perform_of_lookup {bench : Workbench} {name : String} {post : Post} {request : Request}
    {now later : σ} {turn : Turn} (found : bench.lookup name = some post)
    (taken : turnOf transports name post request now = (turn, later)) :
    perform transports name request (bench, now) =
      (turn.answer, (put name ⟨post.host, turn.after⟩ bench, later)) :=
  withAgent_of_lookup found (perform_of_turn taken).2.2

theorem find_of_unknown {bench : Workbench} {name : String} (missing : bench.lookup name = none)
    (now : σ) : find name (bench, now) = (.error .unknownName, (bench, now)) := by
  simp only [find, missing]

end Workbench

theorem Agent.names_of_ok {host : Transport σ} {agent : Agent} {now : σ} {answer : Answer}
    {last : Agent × σ} (given : Agent.perform host .names (agent, now) = (.ok answer, last)) :
    ∃ names, answer = .names names := by
  cases agent with
  | updateQuery cache =>
      have kept := congrArg Prod.fst given
      rw [show Agent.perform host .names (.updateQuery cache, now) =
        Agent.keeping cache .updateQuery .names (UpdateQuery.names host) (.updateQuery cache, now)
        from rfl, Agent.keeping_apply] at kept
      obtain ⟨names, _, same⟩ := map_eq_ok.mp kept
      exact ⟨names, same⟩
  | packageQuery manager cache =>
      have kept := congrArg Prod.fst given
      rw [show Agent.perform host .names (.packageQuery manager cache, now) =
        Agent.keeping cache (.packageQuery manager) .names (PackageQuery.names host manager)
          (.packageQuery manager cache, now) from rfl, Agent.keeping_apply] at kept
      obtain ⟨names, _, same⟩ := map_eq_ok.mp kept
      exact ⟨names, same⟩
  | updateExecutor cache => cases given
  | packageExecutor manager => cases given

namespace Workbench

theorem ask_taken (transports : String → Transport σ) (name : String) (request : Request)
    (state : Workbench × σ) :
    Turns transports state (Call.turns transports (.ask name request) state)
        (Call.run transports (.ask name request) state).2 ∧
      Call.Made (.ask name request) (Call.turns transports (.ask name request) state)
        (Call.run transports (.ask name request) state).1 := by
  obtain ⟨bench, now⟩ := state
  cases found : bench.lookup name with
  | none =>
      have turns : Call.turns transports (.ask name request) (bench, now) = [] := by
        simp only [Call.turns, found]
      have refused : Call.run transports (.ask name request) (bench, now) =
          (.error .unknownName, (bench, now)) :=
        Run.bind_apply_error (Run.bind_apply_error (find_of_unknown found now))
      rw [turns, refused]
      exact ⟨.nil _, .refused _ _⟩
  | some post =>
      rcases taken : turnOf transports name post request now with ⟨turn, later⟩
      obtain ⟨rfl, rfl, _⟩ := perform_of_turn taken
      have turns : Call.turns transports (.ask turn.name turn.request) (bench, now) = [turn] := by
        simp only [Call.turns, found, taken]
      have performed := perform_of_lookup found taken
      have came : Call.run transports (.ask turn.name turn.request) (bench, now) =
          (turn.answer.map .inl, (put turn.name ⟨post.host, turn.after⟩ bench, later)) := by
        cases given : turn.answer with
        | error fault =>
            rw [given] at performed
            exact Run.bind_apply_error performed
        | ok answer =>
            rw [given] at performed
            exact Run.bind_apply_ok performed
      rw [turns, came]
      exact ⟨.cons found taken (.nil _), .asked turn⟩

theorem keys_taken {transports : String → Transport σ} {bench : Workbench} {name : String}
    {post : Post}
    {now later : σ} {turn : Turn} (found : bench.lookup name = some post)
    (taken : turnOf transports name post .names now = (turn, later)) :
    (∃ fault, turn.answer = .error fault ∧ withAgent transports name Agent.keys (bench, now) =
        (.error fault, (put name ⟨post.host, turn.after⟩ bench, later))) ∨
      ∃ names, turn.answer = .ok (.names names) ∧
        withAgent transports name Agent.keys (bench, now) =
        (.ok names, (put name ⟨post.host, turn.after⟩ bench, later)) := by
  obtain ⟨_, _, performed⟩ := perform_of_turn taken
  cases given : turn.answer with
  | error fault =>
      rw [given] at performed
      have failed : Agent.keys (transports post.host) (post.agent, now) =
          (.error fault, (turn.after, later)) := Run.bind_apply_error performed
      exact .inl ⟨fault, rfl, withAgent_of_lookup found failed⟩
  | ok answer =>
      rw [given] at performed
      obtain ⟨names, rfl⟩ := Agent.names_of_ok performed
      have listed : Agent.keys (transports post.host) (post.agent, now) =
          (.ok names, (turn.after, later)) := Run.bind_apply_ok performed
      exact .inr ⟨names, rfl, withAgent_of_lookup found listed⟩

section Compare

variable (transports : String → Transport σ) {bench : Workbench} {first second : String}
    {post : Post}

theorem compare_of_query (found : bench.lookup first = some post)
    (query : post.agent.isQuery = true)
    {other : Post} (otherFound : bench.lookup second = some other) (now : σ) :
    compare transports first second (bench, now) =
      Comparison.ofRuns (withAgent transports first Agent.keys)
        (withAgent transports second Agent.keys) (bench, now) := by
  refine (Run.bind_apply_ok (find_of_lookup found now)).trans ?_
  rw [query, if_pos rfl]
  exact Run.bind_apply_ok (find_of_lookup otherFound now)

theorem compare_refused (unfit : ∀ post other, bench.lookup first = some post →
      bench.lookup second = some other → post.agent.isQuery = false) (now : σ) :
    Call.turns transports (.compare first second) (bench, now) = [] ∧
      ∃ fault, compare transports first second (bench, now) = (.error fault, (bench, now)) := by
  cases found : bench.lookup first with
  | none =>
      have turns : Call.turns transports (.compare first second) (bench, now) = [] := by
        simp only [Call.turns, found]
      exact ⟨turns, _, Run.bind_apply_error (find_of_unknown found now)⟩
  | some post =>
      cases otherFound : bench.lookup second with
      | none =>
          have turns : Call.turns transports (.compare first second) (bench, now) = [] := by
            simp only [Call.turns, found, otherFound]
          refine ⟨turns, ?_⟩
          cases query : post.agent.isQuery with
          | false =>
              refine ⟨.unsupportedOperation,
                (Run.bind_apply_ok (find_of_lookup found now)).trans ?_⟩
              rw [query]
              rfl
          | true =>
              refine ⟨.unknownName, (Run.bind_apply_ok (find_of_lookup found now)).trans ?_⟩
              rw [query, if_pos rfl]
              exact Run.bind_apply_error (find_of_unknown otherFound now)
      | some other =>
          have query := unfit post other found otherFound
          have turns : Call.turns transports (.compare first second) (bench, now) = [] := by
            simp only [Call.turns, found, otherFound, query]
            rfl
          refine ⟨turns, .unsupportedOperation,
            (Run.bind_apply_ok (find_of_lookup found now)).trans ?_⟩
          rw [query]
          rfl

theorem compare_taken (first second : String) (state : Workbench × σ) :
    Turns transports state (Call.turns transports (.compare first second) state)
        (Call.run transports (.compare first second) state).2 ∧
      Call.Made (.compare first second) (Call.turns transports (.compare first second) state)
        (Call.run transports (.compare first second) state).1 := by
  obtain ⟨bench, now⟩ := state
  by_cases fit : ∃ post other, bench.lookup first = some post ∧
      bench.lookup second = some other ∧ post.agent.isQuery = true
  · obtain ⟨post, other, found, otherFound, query⟩ := fit
    have compared := compare_of_query transports found query otherFound now
    rcases taken : turnOf transports first post .names now with ⟨turn, later⟩
    obtain ⟨rfl, names, _⟩ := perform_of_turn taken
    obtain ⟨next, nextFound⟩ : ∃ next,
        (put turn.name ⟨post.host, turn.after⟩ bench).lookup second = some next := by
      rw [lookup_put]
      by_cases same : second = turn.name
      · exact ⟨_, if_pos same⟩
      · exact ⟨other, (if_neg same).trans otherFound⟩
    rcases keys_taken found taken with ⟨fault, given, failed⟩ | ⟨left, given, listed⟩
    · have turns : Call.turns transports (.compare turn.name second) (bench, now) = [turn] := by
        simp only [Call.turns, found, otherFound, query, if_true, taken, given]
      have came := compared.trans (Run.bind_apply_error failed)
      rw [turns, show Call.run transports _ (bench, now) = _ from Run.bind_apply_error came]
      exact ⟨.cons found taken (.nil _), .unlisted second names given⟩
    · rcases otherTaken : turnOf transports second next .names later with ⟨otherTurn, last⟩
      obtain ⟨rfl, otherNames, _⟩ := perform_of_turn otherTaken
      have turns : Call.turns transports (.compare turn.name otherTurn.name) (bench, now) =
          [turn, otherTurn] := by
        simp only [Call.turns, found, otherFound, query, if_true, taken, given, nextFound,
          otherTaken]
      rw [turns]
      rcases keys_taken nextFound otherTaken with
        ⟨fault, otherGiven, failed⟩ | ⟨right, otherGiven, otherListed⟩
      · have came := (compared.trans (Run.bind_apply_ok listed)).trans (Run.bind_apply_error failed)
        rw [show Call.run transports _ (bench, now) = _ from Run.bind_apply_error came]
        exact ⟨.cons found taken (.cons nextFound otherTaken (.nil _)),
          .listed names given otherNames otherGiven⟩
      · have came := compare_of_listed listed otherListed
        rw [show Call.run transports _ (bench, now) = _ from Run.bind_apply_ok came]
        exact ⟨.cons found taken (.cons nextFound otherTaken (.nil _)),
          .compared names given otherNames otherGiven⟩
  · have unfit (post other : Post) (found : bench.lookup first = some post)
        (otherFound : bench.lookup second = some other) : post.agent.isQuery = false :=
      Bool.eq_false_iff.mpr fun query => fit ⟨post, other, found, otherFound, query⟩
    obtain ⟨turns, fault, refused⟩ := compare_refused transports unfit now
    have came : Call.run transports (.compare first second) (bench, now) =
        (.error fault, (bench, now)) := Run.bind_apply_error refused
    rw [turns, came]
    exact ⟨.nil _, .refused _ _⟩

end Compare

structure Account where
  call : Call
  turns : List Turn
  outcome : Except Fault (Answer ⊕ Comparison String)

def accounts (transports : String → Transport σ) : List Call → Workbench × σ → List Account
  | [], _ => []
  | call :: rest, state =>
      let (outcome, after) := call.run transports state
      ⟨call, call.turns transports state, outcome⟩ :: accounts transports rest after

def turnsFor (name : String) (told : List Account) : List Turn :=
  (told.flatMap Account.turns).filter (Turn.isOf name)

theorem call_taken (transports : String → Transport σ) (call : Call) (state : Workbench × σ) :
    Turns transports state (call.turns transports state) (call.run transports state).2 ∧
      call.Made (call.turns transports state) (call.run transports state).1 := by
  cases call with
  | ask name request => exact ask_taken transports name request state
  | compare first second => exact compare_taken transports first second state

theorem turnOf_lawful {transports : String → Transport σ} {ecosystem : Ecosystem}
    {past : List Execution} {name : String} {post : Post} {request : Request} {now later : σ}
    {turn : Turn} (current : post.agent.Current ecosystem past)
    (taken : turnOf transports name post request now = (turn, later)) :
    turn.Lawful ecosystem post.host past ∧
      turn.after.Current ecosystem (past ++ turn.executions) := by
  rcases performed : Agent.perform ((transports post.host).recorded post.host) request
    (post.agent, ([], now)) with ⟨answer, after, exchanges, last⟩
  simp only [turnOf, performed] at taken
  cases taken
  exact turn_lawful current name post.host (transports post.host) request performed

/-- A name stands for a query, on a host, that keeps what was listed last for it. -/
def Tracks (ecosystem : Ecosystem) (name host : String) (past : List Execution)
    (bench : Workbench) :
    Prop :=
  ∃ agent : Agent, bench.lookup name = some ⟨host, agent⟩ ∧ agent.Current ecosystem past

theorem Turns.lawful {transports : String → Transport σ} {ecosystem : Ecosystem}
    {name host : String}
    {state last : Workbench × σ} {list : List Turn} (turns : Turns transports state list last)
    {past : List Execution} (tracked : Tracks ecosystem name host past state.1) :
    Along (Turn.Lawful ecosystem host) Turn.executions past (list.filter (Turn.isOf name)) ∧
      Tracks ecosystem name host
        (past ++ (list.filter (Turn.isOf name)).flatMap Turn.executions) last.1 := by
  induction turns generalizing past with
  | nil state =>
      rw [List.filter_nil, List.flatMap_nil, List.append_nil]
      exact ⟨trivial, tracked⟩
  | @cons bench now later other post request turn rest last found taken others continued =>
      obtain ⟨named, _, _⟩ := perform_of_turn taken
      obtain ⟨agent, known, current⟩ := tracked
      by_cases same : other = name
      · subst same
        cases found.symm.trans known
        obtain ⟨lawful, left⟩ := turnOf_lawful current taken
        have kept : Tracks ecosystem other host (past ++ turn.executions)
            (put other ⟨host, turn.after⟩ bench) :=
          ⟨turn.after, by rw [lookup_put, if_pos rfl], left⟩
        obtain ⟨along, ended⟩ := continued kept
        have own : turn.isOf other = true := beq_iff_eq.mpr named
        rw [List.filter_cons_of_pos own, List.flatMap_cons, ← List.append_assoc]
        exact ⟨⟨lawful, along⟩, ended⟩
      · have kept : Tracks ecosystem name host past (put other ⟨post.host, turn.after⟩ bench) :=
          ⟨agent, by rw [lookup_put, if_neg (Ne.symm same), known], current⟩
        have apart : ¬ turn.isOf name = true := by
          rw [Turn.isOf, named, beq_iff_eq]
          exact same
        rw [List.filter_cons_of_neg apart]
        exact continued kept

theorem accounts_lawful {transports : String → Transport σ} {ecosystem : Ecosystem}
    {name host : String} (calls : List Call) {state : Workbench × σ} {past : List Execution}
    (tracked : Tracks ecosystem name host past state.1) :
    Along (Turn.Lawful ecosystem host) Turn.executions past
      (turnsFor name (accounts transports calls state)) := by
  induction calls generalizing state past with
  | nil => trivial
  | cons call rest continued =>
      obtain ⟨along, kept⟩ := (call_taken transports call state).1.lawful tracked
      rw [turnsFor, accounts, List.flatMap_cons, List.filter_append]
      exact along_append.mpr ⟨along, continued kept⟩

/-- In a run of calls each comes to what its turns come to, and all turns of a query that has
kept nothing at first are answered from what was last listed for it. What a summary says of
updates is the number of them, that of those that concern security, and the first and the
last of their days. -/
theorem queries_answer_from_last_listing (transports : String → Transport σ) (calls : List Call)
    (bench : Workbench) (now : σ) :
    (∀ account ∈ accounts transports calls (bench, now),
      account.call.Made account.turns account.outcome) ∧
    (∀ (name host : String) (ecosystem : Ecosystem),
      bench.lookup name = some ⟨host, Agent.query ecosystem⟩ →
        Along (Turn.Lawful ecosystem host) Turn.executions []
          (turnsFor name (accounts transports calls (bench, now)))) ∧
    ∀ updates, Windows.Sums updates (Windows.InstalledUpdate.summary updates) := by
  refine ⟨?_, fun name host ecosystem fresh => ?_, Windows.InstalledUpdate.summary_sums⟩
  · generalize (bench, now) = state
    induction calls generalizing state with
    | nil => exact List.forall_mem_nil _
    | cons call rest continued =>
        exact List.forall_mem_cons.mpr ⟨(call_taken transports call state).2, continued _⟩
  · exact accounts_lawful calls ⟨_, fresh, Agent.current_query ecosystem⟩

def quiet : Transport Unit where
  connected _ := true
  connect := pure ()
  dispatch _ := pure Reply.silent
  close := pure ()

/-- A query that is compared with itself lists its host for the first of its two turns. -/
theorem compared_with_itself :
    let told := accounts (fun _ => quiet) [.compare "q" "q"]
      ([("q", ⟨"web", .query (.packages .apt)⟩)], ())
    (turnsFor "q" told).map Turn.exchanges =
        [[("web", .execute (Manager.installedCommand .apt) (.ok Reply.silent))], []] ∧
      Along (Turn.Lawful (.packages .apt) "web") Turn.executions [] (turnsFor "q" told) :=
  ⟨rfl, (queries_answer_from_last_listing _ _ _ _).2.1 "q" "web" _ rfl⟩

end Workbench

end FleetPatch
