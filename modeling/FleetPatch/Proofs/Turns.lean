import FleetPatch.Proofs.Listings
import FleetPatch.Proofs.Sending

/-!
# Runs of queries

In a run of calls on a workbench each call is made of turns: one request to one agent, or
two where two agents are compared. The turns of a query, whatever happens between them, are
answered from what was listed last for it.
-/

namespace FleetPatch

set_option autoImplicit false

variable {σ κ : Type}

/-- A law that holds of each item of a list after the executions of the items before it. -/
def Along (law : List Execution → κ → Prop) (executions : κ → List Execution) :
    List Execution → List κ → Prop
  | _, [] => True
  | past, item :: rest => law past item ∧ Along law executions (past ++ executions item) rest

theorem along_append {law : List Execution → κ → Prop} {executions : κ → List Execution}
    {past : List Execution} {earlier later : List κ} :
    Along law executions past (earlier ++ later) ↔
      Along law executions past earlier ∧
        Along law executions (past ++ earlier.flatMap executions) later := by
  induction earlier generalizing past with
  | nil => simp [Along]
  | cons item rest continued =>
      simp only [List.cons_append, Along, continued, and_assoc, List.flatMap_cons,
        List.append_assoc]

/-- Wanted retrievals, one after another up to the first that fails, and how they end. -/
inductive Retrieval.Follow : List (Listing × Bool) → List Retrieval → Except Fault Unit → Prop
  | done : Follow [] [] (.ok ())
  | failed {retrieval : Retrieval} {fault : Fault} (rest : List (Listing × Bool))
      (failed : retrieval.outcome = .error fault) :
      Follow (retrieval.wanted :: rest) [retrieval] (.error fault)
  | given {retrieval : Retrieval} {contents : Contents} {wanted : List (Listing × Bool)}
      {retrievals : List Retrieval} {ending : Except Fault Unit}
      (given : retrieval.outcome = .ok contents) (rest : Follow wanted retrievals ending) :
      Follow (retrieval.wanted :: wanted) (retrieval :: retrievals) ending

theorem Request.reads_supported {ecosystem : Ecosystem} {request : Request}
    {wanted : List (Listing × Bool)} (reads : request.reads ecosystem = some wanted) :
    ∀ pair ∈ wanted, ∃ reader, ecosystem.reader? pair.1 = some reader := by
  cases ecosystem with
  | windows => cases request <;> cases reads <;> exact List.forall_mem_singleton.mpr ⟨_, rfl⟩
  | packages manager =>
      cases request with
      | summary =>
          cases reads
          exact List.forall_mem_cons.mpr ⟨⟨_, rfl⟩, List.forall_mem_singleton.mpr ⟨_, rfl⟩⟩
      | _ => cases reads <;> exact List.forall_mem_singleton.mpr ⟨_, rfl⟩

theorem retrievals_executions (retrievals : List Retrieval) :
    History.executions (retrievals.flatMap (·.exchanges)) =
      retrievals.flatMap Retrieval.executions := by
  induction retrievals with
  | nil => rfl
  | cons retrieval rest continued =>
      rw [List.flatMap_cons, executions_append, continued, List.flatMap_cons]
      rfl

section Query

variable {ecosystem : Ecosystem} {name : String}

theorem readAll_lawful (name : String) (host : Transport σ) {wanted : List (Listing × Bool)}
    (supported : ∀ pair ∈ wanted, ∃ reader, ecosystem.reader? pair.1 = some reader)
    {past : List Execution} {agent : Agent} (current : agent.Current ecosystem past)
    (history : History) (now : σ) :
    ∃ (retrievals : List Retrieval) (ending : Except Fault Unit) (after : Agent) (later : σ),
      Agent.readAll (host.recorded name) wanted (agent, (history, now)) =
        (ending, (after, (history ++ retrievals.flatMap (·.exchanges), later))) ∧
      Retrieval.Follow wanted retrievals ending ∧
      Along (Retrieval.Lawful ecosystem name) Retrieval.executions past retrievals ∧
      after.Current ecosystem (past ++ retrievals.flatMap Retrieval.executions) := by
  induction wanted generalizing past agent history now with
  | nil =>
      refine ⟨[], .ok (), agent, now, ?_, .done, trivial, ?_⟩
      · rw [List.flatMap_nil, List.append_nil]
        rfl
      · rw [List.flatMap_nil, List.append_nil]
        exact current
  | cons pair rest continued =>
      obtain ⟨listing, refresh⟩ := pair
      obtain ⟨⟨⟨command, parse⟩, reader⟩, others⟩ := List.forall_mem_cons.mp supported
      obtain ⟨retrieval, later, asked, stepped, lawful, left⟩ :=
        read_lawful name current reader host refresh history now
      obtain ⟨rfl, rfl⟩ := Prod.mk.inj asked
      cases came : retrieval.outcome with
      | error fault =>
          rw [came] at stepped
          refine ⟨[retrieval], .error fault, retrieval.after, later, ?_, .failed rest came,
            ⟨lawful, trivial⟩, ?_⟩
          · rw [List.flatMap_singleton]
            exact Run.bind_apply_error stepped
          · rw [List.flatMap_singleton]
            exact left
      | ok contents =>
          rw [came] at stepped
          obtain ⟨retrievals, ending, after, last, went, follow, along, kept⟩ :=
            continued others left (history ++ retrieval.exchanges) later
          refine ⟨retrieval :: retrievals, ending, after, last, ?_, .given came follow,
            ⟨lawful, along⟩, ?_⟩
          · rw [List.flatMap_cons, ← List.append_assoc]
            exact (Run.bind_apply_ok stepped).trans went
          · rw [List.flatMap_cons, ← List.append_assoc]
            exact kept

/-- Where all that is wanted was retrieved, it was listed. -/
theorem listed_of_follow {wanted : List (Listing × Bool)} {retrievals : List Retrieval}
    {past : List Execution} (follow : Retrieval.Follow wanted retrievals (.ok ()))
    (along : Along (Retrieval.Lawful ecosystem name) Retrieval.executions past retrievals) :
    ∀ pair ∈ wanted, lastListed? ecosystem pair.1
      (past ++ retrievals.flatMap Retrieval.executions) ≠ none := by
  generalize ended : (Except.ok () : Except Fault Unit) = ending at follow
  induction follow generalizing past with
  | done => exact List.forall_mem_nil _
  | failed rest failed => cases ended
  | given given rest continued =>
      obtain ⟨lawful, along⟩ := along
      intro pair member
      rw [List.flatMap_cons, ← List.append_assoc]
      rcases List.mem_cons.mp member with rfl | member
      · have listed := lawful.given _ given
        exact lastListed?_lasts (listed ▸ nofun) _
      · exact continued along ended pair member

end Query

theorem answer_of_kept {agent : Agent} (query : agent.isQuery = true) {request : Request}
    {wanted : List (Listing × Bool)} (reads : request.reads agent.ecosystem = some wanted)
    (held : ∀ pair ∈ wanted, agent.kept pair.1 ≠ none) :
    ∃ answer, request.answer? agent.ecosystem agent.kept = some answer := by
  cases agent with
  | updateQuery cache =>
      cases cache with
      | none =>
          exfalso
          cases request <;> cases reads <;> exact held _ (List.mem_singleton_self _) rfl
      | some updates => cases request <;> cases reads <;> exact ⟨_, rfl⟩
  | packageQuery manager cache =>
      obtain ⟨installed, upgradable⟩ := cache
      cases request with
      | summary =>
          cases reads
          cases installed with
          | none => exact absurd rfl (held (.installed, false) (by simp))
          | some packages =>
              cases upgradable with
              | none => exact absurd rfl (held (.upgradable, false) (by simp))
              | some candidates => exact ⟨_, rfl⟩
      | upgradable refresh =>
          cases reads
          cases upgradable with
          | none => exact absurd rfl (held _ (List.mem_singleton_self _))
          | some candidates => exact ⟨_, rfl⟩
      | _ =>
          cases reads <;> cases installed with
          | none => exact absurd rfl (held _ (List.mem_singleton_self _))
          | some packages => exact ⟨_, rfl⟩
  | updateExecutor cache => cases query
  | packageExecutor manager => cases query

/-- One request to the agent of a name, with what is done for it on the transport and how the agent
is left. -/
structure Turn where
  name : String
  request : Request
  exchanges : History
  answer : Except Fault Answer
  after : Agent

namespace Turn

def executions (turn : Turn) : List Execution := turn.exchanges.executions

def isOf (name : String) (turn : Turn) : Bool := turn.name == name

/-- The retrievals of a turn are those that the request wants, and none if it is not supported. The
turn fails exactly as the first of them that does. -/
def Makes (ecosystem : Ecosystem) (turn : Turn) (retrievals : List Retrieval) : Prop :=
  (turn.request.reads ecosystem = none ∧ retrievals = [] ∧
      turn.answer = .error .unsupportedOperation) ∨
    ∃ wanted, turn.request.reads ecosystem = some wanted ∧
      Retrieval.Follow wanted retrievals (turn.answer.map fun _ => ())

/-- What a turn of a query is like after some executions for it: it is made of lawful retrievals,
and its answer is made from what was listed last, which is also what is kept. -/
structure Lawful (ecosystem : Ecosystem) (host : String) (past : List Execution) (turn : Turn) :
    Prop where
  made : ∃ retrievals, turn.exchanges = retrievals.flatMap (·.exchanges) ∧
    turn.Makes ecosystem retrievals ∧
      Along (Retrieval.Lawful ecosystem host) Retrieval.executions past retrievals
  given : ∀ answer, turn.answer = .ok answer →
    turn.request.answer? ecosystem
      (fun listing => lastListed? ecosystem listing (past ++ turn.executions)) = some answer
  kept : ∀ listing, turn.after.kept listing =
    lastListed? ecosystem listing (past ++ turn.executions)

end Turn

theorem turn_lawful {ecosystem : Ecosystem} {past : List Execution} {agent : Agent}
    (current : agent.Current ecosystem past) (name host : String) (transport : Transport σ)
    (request : Request) {now later : σ} {answer : Except Fault Answer} {after : Agent}
    {exchanges : History}
    (performed : Agent.perform (transport.recorded host) request (agent, ([], now)) =
      (answer, (after, (exchanges, later)))) :
    Turn.Lawful ecosystem host past ⟨name, request, exchanges, answer, after⟩ ∧
      after.Current ecosystem (past ++ exchanges.executions) := by
  rw [Agent.perform_query current.query, Agent.answering] at performed
  simp only [current.own] at performed
  cases reads : request.reads ecosystem with
  | none =>
      rw [reads] at performed
      cases performed
      have nothing : past ++ History.executions [] = past := List.append_nil past
      have kept : agent.Current ecosystem (past ++ History.executions []) := nothing.symm ▸ current
      exact ⟨⟨⟨[], rfl, .inl ⟨reads, rfl, rfl⟩, trivial⟩, nofun, kept.kept⟩, kept⟩
  | some wanted =>
      rw [reads] at performed
      obtain ⟨retrievals, ending, middle, last, read, follow, along, kept⟩ :=
        readAll_lawful host transport (Request.reads_supported reads) current [] now
      rw [List.nil_append] at read
      rw [← retrievals_executions] at kept
      cases ending with
      | error fault =>
          cases (Run.bind_apply_error read).symm.trans performed
          exact ⟨⟨⟨retrievals, rfl, .inr ⟨wanted, reads, follow⟩, along⟩, nofun, kept.kept⟩, kept⟩
      | ok done =>
          have held : ∀ pair ∈ wanted, middle.kept pair.1 ≠ none := by
            intro pair member
            rw [kept.kept, retrievals_executions]
            exact listed_of_follow follow along pair member
          obtain ⟨answer, told⟩ := answer_of_kept kept.query (kept.own.symm ▸ reads) held
          have whole := (Run.bind_apply_ok read).symm.trans performed
          simp only [Agent.tell, told] at whole
          cases whole
          refine ⟨⟨⟨retrievals, rfl, .inr ⟨wanted, reads, follow⟩, along⟩, ?_, kept.kept⟩, kept⟩
          rintro _ ⟨⟩
          rw [kept.own, funext kept.kept] at told
          exact told

end FleetPatch
