import FleetPatch.Proofs.Readings

/-!
# Listings that queries keep

What a query keeps of a listing is what the last listing that succeeded gave. A listing is
executed for a reading that asks for it anew or that nothing is kept for, and only such a
reading changes what is kept of it.
-/

namespace FleetPatch

set_option autoImplicit false

variable {σ κ : Type}

def Execution.listed? (ecosystem : Ecosystem) (listing : Listing) (execution : Execution) :
    Option Contents :=
  match ecosystem.reader? listing with
  | some (command, parse) =>
      if execution.command = command then (execution.outcome.bind parse).toOption else none
  | none => none

def lastListed? (ecosystem : Ecosystem) (listing : Listing) (executions : List Execution) :
    Option Contents :=
  (executions.filterMap (Execution.listed? ecosystem listing)).getLast?

theorem lastListed?_append (ecosystem : Ecosystem) (listing : Listing)
    (earlier later : List Execution) :
    lastListed? ecosystem listing (earlier ++ later) =
      (lastListed? ecosystem listing later).or (lastListed? ecosystem listing earlier) := by
  rw [lastListed?, List.filterMap_append, List.getLast?_append]
  rfl

/-- What was listed once stays listed, if not with the same contents. -/
theorem lastListed?_lasts {ecosystem : Ecosystem} {listing : Listing} {earlier : List Execution}
    (listed : lastListed? ecosystem listing earlier ≠ none) (later : List Execution) :
    lastListed? ecosystem listing (earlier ++ later) ≠ none := by
  rw [lastListed?_append]
  cases lastListed? ecosystem listing later with
  | none => exact listed
  | some contents => exact nofun

theorem Ecosystem.commands_differ {ecosystem : Ecosystem} {listing other : Listing}
    {command otherCommand : String} {parse otherParse : Reply → Except Fault Contents}
    (reader : ecosystem.reader? listing = some (command, parse))
    (otherReader : ecosystem.reader? other = some (otherCommand, otherParse))
    (differ : other ≠ listing) : otherCommand ≠ command := by
  cases ecosystem with
  | windows =>
      cases listing <;> cases other
      · exact absurd rfl differ
      · cases otherReader
      · cases reader
      · cases reader
  | packages manager =>
      cases listing <;> cases other <;> cases reader <;> cases otherReader
      · exact absurd rfl differ
      · cases manager <;> decide
      · cases manager <;> decide
      · exact absurd rfl differ

section Asked

variable {ecosystem : Ecosystem} {listing : Listing} {command name : String}
  {parse : Reply → Except Fault Contents} {exchanges : History}

theorem Asked.mem_executions {outcome : Except Fault Contents}
    (asked : Asked name command parse exchanges outcome) :
    ∀ execution ∈ exchanges.executions, execution.command = command := by
  cases asked with
  | answered _ answer executed =>
      rcases executed.executions_eq with dispatched | ⟨nothing, _⟩
      · rw [dispatched]
        exact List.forall_mem_singleton.mpr rfl
      · rw [nothing]
        exact List.forall_mem_nil _

theorem Asked.ne_nil {outcome : Except Fault Contents}
    (asked : Asked name command parse exchanges outcome) : exchanges ≠ [] := by
  cases asked with
  | answered _ answer executed => cases executed <;> exact List.cons_ne_nil _ _

variable (reader : ecosystem.reader? listing = some (command, parse))

include reader

theorem Execution.listed?_of_reader (name : String) (outcome : Except Fault Reply) :
    Execution.listed? ecosystem listing ⟨name, command, outcome⟩ =
      (outcome.bind parse).toOption := by
  simp only [Execution.listed?, reader, if_true]

theorem lastListed?_of_found {contents : Contents}
    (asked : Asked name command parse exchanges (.ok contents)) :
    lastListed? ecosystem listing exchanges.executions = some contents := by
  obtain ⟨reply, executed, parsed⟩ := asked.of_ok
  have given : ((Except.ok reply : Except Fault Reply).bind parse).toOption = some contents := by
    rw [show (Except.ok reply : Except Fault Reply).bind parse = parse reply from rfl, parsed]
    rfl
  rw [executed.executions_of_ok, lastListed?, List.filterMap_cons,
    Execution.listed?_of_reader reader, given]
  rfl

theorem lastListed?_of_failed {fault : Fault}
    (asked : Asked name command parse exchanges (.error fault)) :
    lastListed? ecosystem listing exchanges.executions = none := by
  generalize failed : (Except.error fault : Except Fault Contents) = outcome at asked
  cases asked with
  | answered _ answer executed =>
      have given : (answer.bind parse).toOption = none := by
        rw [← failed]
        rfl
      rcases executed.executions_eq with dispatched | ⟨nothing, _⟩
      · rw [dispatched, lastListed?, List.filterMap_cons, Execution.listed?_of_reader reader, given]
        rfl
      · rw [nothing]
        rfl

theorem lastListed?_of_other {outcome : Except Fault Contents} {other : Listing}
    (asked : Asked name command parse exchanges outcome) (differ : other ≠ listing) :
    lastListed? ecosystem other exchanges.executions = none := by
  have unlisted : exchanges.executions.filterMap (Execution.listed? ecosystem other) = [] := by
    apply List.filterMap_eq_nil_iff.mpr
    intro execution member
    unfold Execution.listed?
    split
    next otherCommand otherParse otherReader =>
        rw [asked.mem_executions execution member]
        exact if_neg (ecosystem.commands_differ reader otherReader differ).symm
    next => rfl
  rw [lastListed?, unlisted]
  rfl

end Asked

/-- A query of an ecosystem that keeps what was listed last. -/
structure Agent.Current (ecosystem : Ecosystem) (past : List Execution) (agent : Agent) : Prop where
  query : agent.isQuery = true
  own : agent.ecosystem = ecosystem
  kept : ∀ listing, agent.kept listing = lastListed? ecosystem listing past

theorem Agent.current_query (ecosystem : Ecosystem) : Current ecosystem [] (query ecosystem) := by
  cases ecosystem with
  | windows => exact ⟨rfl, rfl, fun listing => by cases listing <;> rfl⟩
  | packages manager => exact ⟨rfl, rfl, fun listing => by cases listing <;> rfl⟩

structure Agent.Kept (listing : Listing) (contents : Contents) (agent after : Agent) : Prop where
  query : after.isQuery = agent.isQuery
  own : after.ecosystem = agent.ecosystem
  kept : after.kept listing = some contents
  others : ∀ other, other ≠ listing → after.kept other = agent.kept other

theorem Agent.kept_keep {agent : Agent} (query : agent.isQuery = true) {listing : Listing}
    {command : String} {parse : Reply → Except Fault Contents} {reply : Reply} {contents : Contents}
    (reader : agent.ecosystem.reader? listing = some (command, parse))
    (parsed : parse reply = .ok contents) :
    Kept listing contents agent (keep listing contents agent) := by
  cases agent with
  | updateQuery cache =>
      cases listing with
      | upgradable => cases reader
      | installed =>
          obtain rfl := (Prod.mk.inj (Option.some.inj reader)).2
          obtain ⟨updates, _, rfl⟩ := map_eq_ok.mp parsed
          exact ⟨rfl, rfl, rfl, fun other differ => by cases other <;> trivial⟩
  | packageQuery manager cache =>
      cases listing with
      | installed =>
          cases reader
          obtain ⟨packages, _, rfl⟩ := map_eq_ok.mp parsed
          exact ⟨rfl, rfl, rfl, fun other differ => by cases other <;> trivial⟩
      | upgradable =>
          cases reader
          obtain ⟨packages, _, rfl⟩ := map_eq_ok.mp parsed
          exact ⟨rfl, rfl, rfl, fun other differ => by cases other <;> trivial⟩
  | updateExecutor cache => cases query
  | packageExecutor manager => cases query

structure Retrieval where
  listing : Listing
  refresh : Bool
  before : Agent
  exchanges : History
  outcome : Except Fault Contents
  after : Agent

namespace Retrieval

def wanted (retrieval : Retrieval) : Listing × Bool := (retrieval.listing, retrieval.refresh)

def executions (retrieval : Retrieval) : List Execution := retrieval.exchanges.executions

/-- What a retrieval is like after some executions for the same query: the host is asked exactly if
the listing is wanted anew or was never listed, and then for this listing alone; what is given was
listed last; a failure changes nothing, and nothing changes what is kept of another listing. -/
structure Lawful (ecosystem : Ecosystem) (name : String) (past : List Execution)
    (retrieval : Retrieval) : Prop where
  sought : retrieval.exchanges ≠ [] ↔
    retrieval.refresh = true ∨ lastListed? ecosystem retrieval.listing past = none
  asked : retrieval.exchanges ≠ [] →
    ∃ command parse, ecosystem.reader? retrieval.listing = some (command, parse) ∧
      Asked name command parse retrieval.exchanges retrieval.outcome
  given : ∀ contents, retrieval.outcome = .ok contents →
    lastListed? ecosystem retrieval.listing (past ++ retrieval.executions) = some contents
  failed : ∀ fault, retrieval.outcome = .error fault → retrieval.after = retrieval.before
  others : ∀ other, other ≠ retrieval.listing →
    retrieval.after.kept other = retrieval.before.kept other ∧
      ∀ command parse, ecosystem.reader? other = some (command, parse) →
        ∀ execution ∈ retrieval.executions, execution.command ≠ command
  before_kept : ∀ listing, retrieval.before.kept listing = lastListed? ecosystem listing past
  after_kept : ∀ listing,
    retrieval.after.kept listing = lastListed? ecosystem listing (past ++ retrieval.executions)

end Retrieval

section Step

variable {ecosystem : Ecosystem} {past : List Execution} {agent : Agent} {listing : Listing}
  {name : String} (current : agent.Current ecosystem past)

include current

theorem served_lawful {contents : Contents} (held : agent.kept listing = some contents) :
    Retrieval.Lawful ecosystem name past ⟨listing, false, agent, [], .ok contents, agent⟩ where
  sought := by
    rw [← current.kept, held]
    exact iff_of_false (fun asked => asked rfl) (by simp)
  asked := fun asked => absurd rfl asked
  given := by
    rintro _ ⟨⟩
    rw [← held, current.kept, show Retrieval.executions _ = [] from rfl, List.append_nil]
  failed := nofun
  others := fun other _ => ⟨rfl, fun _ _ _ => List.forall_mem_nil _⟩
  before_kept := current.kept
  after_kept := fun other => by
    rw [show Retrieval.executions _ = [] from rfl, List.append_nil]
    exact current.kept other

variable {command : String} {parse : Reply → Except Fault Contents} {exchanges : History}
  (reader : ecosystem.reader? listing = some (command, parse))

include reader

theorem current_of_found {contents : Contents}
    (asked : Asked name command parse exchanges (.ok contents)) :
    (Agent.keep listing contents agent).Current ecosystem (past ++ exchanges.executions) := by
  obtain ⟨reply, _, parsed⟩ := asked.of_ok
  have kept := Agent.kept_keep current.query (current.own ▸ reader) parsed
  refine ⟨kept.query.trans current.query, kept.own.trans current.own, fun other => ?_⟩
  rw [lastListed?_append]
  by_cases same : other = listing
  · rw [same, kept.kept, lastListed?_of_found reader asked]
    rfl
  · rw [kept.others other same, lastListed?_of_other reader asked same, current.kept]
    rfl

theorem current_of_failed {fault : Fault}
    (asked : Asked name command parse exchanges (.error fault)) :
    agent.Current ecosystem (past ++ exchanges.executions) := by
  refine ⟨current.query, current.own, fun other => ?_⟩
  rw [lastListed?_append, current.kept]
  by_cases same : other = listing
  · rw [same, lastListed?_of_failed reader asked]
    rfl
  · rw [lastListed?_of_other reader asked same]
    rfl

theorem asked_lawful {refresh : Bool} {outcome : Except Fault Contents} {after : Agent}
    (missing : refresh = true ∨ agent.kept listing = none)
    (asked : Asked name command parse exchanges outcome)
    (left : after.Current ecosystem (past ++ exchanges.executions))
    (failed : ∀ fault, outcome = .error fault → after = agent) :
    Retrieval.Lawful ecosystem name past ⟨listing, refresh, agent, exchanges, outcome, after⟩ where
  sought := by
    rw [current.kept] at missing
    exact iff_of_true asked.ne_nil missing
  asked := fun _ => ⟨command, parse, reader, asked⟩
  given := by
    rintro contents rfl
    rw [lastListed?_append, show Retrieval.executions _ = exchanges.executions from rfl,
      lastListed?_of_found reader asked]
    rfl
  failed := failed
  others := fun other differ => by
    refine ⟨?_, fun otherCommand otherParse otherReader execution member => ?_⟩
    · rw [left.kept, current.kept, lastListed?_append, lastListed?_of_other reader asked differ]
      rfl
    · rw [asked.mem_executions execution member]
      exact (ecosystem.commands_differ reader otherReader differ).symm
  before_kept := current.kept
  after_kept := left.kept

variable (name)

/-- A query that keeps what was listed last retrieves a listing lawfully, and keeps what is listed
last then. -/
theorem read_lawful (host : Transport σ) (refresh : Bool) (history : History) (now : σ) :
    ∃ (retrieval : Retrieval) (later : σ), retrieval.wanted = (listing, refresh) ∧
      Agent.read (host.recorded name) listing refresh (agent, (history, now)) =
        (retrieval.outcome, (retrieval.after, (history ++ retrieval.exchanges, later))) ∧
      retrieval.Lawful ecosystem name past ∧
      retrieval.after.Current ecosystem (past ++ retrieval.executions) := by
  have own : agent.ecosystem.reader? listing = some (command, parse) := current.own ▸ reader
  by_cases missing : refresh = true ∨ agent.kept listing = none
  · obtain ⟨exchanges, appended, asked⟩ := records_ask name host command parse (history, now)
    rcases stepped : (host.recorded name).ask command parse (history, now) with
      ⟨outcome, longer, later⟩
    rw [stepped] at appended asked
    obtain rfl : longer = history ++ exchanges := appended
    cases outcome with
    | ok contents =>
        have left := current_of_found current reader asked
        exact ⟨⟨listing, refresh, agent, exchanges, .ok contents, _⟩, later, rfl,
          Agent.read_of_found own missing stepped,
          asked_lawful current reader missing asked left nofun, left⟩
    | error fault =>
        have left := current_of_failed current reader asked
        exact ⟨⟨listing, refresh, agent, exchanges, .error fault, agent⟩, later, rfl,
          Agent.read_of_failed own missing stepped,
          asked_lawful current reader missing asked left fun _ _ => rfl, left⟩
  · obtain ⟨fresh, unkept⟩ := not_or.mp missing
    obtain rfl : refresh = false := Bool.eq_false_iff.mpr fresh
    obtain ⟨contents, held⟩ := Option.ne_none_iff_exists'.mp unkept
    refine ⟨⟨listing, false, agent, [], .ok contents, agent⟩, now, rfl, ?_,
      served_lawful current held, ?_⟩
    · rw [Agent.read_of_kept own held, List.append_nil]
    · rw [show Retrieval.executions _ = [] from rfl, List.append_nil]
      exact current

end Step

end FleetPatch
