import FleetPatch.Proofs.Answers

/-!
# Custody of connections

A request opens one connection, or two when it compares, and then the second one
is opened, used and closed while the first one stands. A connection that is
handed out is connected at once, so its first step is where it is opened. Every
connection is closed once, in the reverse order of opening, and rests from then on,
wherever the request stops.
-/

namespace FleetPatch

set_option autoImplicit false

/-- The connections of a history, in the order of their first steps. -/
def History.opened (history : History) : List String := (history.map Prod.fst).eraseDups

def History.closed (history : History) : List String :=
  history.filterMap fun (name, exchange) => exchange.closed?.map fun _ => name

/-- A history in which every connection is closed once, the one opened last first, and takes no step
once it is closed. -/
structure History.Settled (history : History) : Prop where
  once : ∀ entry ∈ history, history.closed.count entry.1 = 1
  reversed : history.closed = history.opened.reverse
  last : history.Pairwise fun earlier later => earlier.2.closed? ≠ none → later.1 ≠ earlier.1

/-- A step of a connection that stands, which leaves it open. -/
def Stays (around : List String) (entry : String × Exchange) : Prop :=
  entry.1 ∈ around ∧ entry.2.closed? = none

/-- Visits within visits: a visit has a connection of its own, and the connections around it may be
used but not closed. -/
inductive Nested : List String → History → Prop where
  | within (around : List String) (history : History)
      (stays : ∀ entry ∈ history, Stays around entry) :
      Nested around history
  | visit (around : List String) (name : String) (inner : History)
      (connected closed : Except Fault Unit) (fresh : name ∉ around)
      (nested : Nested (name :: around) inner) :
      Nested around ((name, .connect connected) :: inner ++ [(name, .close closed)])

theorem closed_append (first second : History) :
    History.closed (first ++ second) = first.closed ++ second.closed :=
  List.filterMap_append

theorem closed_of_stays {around : List String} {history : History}
    (stays : ∀ entry ∈ history, Stays around entry) : history.closed = [] := by
  apply List.filterMap_eq_nil_iff.mpr
  intro entry member
  simp [(stays entry member).2]

theorem closed_visit (name : String) (inner : History) (connected closed : Except Fault Unit) :
    History.closed ((name, .connect connected) :: inner ++ [(name, .close closed)]) =
      inner.closed ++ [name] :=
  closed_append inner [(name, .close closed)]

/-- What is closed within visits is what was opened there, in reverse. -/
theorem Nested.closed_eq {around : List String} {history : History}
    (nested : Nested around history) :
    history.closed = ((history.map Prod.fst).filter (· ∉ around)).eraseDups.reverse := by
  induction nested with
  | within around history stays =>
      have none : (history.map Prod.fst).filter (· ∉ around) = [] := by
        simp only [List.filter_eq_nil_iff, List.mem_map]
        intro name ⟨entry, member, same⟩
        simp [← same, (stays entry member).1]
      rw [closed_of_stays stays, none]
      rfl
  | visit around name inner connected closed fresh _ induction =>
      have opened : ((inner.map Prod.fst ++ [name]).filter (· ∉ around)).filter
          (fun other => !other == name) = (inner.map Prod.fst).filter (· ∉ name :: around) := by
        rw [List.filter_filter, List.filter_append]
        simp [not_or, Bool.beq_eq_decide_eq]
      rw [closed_visit, induction]
      simp only [List.cons_append, List.map_cons, List.map_append, List.map_nil]
      rw [List.filter_cons_of_pos (by simpa using fresh), List.eraseDups_cons, opened]
      simp

/-- What is closed within visits are no connections around them. -/
theorem Nested.not_mem_of_mem_closed {around : List String} {history : History}
    (nested : Nested around history) {name : String} (closed : name ∈ history.closed) :
    name ∉ around := by
  rw [nested.closed_eq] at closed
  simpa using (List.mem_filter.mp (List.mem_eraseDups.mp (List.mem_reverse.mp closed))).2

theorem Nested.nodup_closed {around : List String} {history : History}
    (nested : Nested around history) : history.closed.Nodup := by
  induction nested with
  | within around history stays =>
      rw [closed_of_stays stays]
      exact List.nodup_nil
  | visit around name inner connected closed fresh nested induction =>
      rw [closed_visit]
      apply List.nodup_append.mpr
      refine ⟨induction, by simp, ?_⟩
      intro other member last same
      rw [List.mem_singleton.mp same]
      intro again
      exact nested.not_mem_of_mem_closed member (again ▸ List.mem_cons_self)

theorem mem_closed {history : History} {entry : String × Exchange} (member : entry ∈ history)
    (closes : entry.2.closed? ≠ none) : entry.1 ∈ history.closed := by
  apply List.mem_filterMap.mpr
  refine ⟨entry, member, ?_⟩
  obtain ⟨outcome, closed⟩ := Option.ne_none_iff_exists'.mp closes
  simp [closed]

/-- Within visits, nothing is done on a connection that was closed. -/
theorem Nested.last {around : List String} {history : History} (nested : Nested around history) :
    history.Pairwise fun earlier later => earlier.2.closed? ≠ none → later.1 ≠ earlier.1 := by
  induction nested with
  | within around history stays =>
      apply List.pairwise_of_forall_mem_list
      intro earlier member _ _ closes
      exact absurd (stays earlier member).2 closes
  | visit around name inner connected closed fresh nested induction =>
      apply List.pairwise_append.mpr
      refine ⟨List.pairwise_cons.mpr ⟨fun _ _ closes => absurd rfl closes, induction⟩,
        List.pairwise_singleton _ _, ?_⟩
      intro earlier member later last closes same
      rw [List.mem_singleton.mp last] at same
      have inside : earlier ∈ inner :=
        (List.mem_cons.mp member).resolve_left fun first => closes (by rw [first]; rfl)
      apply nested.not_mem_of_mem_closed (mem_closed inside closes)
      simp [← same]

theorem settled_of_nested {history : History} (nested : Nested [] history) : history.Settled := by
  have reversed : history.closed = history.opened.reverse := by
    rw [nested.closed_eq, List.filter_eq_self.mpr (by simp)]
    rfl
  refine ⟨?_, reversed, nested.last⟩
  intro entry member
  rw [nested.nodup_closed.count, if_pos]
  rw [reversed, List.mem_reverse, History.opened, List.mem_eraseDups]
  exact List.mem_map_of_mem member

namespace Web

variable {σ α : Type}

/-- The service over the transports of one connection, which has a name. -/
abbrev Service.named (service : Service σ) (name : String) : Service (History × σ) :=
  service.recordedAs fun _ => name

theorem acts_stays {name : String} {around : List String} (stands : name ∈ around)
    (host : Transport σ) : Acts (Stays around) (fun _ => True) name host where
  connects _ := ⟨stands, rfl⟩
  executes _ _ _ := ⟨stands, rfl⟩

theorem nested_withTransport (service : Service σ) {name : String} {around : List String}
    (fresh : name ∉ around) (asset : Asset)
    {work : Transport (History × σ) → Step (History × σ) α} {otherWork : Transport σ → Step σ α}
    (works : Retold (Nested (name :: around))
      (work ((service.named name).hosts asset.hostname.text))
      (otherWork (service.hosts asset.hostname.text))) :
    Retold (Nested around) ((service.named name).withTransport asset work)
      (service.withTransport asset otherWork) := by
  let host := service.hosts asset.hostname.text
  apply Run.retells_planned (.within around [] (List.forall_mem_nil _))
  intro _ _
  refine ⟨(records_visit name host works.logs).mono ?_, ?_⟩
  · intro exchanges outcome visited
    cases visited with
    | unconnected fault closed =>
        exact .visit around name [] _ closed fresh (.within _ [] (List.forall_mem_nil _))
    | worked inner _ closed nested => exact .visit around name inner _ closed fresh nested
  · have connects : Run.Echoes Prod.snd (host.recorded name).connect host.connect := fun _ => rfl
    have closes : Run.Echoes Prod.snd (host.recorded name).close host.close := fun _ => rfl
    exact .ensuring (.bind (connects.mapFault _) fun _ => works.same) (closes.mapFault _)

theorem visiting_nested (service : Service σ) (name : String) :
    Visiting service (fun _ => name) (Stays [name]) (fun _ => True) (Nested []) where
  acts host := acts_stays List.mem_cons_self (service.hosts host)
  quiet := .within [] [] (List.forall_mem_nil _)
  visits asset _ _ works :=
    nested_withTransport service List.not_mem_nil asset
      (works.mono fun inner stays => .within [name] inner stays)

/-- A comparison whose second connection is opened by a service of its own. -/
def comparisonOver (outer inner : Service σ) (first second : Option String) : Step σ Json := do
  let order ← Run.lift (comparisonOrder outer first second)
  let comparison ← outer.withTransport order.first fun firstHost =>
    inner.withTransport order.second fun secondHost =>
      onHosts (compareHosts order.firstEcosystem order.secondEcosystem firstHost secondHost)
  pure (comparisonJson order.first order.second order.sort comparison)

def Service.over (service : Service σ) (hosts : String → Transport σ) : Service σ :=
  { service with hosts }

/-- Each connection of a comparison is settled within the one before it. -/
theorem nested_comparison (service : Service σ) (others : String → Transport σ)
    (first second : Option String) :
    Retold (Nested [])
      (comparisonOver (service.named "first")
        ((service.over others).named "second") first second)
      (comparisonOver service (service.over others) first second) := by
  apply Run.retells_planned (.within [] [] (List.forall_mem_nil _))
  intro order _
  apply Run.Retells.answered _ fun comparison => .ok _
  apply nested_withTransport service List.not_mem_nil order.first
  apply nested_withTransport (service.over others) (by simp) order.second
  have first :
      Acts (Stays ["second", "first"]) _ "first" (service.hosts order.first.hostname.text) :=
    acts_stays (by simp) _
  have second : Acts (Stays ["second", "first"]) _ "second" (others order.second.hostname.text) :=
    acts_stays (by simp) _
  have compares := acts_compareHosts first second (fun _ _ => trivial) order.firstEcosystem
    order.secondEcosystem
  exact (Run.Retraces.mapFault _ compares).mono fun inner stays => .within _ inner stays

namespace Service

variable (service : Service σ)

/-- The response to a request whose connections are told apart. The second one leads to a host of
its own, also where both are to one asset. -/
def respondApart (others : String → Transport σ) (request : Request) (hosts : History × σ) :
    Response × (History × σ) :=
  match Route.ofRequest request.method request.target.path with
  | .serve .comparison withBody =>
      let (outcome, after) := comparisonOver (service.named "first")
        ((service.over others).named "second")
        (request.target.value? "asset1") (request.target.value? "asset2") hosts
      let response := Response.ofOutcome outcome
      (if withBody then response else response.headOnly, after)
  | _ => respond (service.named "first") request hosts

def custody (others : String → Transport σ) (request : Request) (now : σ) : History :=
  (service.respondApart others request ([], now)).2.1

end Service

variable (service : Service σ)

theorem respondApart_of_single (others : String → Transport σ) {request : Request}
    (single : ∀ withBody, request.route ≠ .serve .comparison withBody) (hosts : History × σ) :
    service.respondApart others request hosts =
      respond (service.named "first") request hosts := by
  unfold Service.respondApart
  split
  next withBody reached => exact absurd reached (single withBody)
  next => rfl

theorem custody_nested (others : String → Transport σ) (request : Request) (now : σ) :
    Nested [] (service.custody others request now) := by
  cases led : request.route with
  | serve resource withBody =>
      by_cases one : resource = .comparison
      · subst one
        obtain ⟨entries, appended, nested⟩ := (nested_comparison service others
          (request.target.value? "asset1") (request.target.value? "asset2")).logs ([], now)
        have reached : Route.ofRequest request.method request.target.path =
          .serve .comparison withBody := led
        simp only [Service.custody, Service.respondApart, reached, appended]
        exact nested
      · have single := (visiting_nested service "first").serve (fun _ => trivial) one request
        obtain ⟨entries, appended, nested⟩ := single.logs ([], now)
        rw [Service.custody, respondApart_of_single service others (by simp [led, one]),
          respond_snd_of_serve _ led, appended]
        exact nested
  | tellMethods | moved | notAllowed | notFound =>
      rw [Service.custody, respondApart_of_single service others (by simp [led]),
        respond_snd_of_unserved _ (by simp [led])]
      exact .within [] [] (List.forall_mem_nil _)

/-- Telling connections apart changes neither the response nor what becomes of the hosts. -/
theorem respond_apart (request : Request) (history : History) (now : σ) :
    respond service request now =
      ((service.respondApart service.hosts request (history, now)).1,
        (service.respondApart service.hosts request (history, now)).2.2) := by
  cases reached : Route.ofRequest request.method request.target.path with
  | serve resource withBody =>
      have led : request.route = .serve resource withBody := reached
      by_cases one : resource = .comparison
      · subst one
        have same : serve service .comparison request now = _ :=
          (nested_comparison service service.hosts (request.target.value? "asset1")
            (request.target.value? "asset2")).same (history, now)
        simp only [Service.respondApart, respond, reached, same]
      · have same : serve service resource request now = _ :=
          ((visiting_nested service "first").serve (fun _ => trivial) one request).same
            (history, now)
        rw [respondApart_of_single service service.hosts (by simp [led, one])]
        cases resource <;> simp only [respond, reached, same]
  | tellMethods | moved | notAllowed | notFound =>
      simp only [Service.respondApart, respond, reached]

/-- A transport is handed out only to be visited: it is connected, used and closed. -/
theorem visited_of_endpoint {asset : Asset} {endpoint : Endpoint}
    (built : service.endpoint asset = .ok endpoint) (name : String)
    {work : Transport (History × σ) → Step (History × σ) α} {told : Told Failure α}
    (works : Records (work ((service.named name).hosts asset.hostname.text)) told) :
    Records ((service.named name).withTransport asset work) (Visited name told) := by
  have visits : Records ((service.named name).withTransport asset work)
      (.given (service.endpoint asset) fun _ => Visited name told) :=
    Run.logs_given fun _ _ => records_visit name (service.hosts asset.hostname.text) works
  rw [built] at visits
  exact visits

/-- Every request settles the connections that it opens: each is closed once, in the reverse order
of opening, and takes no step afterwards, whatever the transports do. A transport that is handed out
is connected at once, so that none is missing from the history. -/
theorem requests_settle_connections (others : String → Transport σ) (request : Request) (now : σ) :
    (service.custody others request now).Settled ∧
      (respond service request now =
        ((service.respondApart service.hosts request ([], now)).1,
          (service.respondApart service.hosts request ([], now)).2.2)) ∧
      ∀ (asset : Asset) (endpoint : Endpoint), service.endpoint asset = .ok endpoint →
        ∀ (name : String) (work : Transport (History × σ) → Step (History × σ) Json)
          (told : Told Failure Json),
          Records (work ((service.named name).hosts asset.hostname.text)) told →
            Records ((service.named name).withTransport asset work) (Visited name told) := by
  refine ⟨settled_of_nested (custody_nested service others request now),
    respond_apart service request [] now, ?_⟩
  intro asset endpoint built name work told works
  exact visited_of_endpoint service built name works

end Web

end FleetPatch
