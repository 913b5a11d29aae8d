import FleetPatch.Agent

/-!
# Workbenches

A workbench holds agents under names, each at work on a host. A name that was
given to no agent is unknown; a name that is given again stands for the new
agent.
-/

namespace FleetPatch

set_option autoImplicit false

/-- An agent and the name of the host that it works on. -/
structure Post where
  host : String
  agent : Agent

abbrev Workbench := List (String × Post)

namespace Workbench

def put (name : String) (post : Post) : Workbench → Workbench
  | [] => [(name, post)]
  | (key, old) :: rest =>
      if key = name then (key, post) :: rest else (key, old) :: put name post rest

variable {σ α : Type}

def find (name : String) : Run Fault (Workbench × σ) Post := fun (bench, now) =>
  match bench.lookup name with
  | some post => (.ok post, (bench, now))
  | none => (.error .unknownName, (bench, now))

def make (name host : String) (agent : Agent) : Run Fault (Workbench × σ) Unit :=
  Run.first (Run.update (put name ⟨host, agent⟩))

def withAgent (transports : String → Transport σ) (name : String)
    (work : Transport σ → Run Fault (Agent × σ) α) : Run Fault (Workbench × σ) α := do
  let post ← find name
  fun (bench, now) =>
    match work (transports post.host) (post.agent, now) with
    | (outcome, (agent, rest)) => (outcome, (put name ⟨post.host, agent⟩ bench, rest))

variable (transports : String → Transport σ)

def perform (name : String) (request : Request) : Run Fault (Workbench × σ) Answer :=
  withAgent transports name fun host => Agent.perform host request

/-- Compares the keys of two agents, which may be one and the same; only a query can be asked to. -/
def compare (first second : String) : Run Fault (Workbench × σ) (Comparison String) := do
  let post ← find first
  unless post.agent.isQuery do Run.fail .unsupportedOperation
  let _ ← find second
  Comparison.ofRuns (withAgent transports first Agent.keys) (withAgent transports second Agent.keys)

def pendingOf (name : String) (ask : Bool) : Option (Run Fault (Workbench × σ) Bool) :=
  if ask then some (withAgent transports name Agent.pending) else none

/-- The guard's decision on an action on the asset of an entry, with the agent under a name to ask
for a pending restart. -/
def guard (name : String) (entry : Json) (action : String) (ask : Bool) :
    Run Fault (Workbench × σ) Guard.Decision := do
  let _ ← find name
  let asset ← Run.lift (Asset.ofJson entry)
  Guard.check asset action (pendingOf transports name ask)

def enforce (name : String) (entry : Json) (action : String) (ask : Bool) :
    Run Fault (Workbench × σ) Unit := do
  let _ ← find name
  let asset ← Run.lift (Asset.ofJson entry)
  Guard.enforce asset action (pendingOf transports name ask)

end Workbench

end FleetPatch
