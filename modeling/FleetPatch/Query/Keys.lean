import FleetPatch.Comparison
import FleetPatch.Ecosystem
import FleetPatch.Query.Packages
import FleetPatch.Query.Updates

/-!
# Keys and summaries of a host

A host's keys are the identifiers of its installed updates or the names of its
installed packages. Two hosts are compared by their keys, the first being listed
before the second.
-/

namespace FleetPatch

set_option autoImplicit false

variable {σ : Type}

/-- The keys of a host, from a listing of its own. -/
def Ecosystem.keys (ecosystem : Ecosystem) (host : Transport σ) : Run Fault σ (List String) :=
  match ecosystem with
  | .windows => Run.withFresh none (UpdateQuery.names host)
  | .packages manager => Run.withFresh .empty (PackageQuery.names host manager)

def Ecosystem.summary (ecosystem : Ecosystem) (host : Transport σ) : Run Fault σ String :=
  match ecosystem with
  | .windows => Run.withFresh none (UpdateQuery.summary host)
  | .packages manager => Run.withFresh .empty (PackageQuery.summary host manager)

def Comparison.ofRuns (first second : Run Fault σ (List String)) :
    Run Fault σ (Comparison String) := do
  let left ← first
  let right ← second
  pure (Comparison.ofKeys left right)

end FleetPatch
