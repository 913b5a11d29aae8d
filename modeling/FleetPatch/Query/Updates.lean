import FleetPatch.Transport
import FleetPatch.Windows.InstalledUpdate
import FleetPatch.Windows.Script

/-!
# Queries for installed updates

A query keeps the first listing that succeeded and answers everything from it
until a refresh is asked for.
-/

namespace FleetPatch.UpdateQuery

set_option autoImplicit false

open Windows

abbrev Cache := Option (List InstalledUpdate)

variable {σ : Type} (host : Transport σ)

def installedOf (reply : Reply) : Except Fault (List InstalledUpdate) := do
  reply.requireErrors
  InstalledUpdate.parse reply.stdout

def listing : Run Fault σ (List InstalledUpdate) := host.ask installedUpdatesScript installedOf

def fetch (refresh : Bool) : Run Fault (Cache × σ) (List InstalledUpdate) :=
  Run.cached id (fun updates _ => some updates) refresh (listing host)

def names : Run Fault (Cache × σ) (List String) := do
  let updates ← fetch host false
  pure (updates.map (·.kbId))

def selected (pattern : Pattern) : Run Fault (Cache × σ) (List InstalledUpdate) := do
  let updates ← fetch host false
  pure (updates.filter (·.matchedBy pattern))

def securityUpdates : Run Fault (Cache × σ) (List InstalledUpdate) := do
  let updates ← fetch host false
  pure (updates.filter InstalledUpdate.isSecurity)

def between (start stop : Option Date) : Run Fault (Cache × σ) (List InstalledUpdate) := do
  let updates ← fetch host false
  pure (InstalledUpdate.between start stop updates)

def summary : Run Fault (Cache × σ) String := do
  let updates ← fetch host false
  pure (InstalledUpdate.summary updates)

end FleetPatch.UpdateQuery
