import FleetPatch.Package.Manager

/-!
# Queries for packages

A query keeps the first listing of installed packages and the first of upgrade
candidates that succeeded; each is refreshed on its own.
-/

namespace FleetPatch.PackageQuery

set_option autoImplicit false

structure Cache where
  installed : Option (List Package)
  upgradable : Option (List Package)
  deriving Repr, DecidableEq

def Cache.empty : Cache := ⟨none, none⟩

variable {σ : Type} (host : Transport σ) (manager : Manager)

def installedOf (reply : Reply) : Except Fault (List Package) := do
  reply.requireErrors
  .ok (manager.installed (reply.stdout.getD ""))

def installedListing : Run Fault σ (List Package) :=
  host.ask manager.installedCommand (installedOf manager)

def upgradableListing : Run Fault σ (List Package) :=
  host.ask manager.upgradableCommand fun reply =>
    .ok (manager.upgradable (reply.stdout.getD ""))

def installed (refresh : Bool) : Run Fault (Cache × σ) (List Package) :=
  Run.cached Cache.installed (fun packages cache => { cache with installed := some packages })
    refresh (installedListing host manager)

def upgradable (refresh : Bool) : Run Fault (Cache × σ) (List Package) :=
  Run.cached Cache.upgradable (fun packages cache => { cache with upgradable := some packages })
    refresh (upgradableListing host manager)

def names : Run Fault (Cache × σ) (List String) := do
  let packages ← installed host manager false
  pure (packages.map (·.name))

def selected (pattern : Pattern) : Run Fault (Cache × σ) (List Package) := do
  let packages ← installed host manager false
  pure (packages.filter (·.matchedBy pattern))

def summary : Run Fault (Cache × σ) String := do
  let packages ← installed host manager false
  let candidates ← upgradable host manager false
  pure (s!"Installed packages: {packages.length}\n" ++
    s!"Upgradable packages: {candidates.length}")

end FleetPatch.PackageQuery
