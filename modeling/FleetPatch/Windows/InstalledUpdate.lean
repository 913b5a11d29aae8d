import FleetPatch.Date
import FleetPatch.KbId
import FleetPatch.Pattern
import FleetPatch.Text.Lower
import FleetPatch.Windows.Output

/-!
# Installed updates

Installed updates are known by their identifier. A listing may report one more
than once; the first report counts, and reports without an identifier do not.
-/

namespace FleetPatch.Windows

set_option autoImplicit false

structure InstalledUpdate where
  kbId : String
  description : Option String
  installedOn : Option Date
  installedBy : Option String
  source : Json
  deriving Repr

namespace InstalledUpdate

def isSecurity (update : InstalledUpdate) : Bool :=
  match update.description with
  | some description => Text.contains (Text.lower description) "security"
  | none => false

def matchedBy (update : InstalledUpdate) (pattern : Pattern) : Bool :=
  pattern.selects (some update.kbId)

def toJson (update : InstalledUpdate) : Json := .obj [
  ("kb_id", .str update.kbId),
  ("description", Json.ofText? update.description),
  ("installed_on", Json.ofText? (update.installedOn.map Date.iso)),
  ("installed_by", Json.ofText? update.installedBy),
  ("source", update.source),
  ("security_update", .bool update.isSecurity)]

def ofEntry (kbId : String) (entry : Entry) : InstalledUpdate where
  kbId := kbId
  description := (field "Description" entry).presence?
  installedOn := Date.ofJson? (field "InstalledOn" entry)
  installedBy := (field "InstalledBy" entry).presence?
  source := (field "Source" entry).orElse (.str "hotfix")

/-- The updates of records, those already seen left out. -/
def ofEntries : (seen : List String) → List Entry → List InstalledUpdate
  | _, [] => []
  | seen, entry :: rest =>
      match KbId.normalize? (field "HotFixID" entry) with
      | none => ofEntries seen rest
      | some kbId =>
          if seen.contains kbId then ofEntries seen rest
          else ofEntry kbId entry :: ofEntries (kbId :: seen) rest

def parse (stdout : Option String) : Except Fault (List InstalledUpdate) := do
  let output ← loadOutput "installed update listing" stdout
  let records ← entries output
  .ok (ofEntries [] records)

/-- The dated updates within two bounds, either of which may be open. -/
def between (start stop : Option Date) (updates : List InstalledUpdate) : List InstalledUpdate :=
  updates.filter fun update =>
    match update.installedOn with
    | none => false
    | some date =>
        !(start.any fun bound => date.before bound) && !(stop.any fun bound => bound.before date)

/-- The earliest and the latest of some dates and one more. -/
def widened : Option (Date × Date) → Date → Option (Date × Date)
  | none, date => some (date, date)
  | some (first, last), date =>
      some (if date.before first then date else first, if last.before date then date else last)

def dateRange? (dates : List Date) : Option (Date × Date) := dates.foldl widened none

def summary (updates : List InstalledUpdate) : String :=
  let range :=
    match dateRange? (updates.filterMap (·.installedOn)) with
    | some (first, last) => first.iso ++ " to " ++ last.iso
    | none => "N/A"
  s!"Total updates: {updates.length}\n" ++
    s!"Security updates: {(updates.filter isSecurity).length}\n" ++ "Date range: " ++ range

end InstalledUpdate

end FleetPatch.Windows
