import FleetPatch.KbId
import FleetPatch.Pattern
import FleetPatch.Text.Lower
import FleetPatch.Windows.Output

/-!
# Available updates

Available updates are those that a search finds and that are not installed.
Sizes are reported in megabytes with two decimal places.
-/

namespace FleetPatch.Windows

set_option autoImplicit false

structure AvailableUpdate where
  kbId : Option String
  title : Json
  sizeBytes : Option Int
  severity : Json
  isDownloaded : Bool
  categories : List String
  deriving Repr

namespace AvailableUpdate

def megabyte : Nat := 1048576

/-- The size in megabytes, to two places; an integer beyond every number has none. -/
def sizeMegabytes (update : AvailableUpdate) : Except Fault (Option Binary64) :=
  match update.sizeBytes with
  | none => .ok none
  | some size =>
      match Binary64.divide? size megabyte with
      | some quotient => .ok (some quotient.roundToHundredths)
      | none => .error .tooLarge

/-- Whether a severity other than the unspecified one is given. -/
def isSecurity (update : AvailableUpdate) : Except Fault Bool :=
  match update.severity with
  | .null => .ok false
  | severity => severity.asText.map fun text => Text.lower text != "unspecified"

def matchedBy (update : AvailableUpdate) (pattern : Pattern) : Bool :=
  pattern.selects update.kbId

def toJson (update : AvailableUpdate) : Except Fault Json := do
  let size ← update.sizeMegabytes
  .ok (.obj [
    ("kb_id", Json.ofText? update.kbId),
    ("title", update.title),
    ("size_bytes", (update.sizeBytes.map Json.int).getD .null),
    ("size_mb", (size.map Json.real).getD .null),
    ("severity", update.severity),
    ("is_downloaded", .bool update.isDownloaded),
    ("categories", .arr (update.categories.map Json.str))])

def categoryNames (text : String) : List String :=
  ((Text.pieces (· == ';') text.toList).filter fun name => !name.isEmpty).map String.ofList

def ofEntry (entry : Entry) : Except Fault AvailableUpdate := do
  let size ← (field "SizeBytes" entry).toInteger
  let categories ← ((field "Categories" entry).orElse (.str "")).asText
  .ok {
    kbId := KbId.normalize? (field "KBArticleIDs" entry)
    title := (field "Title" entry).orElse (.str "")
    sizeBytes := size
    severity := field "Severity" entry
    isDownloaded := flag "IsDownloaded" entry
    categories := categoryNames categories }

def parse (stdout : Option String) : Except Fault (List AvailableUpdate) := do
  let output ← loadOutput "update search" stdout
  let records ← entries output
  records.mapM ofEntry

end AvailableUpdate

end FleetPatch.Windows
