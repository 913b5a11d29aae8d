import FleetPatch.KbId
import FleetPatch.Windows.Output

/-!
# Results of downloads and installations

The update agent answers with a result code for the batch and one for each
update. Code 2 is success; a batch also counts as successful with code 3, success
with errors.
-/

namespace FleetPatch.Windows

set_option autoImplicit false

def resultNames : List String :=
  ["NotStarted", "InProgress", "Succeeded", "SucceededWithErrors", "Failed", "Aborted"]

def resultName? (code : Int) : Option String :=
  if code < 0 then none else resultNames[code.toNat]?

def resultText (code : Int) : String := (resultName? code).getD s!"Unknown ({code})"

/-- The text of a result code given as any value; lists and member sets are no codes. -/
def resultTextOf (code : Json) : Except Fault String :=
  match code with
  | .arr _ | .obj _ => .error .wrongType
  | code => .ok ((code.asInteger?.bind resultName?).getD ("Unknown (" ++ code.text ++ ")"))

structure UpdateOutcome where
  kbId : Option String
  title : Json
  code : Int
  deriving Repr

structure Installation where
  code : Int
  rebootRequired : Bool
  updateCount : Int
  outcomes : List UpdateOutcome
  deriving Repr

namespace UpdateOutcome

def succeeded (outcome : UpdateOutcome) : Bool := outcome.code == 2

def toJson (outcome : UpdateOutcome) : Json := .obj [
  ("kb_id", Json.ofText? outcome.kbId),
  ("title", outcome.title),
  ("result", .str (resultText outcome.code)),
  ("succeeded", .bool outcome.succeeded)]

def ofEntry (entry : Entry) : Except Fault UpdateOutcome := do
  let code ← (field "ResultCode" entry).toInteger
  .ok {
    kbId := KbId.normalize? (field "KBArticleIDs" entry)
    title := (field "Title" entry).orElse (.str "")
    code := code.getD 0 }

end UpdateOutcome

namespace Installation

def succeeded (result : Installation) : Bool := result.code == 2 || result.code == 3

def members (result : Installation) : List (String × Json) := [
  ("result", .str (resultText result.code)),
  ("result_code", .int result.code),
  ("succeeded", .bool result.succeeded),
  ("reboot_required", .bool result.rebootRequired),
  ("update_count", .int result.updateCount),
  ("updates", .arr (result.outcomes.map UpdateOutcome.toJson))]

def ofReport (operation : String) : Json → Except Fault Installation
  | .obj report => do
      let records ← entries (field "Updates" report)
      let outcomes ← records.mapM UpdateOutcome.ofEntry
      let code ← (field "ResultCode" report).toInteger
      let count ← (field "UpdateCount" report).toInteger
      .ok {
        code := code.getD 0
        rebootRequired := flag "RebootRequired" report
        updateCount := count.getD outcomes.length
        outcomes }
  | _ => .error (.command (.unreadable operation))

def parse (operation : String) (stdout : Option String) : Except Fault Installation := do
  let report ← loadOutput operation stdout
  ofReport operation report

end Installation

end FleetPatch.Windows
