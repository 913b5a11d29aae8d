import FleetPatch.Executor.Packages
import FleetPatch.Proofs.Conversions
import FleetPatch.Proofs.Searches

/-!
# Verdicts on a change

What a host has to say for a change to be reported as done. An update agent says it with exit
code zero and a report without an error, in which a result code stands that converts to
success; a package manager says it with exit code zero. Nothing else is taken for success, and
a report is told record by record.
-/

namespace FleetPatch

set_option autoImplicit false

open Windows

variable {σ α : Type}

theorem Transport.ask_eq_ok {host : Transport σ} {command : String} {read : Reply → Except Fault α}
    {now after : σ} {value : α} : host.ask command read now = (.ok value, after) ↔
      ∃ reply, host.execute command now = (.ok reply, after) ∧ read reply = .ok value := by
  rw [Transport.ask]
  rcases executed : host.execute command now with ⟨outcome, later⟩
  cases outcome with
  | error fault =>
      rw [Run.bind_apply_error executed]
      constructor
      · rintro ⟨⟩
      · rintro ⟨_, ⟨⟩, _⟩
  | ok reply =>
      rw [Run.bind_apply_ok executed, Run.lift_apply]
      constructor
      · intro answered
        obtain ⟨given, rfl⟩ := Prod.mk.inj answered
        exact ⟨reply, rfl, given⟩
      · rintro ⟨_, ⟨⟩, given⟩
        rw [given]

namespace Windows

/-- A record of a report, told as the outcome of one update. -/
structure UpdateOutcome.Told (entry : Entry) (outcome : UpdateOutcome) : Prop where
  kbId : outcome.kbId = KbId.normalize? (field "KBArticleIDs" entry)
  title : outcome.title = (field "Title" entry).orElse (.str "")
  code : Json.Counts 0 (field "ResultCode" entry) outcome.code

theorem UpdateOutcome.ofEntry_eq_ok_iff {entry : Entry} {outcome : UpdateOutcome} :
    ofEntry entry = .ok outcome ↔ Told entry outcome := by
  constructor
  · intro read
    obtain ⟨code, given, read⟩ := exists_of_bind_ok read
    cases read
    exact ⟨rfl, rfl, Json.counts_iff.mpr ⟨code, given, rfl⟩⟩
  · rintro ⟨kbId, title, code⟩
    obtain ⟨converted, given, counted⟩ := Json.counts_iff.mp code
    rw [ofEntry, bind_of_ok given, counted, ← kbId, ← title]

theorem UpdateOutcome.Told.succeeded_iff {entry : Entry} {outcome : UpdateOutcome}
    (told : Told entry outcome) :
    outcome.succeeded = true ↔ Json.Converts (field "ResultCode" entry) 2 := by
  rw [succeeded, beq_iff_eq]
  exact told.code.eq_iff (by decide)

/-- A report, told as the result of an action. -/
structure Installation.Told (report : Entry) (result : Installation) : Prop where
  code : Json.Counts 0 (field "ResultCode" report) result.code
  rebootRequired : result.rebootRequired = flag "RebootRequired" report
  listed : (field "Updates" report).isNumeric = false
  outcomes : List.Forall₂ UpdateOutcome.Told (records (field "Updates" report)) result.outcomes
  updateCount : Json.Counts result.outcomes.length (field "UpdateCount" report) result.updateCount

theorem Installation.ofReport_eq_ok_iff {operation : String} {report : Entry}
    {result : Installation} :
    ofReport operation (.obj report) = .ok result ↔ Told report result := by
  constructor
  · intro read
    obtain ⟨listed, entered, read⟩ := exists_of_bind_ok read
    obtain ⟨outcomes, mapped, read⟩ := exists_of_bind_ok read
    obtain ⟨code, coded, read⟩ := exists_of_bind_ok read
    obtain ⟨count, counted, read⟩ := exists_of_bind_ok read
    cases read
    rw [entries_eq] at entered
    split at entered
    · cases entered
    next unlisted =>
      cases entered
      exact {
        code := Json.counts_iff.mpr ⟨code, coded, rfl⟩
        rebootRequired := rfl
        listed := Bool.eq_false_iff.mpr unlisted
        outcomes := (mapM_eq_ok_iff.mp mapped).imp fun _ _ => UpdateOutcome.ofEntry_eq_ok_iff.mp
        updateCount := Json.counts_iff.mpr ⟨count, counted, rfl⟩ }
  · intro told
    have entered : entries (field "Updates" report) = .ok (records (field "Updates" report)) := by
      rw [entries_eq, told.listed]
      rfl
    have mapped := mapM_eq_ok_iff.mpr
      (told.outcomes.imp fun _ _ => UpdateOutcome.ofEntry_eq_ok_iff.mpr)
    obtain ⟨code, coded, codes⟩ := Json.counts_iff.mp told.code
    obtain ⟨count, counted, counts⟩ := Json.counts_iff.mp told.updateCount
    rw [ofReport, bind_of_ok entered, bind_of_ok mapped, bind_of_ok coded, bind_of_ok counted,
      codes, counts, ← told.rebootRequired]

theorem Installation.Told.succeeded_iff {report : Entry} {result : Installation}
    (told : Told report result) :
    result.succeeded = true ↔ Json.Converts (field "ResultCode" report) 2 ∨
      Json.Converts (field "ResultCode" report) 3 := by
  rw [succeeded, Bool.or_eq_true, beq_iff_eq, beq_iff_eq, told.code.eq_iff (by decide),
    told.code.eq_iff (by decide)]

/-- A reply that says what became of an action: exit code zero, and output that is an object without
an error. -/
structure Concludes (reply : Reply) (report : Entry) : Prop where
  exited : reply.exitCode = some 0
  written : document reply.stdout = .ok (.obj report)
  unreported : (field "Error" report).isPresent = false

theorem loadOutput_eq_ok_iff {operation : String} {stdout : Option String} {value : Json} :
    loadOutput operation stdout = .ok value ↔ Shows stdout value := by
  refine ⟨fun loaded => ?_, loadOutput_of_shown operation⟩
  rcases output_cases stdout with unread | ⟨shown, shows⟩ | ⟨members, written, reported⟩
  · obtain ⟨fault, failed, _⟩ := loadOutput_of_unread operation unread
    cases failed.symm.trans loaded
  · cases (loadOutput_of_shown operation shows).symm.trans loaded
    exact shows
  · cases (loadOutput_of_reported operation written reported).symm.trans loaded

theorem shows_obj_iff {stdout : Option String} {report : Entry} : Shows stdout (.obj report) ↔
    document stdout = .ok (.obj report) ∧ (field "Error" report).isPresent = false := by
  constructor
  · rintro (_ | ⟨written, unreported⟩)
    exact ⟨written, unreported⟩
  · exact fun ⟨written, unreported⟩ => .value written unreported

end Windows

namespace UpdateExecutor

theorem resultOf_eq_ok_iff {action : Action} {reply : Reply} {result : Installation} :
    resultOf action reply = .ok result ↔
      ∃ report, Concludes reply report ∧ Installation.Told report result := by
  constructor
  · intro read
    obtain ⟨_, passed, read⟩ := exists_of_bind_ok read
    obtain ⟨value, loaded, read⟩ := exists_of_bind_ok read
    have exited : reply.exitCode = some 0 := beq_iff_eq.mp (succeeded_of_required passed)
    cases value with
    | obj report =>
        obtain ⟨written, unreported⟩ := shows_obj_iff.mp (loadOutput_eq_ok_iff.mp loaded)
        exact ⟨report, ⟨exited, written, unreported⟩, Installation.ofReport_eq_ok_iff.mp read⟩
    | _ => cases read
  · rintro ⟨report, ⟨exited, written, unreported⟩, told⟩
    have shows := shows_obj_iff.mpr ⟨written, unreported⟩
    rw [resultOf, bind_of_ok (required_of_succeeded (beq_iff_eq.mpr exited) _ _),
      Installation.parse, bind_of_ok (loadOutput_of_shown _ shows)]
    exact Installation.ofReport_eq_ok_iff.mpr told

/-- An action has a result only if its script was executed and the reply told one, and then nothing
is kept of what was found before. -/
theorem act_eq_ok_iff {host : Transport σ} {action : Action} {kbIds : Json} {cache : Cache}
    {now : σ}
    {result : Installation} {after : Cache × σ} :
    act host action kbIds (cache, now) = (.ok result, after) ↔ ∃ script reply,
      actionScript action kbIds = .ok script ∧ host.execute script now = (.ok reply, after.2) ∧
        after.1 = none ∧ resultOf action reply = .ok result := by
  obtain ⟨kept, later⟩ := after
  cases scripted : actionScript action kbIds with
  | error fault =>
      rw [act_of_unscripted host scripted]
      exact iff_of_false nofun (by rintro ⟨_, _, ⟨⟩, _⟩)
  | ok script =>
      rw [act_of_script host scripted]
      constructor
      · intro acted
        obtain ⟨told, left⟩ := Prod.mk.inj acted
        obtain ⟨emptied, rest⟩ := Prod.mk.inj left
        rw [told] at emptied
        have asked : host.ask script (resultOf action) now = (.ok result, later) :=
          Prod.ext told rest
        obtain ⟨reply, executed, given⟩ := Transport.ask_eq_ok.mp asked
        exact ⟨script, reply, rfl, executed, emptied.symm, given⟩
      · rintro ⟨_, reply, ⟨⟩, executed, emptied, given⟩
        rw [Transport.ask_eq_ok.mpr ⟨reply, executed, given⟩]
        exact congrArg (fun kept => (Except.ok result, (kept, later))) emptied.symm

end UpdateExecutor

namespace UpgradeResult

theorem error_eq_some_iff {result : UpgradeResult} {shown : Json} :
    Json.member? "error" result.members = some shown ↔
      result.success = false ∧ result.stderr ≠ "" ∧ .str result.stderr = shown := by
  have looked : Json.member? "error" result.members =
      List.lookup "error"
        (if !result.success && result.stderr != "" then [("error", .str result.stderr)] else []) :=
    rfl
  rw [looked]
  by_cases failed : result.success = false ∧ result.stderr ≠ ""
  · simp [failed]
  · have hidden : ¬ (!result.success && result.stderr != "") = true := by simpa using failed
    rw [if_neg hidden]
    exact iff_of_false nofun fun ⟨unsuccessful, said, _⟩ => failed ⟨unsuccessful, said⟩

/-- The result of a batch of upgrades, as the reply to it tells it: exit code zero is success, and
the error text is shown exactly if there is no success and there is such a text. -/
structure Told (reply : Reply) (result : UpgradeResult) : Prop where
  success : result.success = true ↔ reply.exitCode = some 0
  error (shown : Json) : Json.member? "error" result.members = some shown ↔
    reply.exitCode ≠ some 0 ∧ ∃ text, reply.stderr = some text ∧ text ≠ "" ∧ .str text = shown

theorem told_of_read {manager : Manager} {reply : Reply} {result : UpgradeResult}
    (read : manager.upgradeResult reply = .ok result) : Told reply result := by
  obtain ⟨count, _, shaped⟩ := exists_of_bind_ok read
  have success : result.success = true ↔ reply.exitCode = some 0 := by
    cases shaped
    exact beq_iff_eq
  have stderr : result.stderr = reply.stderr.getD "" := by
    cases shaped
    rfl
  refine ⟨success, fun shown => ?_⟩
  rw [error_eq_some_iff, ← Bool.not_eq_true, success, stderr]
  apply and_congr_right'
  cases reply.stderr with
  | none => exact iff_of_false (fun ⟨said, _⟩ => said rfl) nofun
  | some text => simp

end UpgradeResult

namespace PackageExecutor

theorem batch_eq_ok_iff {host : Transport σ} {manager : Manager} {command : String} {now after : σ}
    {result : UpgradeResult} : host.ask command manager.upgradeResult now = (.ok result, after) ↔
      ∃ reply, host.execute command now = (.ok reply, after) ∧
        manager.upgradeResult reply = .ok result ∧ UpgradeResult.Told reply result := by
  rw [Transport.ask_eq_ok]
  constructor
  · rintro ⟨reply, executed, read⟩
    exact ⟨reply, executed, read, UpgradeResult.told_of_read read⟩
  · rintro ⟨reply, executed, read, _⟩
    exact ⟨reply, executed, read⟩

theorem upgrade_eq_ok_iff {host : Transport σ} {manager : Manager} {value : Json} {now after : σ}
    {result : UpgradeResult} : upgrade host manager value now = (.ok result, after) ↔
      ∃ names, packageNames value = .ok names ∧
        host.ask (manager.upgradeCommand names) manager.upgradeResult now =
          (.ok result, after) := by
  rw [upgrade]
  cases named : packageNames value with
  | error fault =>
      rw [Run.bind_apply_error (Run.lift_apply _ now)]
      constructor
      · rintro ⟨⟩
      · rintro ⟨_, ⟨⟩, _⟩
  | ok names =>
      rw [Run.bind_apply_ok (Run.lift_apply _ now)]
      constructor
      · exact fun asked => ⟨names, rfl, asked⟩
      · rintro ⟨_, ⟨⟩, asked⟩
        exact asked

end PackageExecutor

/-- No change is reported as done unless the host said so. A download or an installation has a
result exactly if its script was executed and the reply says what became of it, with exit code zero
and an object without an error; the result is that object's, record by record, the batch succeeded
exactly if the object's code converts to 2 or 3, and an update exactly if the code of its own record
converts to 2. A batch of upgrades succeeded exactly if it came with exit code zero, and shows the
error text of the reply otherwise. -/
theorem success_said_by_host (host : Transport σ) (action : Action) (manager : Manager)
    (value : Json) (cache : UpdateExecutor.Cache) (now : σ) :
    (∀ result after, UpdateExecutor.act host action value (cache, now) = (.ok result, after) ↔
      ∃ script reply report, UpdateExecutor.actionScript action value = .ok script ∧
        host.execute script now = (.ok reply, after.2) ∧ after.1 = none ∧
        Concludes reply report ∧ Installation.Told report result ∧
        (result.succeeded = true ↔ Json.Converts (field "ResultCode" report) 2 ∨
          Json.Converts (field "ResultCode" report) 3) ∧
        List.Forall₂ (fun entry outcome => outcome.succeeded = true ↔
          Json.Converts (field "ResultCode" entry) 2)
          (records (field "Updates" report)) result.outcomes) ∧
    (∀ result after, PackageExecutor.upgradeAll host manager now = (.ok result, after) ↔
      ∃ reply, host.execute manager.upgradeAllCommand now = (.ok reply, after) ∧
        manager.upgradeResult reply = .ok result ∧ UpgradeResult.Told reply result) ∧
    (∀ result after, PackageExecutor.upgrade host manager value now = (.ok result, after) ↔
      ∃ names reply, PackageExecutor.packageNames value = .ok names ∧
        host.execute (manager.upgradeCommand names) now = (.ok reply, after) ∧
        manager.upgradeResult reply = .ok result ∧ UpgradeResult.Told reply result) := by
  refine ⟨fun result after => ?_, fun result after => PackageExecutor.batch_eq_ok_iff,
    fun result after => ?_⟩
  · rw [UpdateExecutor.act_eq_ok_iff]
    constructor
    · rintro ⟨script, reply, scripted, executed, emptied, read⟩
      obtain ⟨report, concluded, told⟩ := UpdateExecutor.resultOf_eq_ok_iff.mp read
      exact ⟨script, reply, report, scripted, executed, emptied, concluded, told,
        told.succeeded_iff,
        told.outcomes.imp fun _ _ => UpdateOutcome.Told.succeeded_iff⟩
    · rintro ⟨script, reply, report, scripted, executed, emptied, concluded, told, _, _⟩
      exact ⟨script, reply, scripted, executed, emptied,
        UpdateExecutor.resultOf_eq_ok_iff.mpr ⟨report, concluded, told⟩⟩
  · rw [PackageExecutor.upgrade_eq_ok_iff]
    simp only [PackageExecutor.batch_eq_ok_iff, exists_and_left]

end FleetPatch
