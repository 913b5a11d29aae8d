import FleetPatch.Proofs.Faults
import FleetPatch.Windows.InstalledUpdate
import FleetPatch.Windows.RebootSignals

/-!
# Reading the output of Windows scripts

A reading crashes if it ends with a fault other than a command's. Output that cannot be
read, a number in place of a list, an infinite number in place of an integer, and categories
that are no text are what the readings crash on, and nothing else is.
-/

namespace FleetPatch

set_option autoImplicit false

variable {α β : Type}

def Fault.isCommand : Fault → Bool
  | .command _ => true
  | _ => false

/-- A reading that ends with a fault, and not with one that is told as a command's. -/
def Crashes (computed : Except Fault α) : Prop :=
  ∃ fault, computed = .error fault ∧ fault.isCommand = false

abbrev NeverTells (computed : Except Fault α) : Prop :=
  FailsOnly (fun fault => fault.isCommand = false) computed

/-- A reading that ends with a fault that is told as a command's. -/
def Tells (computed : Except Fault α) : Prop := ∃ cause, computed = .error (.command cause)

theorem NeverTells.not_tells {computed : Except Fault α} (untold : NeverTells computed) :
    ¬ Tells computed := by
  rintro ⟨cause, told⟩
  cases untold _ told

section Steps

variable {computed : Except Fault α} {next : α → Except Fault β}

theorem not_crashes_ok (value : α) : ¬ Crashes (.ok value : Except Fault α) := nofun

theorem crashes_bind_iff : Crashes (computed >>= next) ↔
    Crashes computed ∨ ∃ value, computed = .ok value ∧ Crashes (next value) :=
  FailsWith.bind_iff

/-- A step that fails only by crashing, before one whose crashes do not depend on its value. -/
theorem crashes_before_iff {P : Prop} (untold : NeverTells computed)
    (rest : ∀ value, Crashes (next value) ↔ P) :
    Crashes (computed >>= next) ↔ Crashes computed ∨ P := by
  rw [crashes_bind_iff]
  cases computed with
  | error fault =>
      have crash : Crashes (.error fault : Except Fault α) := ⟨fault, rfl, untold fault rfl⟩
      exact iff_of_true (.inl crash) (.inl crash)
  | ok value =>
      apply or_congr Iff.rfl
      constructor
      · rintro ⟨_, ⟨⟩, crash⟩
        exact (rest value).mp crash
      · exact fun holds => ⟨value, rfl, (rest value).mpr holds⟩

theorem crashes_mapM_iff {read : α → Except Fault β} (untold : ∀ item, NeverTells (read item))
    (items : List α) : Crashes (items.mapM read) ↔ ∃ item ∈ items, Crashes (read item) := by
  induction items with
  | nil => exact iff_of_false (not_crashes_ok _) (fun ⟨_, member, _⟩ => nomatch member)
  | cons head tail ih =>
      have rest (value : β) : Crashes (tail.mapM read >>= fun values => pure (value :: values)) ↔
          ∃ item ∈ tail, Crashes (read item) := by
        rw [crashes_bind_iff, ih]
        exact or_iff_left fun ⟨_, _, crash⟩ => not_crashes_ok _ crash
      rw [List.mapM_cons, crashes_before_iff (untold head) rest]
      simp only [List.mem_cons, exists_eq_or_imp]

end Steps

namespace Json

def isNumeric : Json → Bool
  | .bool _ | .int _ | .real _ => true
  | _ => false

def IsInfinite (value : Json) : Prop := ∃ negative, value = .real (.infinite negative)

theorem neverTells_toInteger (value : Json) : NeverTells value.toInteger := by
  cases value with
  | real number =>
      cases number with
      | infinite negative => exact .error rfl
      | _ => exact .ok _
  | _ => exact .ok _

theorem crashes_toInteger_iff (value : Json) : Crashes value.toInteger ↔ value.IsInfinite := by
  cases value with
  | real number =>
      cases number with
      | infinite negative => exact iff_of_true ⟨_, rfl, rfl⟩ ⟨negative, rfl⟩
      | _ => exact iff_of_false (not_crashes_ok _) nofun
  | _ => exact iff_of_false (not_crashes_ok _) nofun

theorem crashes_asText_iff (value : Json) :
    Crashes (value.orElse (.str "")).asText ↔
      value.isPresent = true ∧ ∀ text, value ≠ .str text := by
  unfold orElse
  cases present : value.isPresent with
  | false => exact iff_of_false (not_crashes_ok _) fun ⟨given, _⟩ => nomatch given
  | true =>
      rw [if_pos rfl]
      cases value with
      | str text => exact iff_of_false (not_crashes_ok _) fun ⟨_, other⟩ => other text rfl
      | _ => exact iff_of_true ⟨_, rfl, rfl⟩ ⟨rfl, nofun⟩

theorem neverTells_asText (value : Json) : NeverTells value.asText := by
  cases value with
  | str text => exact .ok _
  | _ => exact .error rfl

end Json

namespace Windows

def records : Json → List Entry
  | .arr items => items.filterMap entry?
  | .obj members => [members]
  | _ => []

theorem entries_eq (value : Json) :
    entries value = if value.isNumeric then .error .wrongType else .ok (records value) := by
  cases value with
  | str text =>
      have characters : (text.toList.map fun character =>
          Json.str (String.singleton character)).filterMap entry? = [] := by
        rw [List.filterMap_map]
        exact List.filterMap_eq_nil_iff.mpr fun _ _ => rfl
      exact congrArg Except.ok characters
  | _ => rfl

theorem neverTells_entries (value : Json) : NeverTells (entries value) := by
  rw [entries_eq]
  split
  · exact .error rfl
  · exact .ok _

def document (stdout : Option String) : Except Json.ReadFault Json :=
  Json.read (Text.trimmed (stdout.getD ""))

/-- A document by the characters of the text, of which a run on a fixed text is made. -/
theorem document_eq (text : String) :
    document (some text) = (do
      let (value, rest) ← Json.readValue (2 * (Text.trim text.toList).length + 1) Json.nestingLimit
        (Json.skipSpace (Text.trim text.toList))
      if (Json.skipSpace rest).isEmpty then .ok value else .error .grammar) := by
  change Json.read (String.ofList (Text.trim text.toList)) = _
  unfold Json.read
  rw [String.toList_ofList, String.length_ofList]

/-- The output has a number with more digits than can be read, or opens too many lists and records
at once. -/
def Unread (stdout : Option String) : Prop :=
  Overflows stdout ∨ document stdout = .error .tooDeep

def reportsError : Json → Bool
  | .obj members => (Json.memberOrNull "Error" members).isPresent
  | _ => false

/-- What the output shows: a document that reports no error; output that is no document shows
null. -/
inductive Shows (stdout : Option String) : Json → Prop
  | nothing (garbled : document stdout = .error .grammar) : Shows stdout .null
  | value {value : Json} (written : document stdout = .ok value)
      (unreported : reportsError value = false) : Shows stdout value

/-- Output without text is garbled, so there is no case of its own for it. -/
theorem loadOutput_eq (operation : String) (stdout : Option String) :
    loadOutput operation stdout =
      match document stdout with
      | .error .grammar => .ok .null
      | .error (.tooManyDigits count) => .error (.invalidValue (.tooManyDigits count))
      | .error .tooDeep => .error .tooDeep
      | .ok (.obj members) =>
          if (Json.memberOrNull "Error" members).isPresent then
            .error (.command (.remoteError operation (Json.memberOrNull "Error" members).text))
          else .ok (.obj members)
      | .ok value => .ok value := by
  unfold loadOutput document
  dsimp only
  split
  next empty =>
      have garbled : Json.read "" = .error .grammar := rfl
      rw [empty, garbled]
  next =>
      cases Json.read (Text.trimmed (stdout.getD "")) with
      | error fault => cases fault <;> rfl
      | ok value => cases value <;> rfl

theorem loadOutput_of_unread {stdout : Option String} (operation : String)
    (unread : Unread stdout) :
    Crashes (loadOutput operation stdout) := by
  rw [loadOutput_eq]
  rcases unread with ⟨count, long⟩ | deep
  · rw [document, long]
    exact ⟨_, rfl, rfl⟩
  · rw [deep]
    exact ⟨_, rfl, rfl⟩

theorem loadOutput_of_shown {stdout : Option String} {value : Json} (operation : String)
    (shows : Shows stdout value) : loadOutput operation stdout = .ok value := by
  rw [loadOutput_eq]
  cases shows with
  | nothing garbled => rw [garbled]
  | value written unreported =>
      rw [written]
      cases value with
      | obj members =>
          dsimp only
          rw [show (Json.memberOrNull "Error" members).isPresent = false from unreported]
          rfl
      | _ => rfl

theorem loadOutput_of_reported {stdout : Option String} {members : Entry} (operation : String)
    (written : document stdout = .ok (.obj members))
    (reported : (Json.memberOrNull "Error" members).isPresent = true) :
    loadOutput operation stdout =
      .error (.command (.remoteError operation (Json.memberOrNull "Error" members).text)) := by
  rw [loadOutput_eq, written]
  exact if_pos reported

theorem output_cases (stdout : Option String) :
    Unread stdout ∨ (∃ value, Shows stdout value) ∨
      ∃ members, document stdout = .ok (.obj members) ∧
        (Json.memberOrNull "Error" members).isPresent = true := by
  cases written : document stdout with
  | error fault =>
      cases fault with
      | grammar => exact .inr (.inl ⟨.null, .nothing written⟩)
      | tooManyDigits count => exact .inl (.inl ⟨count, written⟩)
      | tooDeep => exact .inl (.inr written)
  | ok value =>
      cases reported : reportsError value with
      | false => exact .inr (.inl ⟨value, .value written reported⟩)
      | true =>
          cases value with
          | obj members => exact .inr (.inr ⟨members, rfl, reported⟩)
          | _ => cases reported

/-- Loading output crashes only if it is unread, and otherwise goes on with what it shows. -/
theorem crashes_loaded_iff (operation : String) (stdout : Option String)
    (next : Json → Except Fault α) :
    Crashes (loadOutput operation stdout >>= next) ↔
      Unread stdout ∨ ∃ value, Shows stdout value ∧ Crashes (next value) := by
  constructor
  · intro crash
    rcases output_cases stdout with unread | ⟨value, shows⟩ | ⟨members, written, reported⟩
    · exact .inl unread
    · rw [bind_of_ok (loadOutput_of_shown operation shows)] at crash
      exact .inr ⟨value, shows, crash⟩
    · rw [loadOutput_of_reported operation written reported] at crash
      obtain ⟨_, ⟨⟩, told⟩ := crash
      cases told
  · rintro (unread | ⟨value, shows, crash⟩)
    · exact crashes_bind_iff.mpr (.inl (loadOutput_of_unread operation unread))
    · rw [bind_of_ok (loadOutput_of_shown operation shows)]
      exact crash

def AvailableUpdate.Unreadable (entry : Entry) : Prop :=
  (field "SizeBytes" entry).IsInfinite ∨
    (field "Categories" entry).isPresent = true ∧ ∀ text, field "Categories" entry ≠ .str text

theorem AvailableUpdate.neverTells_ofEntry (entry : Entry) : NeverTells (ofEntry entry) :=
  .bind (Json.neverTells_toInteger _) fun _ => .bind (Json.neverTells_asText _) fun _ => .ok _

theorem AvailableUpdate.crashes_ofEntry_iff (entry : Entry) :
    Crashes (ofEntry entry) ↔ Unreadable entry := by
  rw [ofEntry, crashes_before_iff (Json.neverTells_toInteger _), Json.crashes_toInteger_iff]
  · rfl
  · intro size
    rw [crashes_bind_iff, Json.crashes_asText_iff]
    exact or_iff_left fun ⟨_, _, crash⟩ => not_crashes_ok _ crash

theorem UpdateOutcome.crashes_ofEntry_iff (entry : Entry) :
    Crashes (UpdateOutcome.ofEntry entry) ↔ (field "ResultCode" entry).IsInfinite := by
  rw [UpdateOutcome.ofEntry, crashes_bind_iff, Json.crashes_toInteger_iff]
  exact or_iff_left fun ⟨_, _, crash⟩ => not_crashes_ok _ crash

theorem UpdateOutcome.neverTells_ofEntry (entry : Entry) :
    NeverTells (UpdateOutcome.ofEntry entry) :=
  .bind (Json.neverTells_toInteger _) fun _ => .ok _

inductive Installation.Unreadable (report : Entry) : Prop
  | numericUpdates (numeric : (field "Updates" report).isNumeric = true)
  | infiniteOutcome {entry : Entry} (listed : entry ∈ records (field "Updates" report))
      (infinite : (field "ResultCode" entry).IsInfinite)
  | infiniteCode (infinite : (field "ResultCode" report).IsInfinite)
  | infiniteCount (infinite : (field "UpdateCount" report).IsInfinite)

theorem crashes_records_iff {read : List Entry → Except Fault α} (value : Json) :
    Crashes (entries value >>= read) ↔
      value.isNumeric = true ∨ value.isNumeric = false ∧ Crashes (read (records value)) := by
  rw [entries_eq]
  cases value.isNumeric with
  | true => exact iff_of_true ⟨_, rfl, rfl⟩ (.inl rfl)
  | false =>
      constructor
      · exact fun crash => .inr ⟨rfl, crash⟩
      · rintro (⟨⟨⟩⟩ | ⟨_, crash⟩)
        exact crash

theorem installedUpdates_crash_iff (stdout : Option String) :
    Crashes (InstalledUpdate.parse stdout) ↔
      Unread stdout ∨ ∃ value, Shows stdout value ∧ value.isNumeric = true := by
  rw [InstalledUpdate.parse, crashes_loaded_iff]
  simp only [crashes_records_iff, not_crashes_ok, and_false, or_false]

theorem availableUpdates_crash_iff (stdout : Option String) :
    Crashes (AvailableUpdate.parse stdout) ↔ Unread stdout ∨ ∃ value, Shows stdout value ∧
      (value.isNumeric = true ∨ ∃ entry ∈ records value, AvailableUpdate.Unreadable entry) := by
  have reads (value : Json) :
      Crashes (entries value >>= fun listed => listed.mapM AvailableUpdate.ofEntry) ↔
        value.isNumeric = true ∨ ∃ entry ∈ records value, AvailableUpdate.Unreadable entry := by
    rw [crashes_records_iff, crashes_mapM_iff AvailableUpdate.neverTells_ofEntry]
    simp only [AvailableUpdate.crashes_ofEntry_iff]
    cases value.isNumeric <;> simp
  rw [AvailableUpdate.parse, crashes_loaded_iff]
  simp only [reads]

theorem crashes_ofReport_iff (operation : String) (report : Entry) :
    Crashes (Installation.ofReport operation (.obj report)) ↔ Installation.Unreadable report := by
  rw [Installation.ofReport, crashes_records_iff,
    crashes_before_iff (P := (field "ResultCode" report).IsInfinite ∨
      (field "UpdateCount" report).IsInfinite) (.mapM UpdateOutcome.neverTells_ofEntry _),
    crashes_mapM_iff UpdateOutcome.neverTells_ofEntry]
  · simp only [UpdateOutcome.crashes_ofEntry_iff]
    constructor
    · rintro (numeric | ⟨_, ⟨entry, listed, infinite⟩ | infinite | infinite⟩)
      · exact .numericUpdates numeric
      · exact .infiniteOutcome listed infinite
      · exact .infiniteCode infinite
      · exact .infiniteCount infinite
    · intro unreadable
      cases numeric : (field "Updates" report).isNumeric with
      | true => exact .inl rfl
      | false =>
          refine .inr ⟨rfl, ?_⟩
          cases unreadable with
          | numericUpdates other => cases numeric.symm.trans other
          | infiniteOutcome listed infinite => exact .inl ⟨_, listed, infinite⟩
          | infiniteCode infinite => exact .inr (.inl infinite)
          | infiniteCount infinite => exact .inr (.inr infinite)
  · intro outcomes
    rw [crashes_before_iff (Json.neverTells_toInteger _), Json.crashes_toInteger_iff]
    intro code
    rw [crashes_bind_iff, Json.crashes_toInteger_iff]
    exact or_iff_left fun ⟨_, _, crash⟩ => not_crashes_ok _ crash

theorem installation_crash_iff (operation : String) (stdout : Option String) :
    Crashes (Installation.parse operation stdout) ↔ Unread stdout ∨
      ∃ report, Shows stdout (.obj report) ∧ Installation.Unreadable report := by
  rw [Installation.parse, crashes_loaded_iff]
  apply or_congr Iff.rfl
  constructor
  · rintro ⟨value, shows, crash⟩
    cases value with
    | obj report => exact ⟨report, shows, (crashes_ofReport_iff operation report).mp crash⟩
    | _ =>
        obtain ⟨_, ⟨⟩, told⟩ := crash
        cases told
  · rintro ⟨report, shows, unreadable⟩
    exact ⟨.obj report, shows, (crashes_ofReport_iff operation report).mpr unreadable⟩

theorem rebootSignals_crash_iff (stdout : Option String) :
    Crashes (RebootSignals.parse stdout) ↔ Unread stdout := by
  rw [RebootSignals.parse, crashes_loaded_iff]
  apply or_iff_left
  rintro ⟨value, _, crash⟩
  cases value <;> exact not_crashes_ok _ crash

/-- What the readings of the four scripts crash on. Whatever else a script writes, its reading gives
a value or is told as a command's fault. -/
theorem readings_crash_iff (operation : String) (stdout : Option String) :
    (Crashes (InstalledUpdate.parse stdout) ↔
      Unread stdout ∨ ∃ value, Shows stdout value ∧ value.isNumeric = true) ∧
    (Crashes (AvailableUpdate.parse stdout) ↔
      Unread stdout ∨ ∃ value, Shows stdout value ∧
        (value.isNumeric = true ∨ ∃ entry ∈ records value, AvailableUpdate.Unreadable entry)) ∧
    (Crashes (Installation.parse operation stdout) ↔
      Unread stdout ∨ ∃ report, Shows stdout (.obj report) ∧ Installation.Unreadable report) ∧
    (Crashes (RebootSignals.parse stdout) ↔ Unread stdout) :=
  ⟨installedUpdates_crash_iff stdout, availableUpdates_crash_iff stdout,
    installation_crash_iff operation stdout, rebootSignals_crash_iff stdout⟩

/-- A number on its own, an infinite size, a list of categories and a count in place of the
updates. -/
theorem noisy_output_crashes :
    InstalledUpdate.parse (some "5") = .error .wrongType ∧
      AvailableUpdate.parse (some "\x7b\"SizeBytes\": Infinity\x7d") = .error .tooLarge ∧
      AvailableUpdate.parse (some "\x7b\"Categories\": [\"Drivers\"]\x7d") =
        .error .unsupportedOperation ∧
      Installation.parse "install" (some "\x7b\"Updates\": 5\x7d") = .error .wrongType := by
  have number : document (some "5") = .ok (.int 5) := by
    simp only [document_eq, String.reduceToList]
    rfl
  have size : document (some "\x7b\"SizeBytes\": Infinity\x7d") =
      .ok (.obj [("SizeBytes", .real (.infinite false))]) := by
    simp only [document_eq, String.reduceToList]
    rfl
  have categories : document (some "\x7b\"Categories\": [\"Drivers\"]\x7d") =
      .ok (.obj [("Categories", .arr [.str "Drivers"])]) := by
    simp only [document_eq, String.reduceToList]
    rfl
  have count : document (some "\x7b\"Updates\": 5\x7d") = .ok (.obj [("Updates", .int 5)]) := by
    simp only [document_eq, String.reduceToList]
    rfl
  refine ⟨?_, ?_, ?_, ?_⟩
  · rw [InstalledUpdate.parse, bind_of_ok (loadOutput_of_shown _ (.value number rfl))]
    rfl
  · rw [AvailableUpdate.parse, bind_of_ok (loadOutput_of_shown _ (.value size rfl))]
    rfl
  · rw [AvailableUpdate.parse, bind_of_ok (loadOutput_of_shown _ (.value categories rfl))]
    rfl
  · rw [Installation.parse, bind_of_ok (loadOutput_of_shown _ (.value count rfl))]
    rfl

end Windows

end FleetPatch
