import FleetPatch.Proofs.FilterLines

/-!
# What an action script says

An action script is a fixed text with three places, which are filled in one after
the other: the filter, the steps that install, and the result to report. What one
place was filled with is nothing that the next replacement could take for its own
place. The filter is one line, and what it quotes are the digits of the entries.
-/

namespace FleetPatch.Windows

set_option autoImplicit false

open Text

def filterPlace : String := "__KB_FILTER__"

def stepsPlace : String := "__INSTALL_BLOCK__"

def resultPlace : String := "__FINAL_RESULT__"

def places : List String := [filterPlace, stepsPlace, resultPlace]

def actionTemplate : String :=
  actionHead ++ filterPlace ++ actionMiddle ++ stepsPlace ++ actionChoice ++ resultPlace ++
    actionTail

namespace Action

def steps : Action → String
  | .download => ""
  | .install => installSteps

def result : Action → String
  | .download => "$DlResult"
  | .install => "$InstResult"

/-- The template with every place replaced, one after the other. -/
def filled (action : Action) (line : String) : String :=
  replaced resultPlace action.result (replaced stepsPlace action.steps
    (replaced filterPlace line actionTemplate))

theorem scriptWith_eq_parts (action : Action) (line : String) :
    action.scriptWith line = actionHead ++ (line ++ (actionMiddle ++ (action.steps ++
      (actionChoice ++ (action.result ++ actionTail))))) := by
  cases action <;> simp only [scriptWith, steps, result, String.append_assoc, String.empty_append]

end Action

/-- How everything begins that is looked for in a script. -/
def leads : List String := ["__", "Restart", "Installer"]

theorem clear_scriptOf {needle : String} {lines : List String} (broken : Clear needle "\n")
    (clear : ∀ line ∈ lines, Clear needle line) : Clear needle (scriptOf lines) := by
  induction lines with
  | nil => rfl
  | cons line rest ih =>
      obtain ⟨first, others⟩ := List.forall_mem_cons.mp clear
      cases rest with
      | nil => simpa only [scriptOf, String.intercalate_singleton] using first
      | cons next rest =>
          rw [scriptOf, String.intercalate_cons_cons]
          exact (first.append broken).append (ih others)

section Parts

variable {lead : String} (known : lead ∈ leads)

include known

theorem clear_characters {text : List Char}
    (clear : ∀ lead ∈ leads, isClear lead.toList text = true) : Clear lead (String.ofList text) :=
  clear_ofList (clear lead known)

theorem clear_parts : Clear lead actionHead ∧ Clear lead actionMiddle ∧
    Clear lead actionChoice ∧ Clear lead actionTail := by
  and_intros
  all_goals
    apply clear_scriptOf (clear_characters known (by decide +kernel))
    simp only [List.forall_mem_cons]
    and_intros
    -- one goal for each line, whose characters are at hand
    all_goals first
      | exact List.forall_mem_nil _
      | exact clear_characters known (by decide +kernel)

theorem clear_result (action : Action) : Clear lead action.result := by
  cases action <;> exact clear_characters known (by decide +kernel)

theorem clear_steps {action : Action} (apart : action = .download ∨ lead ≠ "Installer") :
    Clear lead action.steps := by
  cases action with
  | download => rfl
  | install =>
      have apart := apart.resolve_left nofun
      apply clear_scriptOf (clear_characters known (by decide +kernel))
      simp only [List.forall_mem_cons]
      and_intros
      all_goals first
        | exact List.forall_mem_nil _
        | exact clear_ofList (by revert lead; decide +kernel)

theorem clear_filterAssignment {digits : List String}
    (spelled : ∀ item ∈ digits, ∀ character ∈ item.toList, isDigit character = true) :
    Clear lead (filterAssignment digits) := by
  have absent : '_' ∉ (filterAssignment digits).toList ∧ 'R' ∉ (filterAssignment digits).toList ∧
      'I' ∉ (filterAssignment digits).toList := by
    and_intros <;> exact not_mem_filterAssignment spelled (by decide) (by decide)
  simp only [leads, List.mem_cons, List.not_mem_nil, or_false] at known
  rcases known with rfl | rfl | rfl
  · exact isClear_of_not_mem absent.1
  · exact isClear_of_not_mem absent.2.1
  · exact isClear_of_not_mem absent.2.2

theorem clear_scriptWith {action : Action} (apart : action = .download ∨ lead ≠ "Installer")
    {line : String} (clear : Clear lead line) : Clear lead (action.scriptWith line) := by
  obtain ⟨head, middle, choice, tail⟩ := clear_parts known
  rw [Action.scriptWith_eq_parts]
  exact head.append (clear.append (middle.append ((clear_steps known apart).append
    (choice.append ((clear_result known action).append tail)))))

end Parts

theorem place_begins {place : String} (known : place ∈ places) : Begins "__" place := by
  simp only [places, List.mem_cons, List.not_mem_nil, or_false] at known
  rcases known with rfl | rfl | rfl
  · exact ⟨"KB_FILTER__", rfl⟩
  · exact ⟨"INSTALL_BLOCK__", rfl⟩
  · exact ⟨"FINAL_RESULT__", rfl⟩

theorem places_apart : Clear filterPlace (stepsPlace ++ "\n") ∧
    Clear filterPlace (resultPlace ++ "\n") ∧ Clear stepsPlace (resultPlace ++ "\n") := by
  decide +kernel

theorem replaced_place {place before behind : String} (known : place ∈ places)
    (clear : Clear "__" before) (passed : Clear place behind) (text : String) :
    replaced place text (before ++ (place ++ behind)) = before ++ (text ++ behind) := by
  have begins := place_begins known
  have inhabited : place ≠ "" := by
    rintro rfl
    revert known
    decide
  rw [(clear.of_begins begins).replaced_append, replaced_needle_append inhabited,
    passed.replaced_eq]

/-- Filling in the places one after the other puts each text in its own place. -/
theorem filled_eq_scriptWith (action : Action) {line : String} (clear : Clear "__" line) :
    action.filled line = action.scriptWith line := by
  obtain ⟨head, middle, choice, tail⟩ := clear_parts (List.mem_cons_self : "__" ∈ leads)
  have steps : Clear "__" action.steps := clear_steps List.mem_cons_self (.inr (by decide))
  obtain ⟨filter, step, result⟩ : filterPlace ∈ places ∧ stepsPlace ∈ places ∧
      resultPlace ∈ places := by decide
  obtain ⟨filter_steps, filter_result, steps_result⟩ := places_apart
  have behindResult {place : String} (known : place ∈ places)
      (apart : Clear place (resultPlace ++ "\n")) :
      Clear place (actionChoice ++ (resultPlace ++ actionTail)) :=
    (choice.of_begins (place_begins known)).append
      (clear_append_behind apart (scriptOf_begins _ _) (tail.of_begins (place_begins known)))
  have behindFilter : Clear filterPlace
      (actionMiddle ++ (stepsPlace ++ (actionChoice ++ (resultPlace ++ actionTail)))) :=
    (middle.of_begins (place_begins filter)).append (clear_append_behind filter_steps
      ((scriptOf_begins _ _).append _) (behindResult filter filter_result))
  have first := replaced_place filter head behindFilter line
  have second := replaced_place step ((head.append clear).append middle)
    (behindResult step steps_result) action.steps
  have third := replaced_place result
    ((((head.append clear).append middle).append steps).append choice)
    (tail.of_begins (place_begins result)) action.result
  simp only [String.append_assoc] at first second third
  rw [Action.filled, actionTemplate, Action.scriptWith_eq_parts]
  simp only [String.append_assoc]
  rw [first, second, third]

theorem scriptWith_inj {action : Action} {line other : String} :
    action.scriptWith line = action.scriptWith other ↔ line = other := by
  rw [Action.scriptWith_eq_parts, Action.scriptWith_eq_parts, String.append_right_inj,
    String.append_left_inj]

theorem script_cases (action : Action) (entries : List Json) :
    ((∀ entry ∈ entries, KbId.normalize? entry ≠ none) ∧
      filterLine entries = .ok (filterAssignment (distinctDigits entries)) ∧
      action.script entries = .ok (action.scriptWith (filterAssignment (distinctDigits entries)))) ∨
    ((∃ entry ∈ entries, KbId.normalize? entry = none) ∧
      ∃ cause, action.script entries = .error (.invalidValue cause)) := by
  rw [Action.script, filterLine]
  rcases filterDigits_cases entries with ⟨named, found⟩ | ⟨unnamed, cause, failed⟩
  · rw [found]
    exact .inl ⟨named, rfl, rfl⟩
  · rw [failed]
    exact .inr ⟨unnamed, cause, rfl⟩

theorem script_eq {action : Action} {entries : List Json} {script : String}
    (scripted : action.script entries = .ok script) :
    script = action.scriptWith (filterAssignment (distinctDigits entries)) := by
  rcases script_cases action entries with ⟨_, _, same⟩ | ⟨_, cause, failed⟩
  · rw [same] at scripted
    exact (Except.ok.inj scripted).symm
  · rw [failed] at scripted
    cases scripted

/-- What the script of an action says about some entries: it is the fixed text of the action with
one filter line, which quotes the digits of the identifiers of the entries and nothing else. -/
structure CarriesFilter (action : Action) (entries : List Json) (line script : String) : Prop where
  filled : script = action.filled line
  unbroken : '\n' ∉ line.toList
  listed : line = filterAssignment (quotedTexts line)
  named : (quotedTexts line).map ("KB" ++ ·) = distinctIds entries
  spelled : ∀ item ∈ quotedTexts line,
    item ≠ "" ∧ ∀ character ∈ item.toList, isDigit character = true
  everything : line = "$KBFilter = @()" ↔ entries = []
  complete : ∀ place ∈ places, contains script place = false
  downloads : action = .download → contains script "Installer" = false
  running : ∀ command ∈ [restartCommand, "Restart-Computer"], contains script command = false

theorem filterAssignment_empty {entries : List Json}
    (named : ∀ entry ∈ entries, KbId.normalize? entry ≠ none) :
    filterAssignment (distinctDigits entries) = "$KBFilter = @()" ↔ entries = [] := by
  constructor
  · intro empty
    have none : distinctDigits entries = [] := by
      rw [← quotedTexts_distinct, empty, ← filterAssignment_nil]
      exact quotedTexts_filterAssignment (List.forall_mem_nil _)
    cases entries with
    | nil => rfl
    | cons entry rest =>
        exfalso
        cases found : KbId.digits? entry with
        | none => exact named entry List.mem_cons_self (normalize_eq_none.mpr found)
        | some digits =>
            have member : digits ∈ distinctDigits (entry :: rest) :=
              List.mem_eraseDups.mpr (List.mem_filterMap.mpr ⟨entry, List.mem_cons_self, found⟩)
            rw [none] at member
            cases member
  · rintro rfl
    rfl

theorem carriesFilter_of_named (action : Action) {entries : List Json}
    (named : ∀ entry ∈ entries, KbId.normalize? entry ≠ none) :
    CarriesFilter action entries (filterAssignment (distinctDigits entries))
      (action.scriptWith (filterAssignment (distinctDigits entries))) := by
  have spelled : ∀ item ∈ distinctDigits entries, ∀ character ∈ item.toList,
      isDigit character = true := fun item member => (digits_of_mem_distinct member).2
  have quoted := quotedTexts_distinct entries
  have clear (lead : String) {needle : String} (known : lead ∈ leads)
      (apart : action = .download ∨ lead ≠ "Installer") (begins : Begins lead needle)
      (inhabited : needle ≠ "") :
      contains (action.scriptWith (filterAssignment (distinctDigits entries))) needle = false :=
    ((clear_scriptWith known apart (clear_filterAssignment known spelled)).of_begins
      begins).contains inhabited
  exact {
    filled := (filled_eq_scriptWith action
      (clear_filterAssignment List.mem_cons_self spelled)).symm
    unbroken := not_mem_filterAssignment spelled (by decide) (by decide)
    listed := by rw [quoted]
    named := by rw [quoted, distinctIds_eq]
    spelled := fun item member => digits_of_mem_distinct (quoted ▸ member)
    everything := filterAssignment_empty named
    complete := by
      intro place known
      refine clear "__" List.mem_cons_self (.inr (by decide)) (place_begins known) ?_
      rintro rfl
      revert known
      decide
    downloads := fun download =>
      clear "Installer" (by decide) (.inl download) ⟨"", by decide⟩ (by decide)
    running := by
      intro command known
      simp only [List.mem_cons, List.not_mem_nil, or_false] at known
      rcases known with rfl | rfl
      · exact clear "Restart" (by decide) (.inr (by decide)) ⟨"-Computer -Force", rfl⟩ (by decide)
      · exact clear "Restart" (by decide) (.inr (by decide)) ⟨"-Computer", rfl⟩ (by decide) }

/-- The script of an action is refused when some entry is no identifier. Else it carries exactly the
requested filter, and the same filter makes the same script. -/
theorem script_carries_filter (action : Action) (entries : List Json) :
    ((∃ cause, action.script entries = .error (.invalidValue cause)) ↔
      ∃ entry ∈ entries, KbId.normalize? entry = none) ∧
    ((∀ entry ∈ entries, KbId.normalize? entry ≠ none) → ∃ line script,
      filterLine entries = .ok line ∧ action.script entries = .ok script ∧
        CarriesFilter action entries line script) ∧
    ∀ others script another, action.script entries = .ok script →
      action.script others = .ok another →
        (script = another ↔ distinctIds entries = distinctIds others) := by
  refine ⟨?_, fun named => ?_, fun others script another scripted again => ?_⟩
  · rcases script_cases action entries with ⟨named, _, scripted⟩ | ⟨unnamed, cause, failed⟩
    · refine iff_of_false ?_ ?_
      · rintro ⟨cause, failed⟩
        rw [scripted] at failed
        cases failed
      · rintro ⟨entry, member, unnamed⟩
        exact named entry member unnamed
    · exact iff_of_true ⟨cause, failed⟩ unnamed
  · rcases script_cases action entries with ⟨_, lined, scripted⟩ | ⟨⟨entry, member, unnamed⟩, _⟩
    · exact ⟨_, _, lined, scripted, carriesFilter_of_named action named⟩
    · exact absurd unnamed (named entry member)
  · rw [script_eq scripted, script_eq again, scriptWith_inj, filterAssignment_distinct_inj,
      distinctIds_inj]

end FleetPatch.Windows
