import FleetPatch.Proofs.Needles
import FleetPatch.Proofs.Selections

/-!
# Lines that filter updates

A filter line quotes the digits of its entries, each once and in the order of
their first mention. Nothing but decimal digits stands between its quotes, so the
quotes are those of the line itself and the items can be read back from it.
-/

namespace FleetPatch.Windows

set_option autoImplicit false

def distinctIds (entries : List Json) : List String :=
  (entries.filterMap KbId.normalize?).eraseDups

def distinctDigits (entries : List Json) : List String :=
  (entries.filterMap KbId.digits?).eraseDups

/-- Every second one of some pieces. -/
def enclosed : List (List Char) → List (List Char)
  | _ :: piece :: rest => piece :: enclosed rest
  | [_] | [] => []

def quotedTexts (line : String) : List String :=
  (enclosed (Text.pieces (· = '\'') line.toList)).map String.ofList

section Distinct

variable {α β : Type} [BEq α] [BEq β]

/-- Leaving out what was there before does not depend on how the items are spelled. -/
theorem eraseDups_map {spell : α → β}
    (faithful : ∀ first second, (spell first == spell second) = (first == second))
    (items : List α) : (items.map spell).eraseDups = items.eraseDups.map spell := by
  have loop (earlier : List α) : List.eraseDupsBy.loop (· == ·) (items.map spell)
      (earlier.map spell) = (List.eraseDupsBy.loop (· == ·) items earlier).map spell := by
    induction items generalizing earlier with
    | nil => exact (List.map_reverse ..).symm
    | cons item rest ih =>
        have present : (earlier.map spell).any (spell item == ·) = earlier.any (item == ·) := by
          simp only [List.any_map, Function.comp_def, faithful]
        rw [List.map_cons, List.eraseDupsBy.loop, List.eraseDupsBy.loop, present]
        split
        · exact ih earlier
        · exact ih (item :: earlier)
  exact loop []

end Distinct

theorem foldl_addDigits (items begun : List String) :
    items.foldl addDigits begun = List.eraseDupsBy.loop (· == ·) items begun.reverse := by
  induction items generalizing begun with
  | nil => exact (List.reverse_reverse begun).symm
  | cons item rest ih =>
      rw [List.foldl_cons, ih, addDigits, List.eraseDupsBy.loop, List.any_reverse,
        ← List.contains_eq_any_beq]
      cases begun.contains item with
      | true => rfl
      | false =>
          simp only [Bool.false_eq_true, if_false, List.reverse_append, List.reverse_singleton,
            List.singleton_append]

theorem foldlM_filterStep {entries : List Json}
    (named : ∀ entry ∈ entries, ∃ digits, KbId.digits? entry = some digits) (begun : List String) :
    entries.foldlM filterStep begun =
      .ok ((entries.filterMap KbId.digits?).foldl addDigits begun) := by
  induction entries generalizing begun with
  | nil => rfl
  | cons entry rest ih =>
      obtain ⟨⟨next, spelled⟩, others⟩ := List.forall_mem_cons.mp named
      have stepped : filterStep begun entry = .ok (addDigits begun next) := by
        rw [filterStep, spelled]
      rw [List.foldlM_cons, bind_of_ok stepped, ih others, List.filterMap_cons, spelled]
      rfl

theorem normalize_eq_none {entry : Json} :
    KbId.normalize? entry = none ↔ KbId.digits? entry = none := Option.map_eq_none_iff

/-- Entries are accepted with their digits when all of them are identifiers, and else refused. -/
theorem filterDigits_cases (entries : List Json) :
    ((∀ entry ∈ entries, KbId.normalize? entry ≠ none) ∧
      filterDigits entries = .ok (distinctDigits entries)) ∨
    ((∃ entry ∈ entries, KbId.normalize? entry = none) ∧
      ∃ cause, filterDigits entries = .error (.invalidValue cause)) := by
  cases found : filterDigits entries with
  | ok digits =>
      have named : ∀ entry ∈ entries, ∃ digits, KbId.digits? entry = some digits := by
        intro entry member
        obtain ⟨item, _, spelled⟩ := (filterDigits_ok found).complete entry member
        exact ⟨item, spelled⟩
      refine .inl ⟨fun entry member unnamed => ?_, ?_⟩
      · obtain ⟨item, spelled⟩ := named entry member
        rw [normalize_eq_none.mp unnamed] at spelled
        cases spelled
      · rw [← found, filterDigits, foldlM_filterStep named, foldl_addDigits]
        rfl
  | error fault =>
      obtain ⟨⟨entry, member, unnamed⟩, cause, rfl⟩ := filterDigits_error found
      exact .inr ⟨⟨entry, member, normalize_eq_none.mpr unnamed⟩, cause, rfl⟩

theorem distinctIds_eq (entries : List Json) :
    distinctIds entries = (distinctDigits entries).map ("KB" ++ ·) := by
  have faithful (first second : String) :
      (("KB" ++ first : String) == "KB" ++ second) = (first == second) := by
    rw [Bool.eq_iff_iff, beq_iff_eq, beq_iff_eq, String.append_right_inj]
  rw [distinctDigits, ← eraseDups_map faithful, List.map_filterMap]
  rfl

theorem distinctIds_inj {entries others : List Json} :
    distinctIds entries = distinctIds others ↔ distinctDigits entries = distinctDigits others := by
  rw [distinctIds_eq, distinctIds_eq]
  exact List.map_inj_right fun _ _ => (String.append_right_inj "KB").mp

theorem digits_spelled {entry : Json} {digits : String} (found : KbId.digits? entry = some digits) :
    digits ≠ "" ∧ ∀ character ∈ digits.toList, Text.isDigit character = true := by
  obtain ⟨text, spelled⟩ : ∃ text, (KbId.digitsOf? text).map String.ofList = some digits := by
    unfold KbId.digits? at found
    split at found
    · cases found
    · exact ⟨_, found⟩
  obtain ⟨characters, read, rfl⟩ := Option.map_eq_some_iff.mp spelled
  simp only [KbId.digitsOf?, Option.ite_none_right_eq_some, Bool.and_eq_true, Bool.not_eq_true',
    Option.some.injEq] at read
  obtain ⟨⟨inhabited, _⟩, rfl⟩ := read
  refine ⟨fun empty => ?_, fun character member => ?_⟩
  · rw [String.ofList_eq_empty_iff.mp empty] at inhabited
    cases inhabited
  · rw [String.toList_ofList] at member
    exact List.all_eq_true.mp List.all_takeWhile character member

theorem digits_of_mem_distinct {entries : List Json} {item : String}
    (member : item ∈ distinctDigits entries) :
    item ≠ "" ∧ ∀ character ∈ item.toList, Text.isDigit character = true := by
  obtain ⟨entry, _, found⟩ := List.mem_filterMap.mp (List.mem_eraseDups.mp member)
  exact digits_spelled found

/-- The items of a filter line as they stand in it. -/
def quotedItems (digits : List String) : String :=
  ", ".intercalate (digits.map fun item => "'" ++ item ++ "'")

theorem quotedItems_singleton (item : String) : quotedItems [item] = "'" ++ item ++ "'" :=
  String.intercalate_singleton

theorem quotedItems_cons_cons (item next : String) (rest : List String) :
    quotedItems (item :: next :: rest) =
      "'" ++ item ++ "'" ++ ", " ++ quotedItems (next :: rest) :=
  String.intercalate_cons_cons

theorem mem_quotedItems {digits : List String} {character : Char}
    (member : character ∈ (quotedItems digits).toList) :
    character ∈ ['\'', ',', ' '] ∨ ∃ item ∈ digits, character ∈ item.toList := by
  induction digits with
  | nil => cases member
  | cons item rest ih =>
      cases rest with
      | nil =>
          rw [quotedItems_singleton, String.toList_append, String.toList_append] at member
          grind
      | cons next rest =>
          rw [quotedItems_cons_cons] at member
          simp only [String.toList_append, List.mem_append] at member
          grind

theorem mem_filterAssignment {digits : List String} {character : Char}
    (member : character ∈ (filterAssignment digits).toList) :
    character ∈ "$KBFilter = @(', )".toList ∨ ∃ item ∈ digits, character ∈ item.toList := by
  change character ∈ ("$KBFilter = @(" ++ quotedItems digits ++ ")").toList at member
  simp only [String.toList_append, List.mem_append] at member
  have own {marks : List Char} (known : marks.all "$KBFilter = @(', )".toList.contains = true)
      (mark : character ∈ marks) : character ∈ "$KBFilter = @(', )".toList :=
    List.contains_iff_mem.mp (List.all_eq_true.mp known character mark)
  rcases member with (lead | item) | close
  · exact .inl (own (by decide +kernel) lead)
  · exact (mem_quotedItems item).imp_left (own (by decide +kernel))
  · exact .inl (own (by decide +kernel) close)

theorem not_mem_filterAssignment {digits : List String} {character : Char}
    (spelled : ∀ item ∈ digits, ∀ digit ∈ item.toList, Text.isDigit digit = true)
    (other : Text.isDigit character = false) (outside : character ∉ "$KBFilter = @(', )".toList) :
    character ∉ (filterAssignment digits).toList := by
  intro member
  rcases mem_filterAssignment member with inside | ⟨item, held, digit⟩
  · exact outside inside
  · rw [spelled item held character digit] at other
    cases other

theorem enclosed_of_quoted {before item : List Char} (rest : List Char) (unopened : '\'' ∉ before)
    (unclosed : '\'' ∉ item) :
    enclosed (Text.pieces (· = '\'') (before ++ '\'' :: (item ++ '\'' :: rest))) =
      item :: enclosed (Text.pieces (· = '\'') rest) := by
  have uncut {text : List Char} (unquoted : '\'' ∉ text) :
      ∀ character ∈ text, decide (character = '\'') = false := by
    intro character member
    exact decide_eq_false fun same => unquoted (same ▸ member)
  rw [Text.pieces_of_uncut (uncut unopened) rfl, Text.pieces_of_uncut (uncut unclosed) rfl]
  rfl

theorem enclosed_quotedItems {digits : List String} {before : List Char}
    (unquoted : ∀ item ∈ digits, '\'' ∉ item.toList) (unopened : '\'' ∉ before) :
    enclosed (Text.pieces (· = '\'') (before ++ ((quotedItems digits).toList ++ [')']))) =
      digits.map String.toList := by
  induction digits generalizing before with
  | nil =>
      rw [Text.pieces_of_uncut_end]
      · rfl
      · intro character member
        exact decide_eq_false fun same => by
          subst same
          simp [quotedItems] at member
          exact unopened member
  | cons item rest ih =>
      obtain ⟨first, others⟩ := List.forall_mem_cons.mp unquoted
      cases rest with
      | nil =>
          rw [quotedItems_singleton]
          have spelled := enclosed_of_quoted [')'] unopened first
          simpa [Text.pieces, enclosed] using spelled
      | cons next rest =>
          have spelled := enclosed_of_quoted
            ([',', ' '] ++ ((quotedItems (next :: rest)).toList ++ [')'])) unopened first
          rw [ih others (by decide)] at spelled
          rw [quotedItems_cons_cons]
          simpa using spelled

/-- What a line quotes are its items when no item holds a quote. -/
theorem quotedTexts_filterAssignment {digits : List String}
    (unquoted : ∀ item ∈ digits, '\'' ∉ item.toList) :
    quotedTexts (filterAssignment digits) = digits := by
  have line : (filterAssignment digits).toList =
      "$KBFilter = @(".toList ++ ((quotedItems digits).toList ++ [')']) := by
    change ("$KBFilter = @(" ++ quotedItems digits ++ ")").toList = _
    rw [String.toList_append, String.toList_append, List.append_assoc]
    rfl
  rw [quotedTexts, line, enclosed_quotedItems unquoted (by decide), List.map_map]
  simp [Function.comp_def]

/-- The quotes of a filter line are those of the line itself, since digits hold none. -/
theorem quotedTexts_distinct (entries : List Json) :
    quotedTexts (filterAssignment (distinctDigits entries)) = distinctDigits entries := by
  apply quotedTexts_filterAssignment
  intro item member quote
  have digit := (digits_of_mem_distinct member).2 _ quote
  revert digit
  decide

theorem filterAssignment_distinct_inj {entries others : List Json} :
    filterAssignment (distinctDigits entries) = filterAssignment (distinctDigits others) ↔
      distinctDigits entries = distinctDigits others := by
  refine ⟨fun same => ?_, congrArg filterAssignment⟩
  rw [← quotedTexts_distinct entries, same, quotedTexts_distinct]

theorem filterAssignment_nil : filterAssignment [] = "$KBFilter = @()" := rfl

end FleetPatch.Windows
