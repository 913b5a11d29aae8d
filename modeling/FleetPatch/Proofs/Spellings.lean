import FleetPatch.KbId
import FleetPatch.Proofs.Words
import Mathlib.Data.List.TakeWhile

/-!
# Spellings of identifiers

An identifier is spelled with the letters KB in any case, or without them, and digits, with blanks
around either part. Reading accepts exactly these spellings and keeps the digits as they are, so
an identifier that was read is its own only identifier, and the digits tell identifiers apart.
-/

namespace FleetPatch.KbId

set_option autoImplicit false

/-- The letters KB in any case, where the sign for kelvin counts as a K, or no letters. -/
inductive Letters : List Char → Prop where
  | absent : Letters []
  | present (first second : Char) (k : first ∈ ['k', 'K', '\u212A']) (b : second ∈ ['b', 'B']) :
      Letters [first, second]

structure Spelling where
  before : List Char
  letters : List Char
  between : List Char
  digits : List Char
  behind : List Char
  blank_before : ∀ character ∈ before, Text.isBlank character = true
  letters_spelled : Letters letters
  blank_between : ∀ character ∈ between, Text.isBlank character = true
  digits_spelled : ∀ character ∈ digits, Text.isDigit character = true
  digits_inhabited : digits ≠ []
  blank_behind : ∀ character ∈ behind, Text.isBlank character = true

namespace Spelling

def characters (spelling : Spelling) : List Char :=
  spelling.before ++ spelling.letters ++ spelling.between ++ spelling.digits ++ spelling.behind

def text (spelling : Spelling) : String := String.ofList spelling.characters

def id (spelling : Spelling) : String := "KB" ++ String.ofList spelling.digits

end Spelling

section Characters

theorem not_k_of_digit {character : Char} (digit : Text.isDigit character = true) :
    isK character = false :=
  Text.forall_digits (P := fun found => isK found = false) (by decide +kernel) digit

theorem isK_iff {character : Char} : isK character = true ↔ character ∈ ['k', 'K', '\u212A'] := by
  have kelvin : character.toNat = 0x212A ↔ character = '\u212A' := by
    constructor
    · intro code
      rw [← Char.ofNat_toNat character, code]
    · rintro rfl
      rfl
  simp [isK, kelvin, or_assoc]

theorem not_blank_of_k {character : Char} (k : character ∈ ['k', 'K', '\u212A']) :
    Text.isBlank character = false := by
  have visible : ['k', 'K', '\u212A'].all (fun letter => !Text.isBlank letter) = true := by decide
  simpa using List.all_eq_true.mp visible character k

theorem isB_iff {character : Char} : isB character = true ↔ character ∈ ['b', 'B'] := by
  simp [isB]

end Characters

section Reading

theorem dropWhile_blanks {blanks rest : List Char} {first : Char}
    (blank : ∀ character ∈ blanks, Text.isBlank character = true)
    (other : Text.isBlank first = false) :
    (blanks ++ first :: rest).dropWhile Text.isBlank = first :: rest := by
  refine Text.dropWhile_run blank ?_
  rintro next ⟨⟩
  exact other

theorem takeWhile_digits {digits behind : List Char}
    (spelled : ∀ character ∈ digits, Text.isDigit character = true)
    (blank : ∀ character ∈ behind, Text.isBlank character = true) :
    (digits ++ behind).takeWhile Text.isDigit = digits ∧
      (digits ++ behind).dropWhile Text.isDigit = behind := by
  have stops : ∀ next ∈ behind.head?, Text.isDigit next = false :=
    fun next first => Text.not_digit_of_blank (blank next (List.mem_of_mem_head? first))
  exact ⟨Text.takeWhile_run spelled stops, Text.dropWhile_run spelled stops⟩

/-- Letters stand before what is behind them. -/
theorem letters_behind (text : List Char) :
    ∃ letters, Letters letters ∧ text = letters ++ behindLetters text := by
  unfold behindLetters
  split
  · next k b rest =>
      split
      · next spelled =>
          rw [Bool.and_eq_true] at spelled
          exact ⟨[k, b], .present k b (isK_iff.mp spelled.1) (isB_iff.mp spelled.2), rfl⟩
      · exact ⟨[], .absent, rfl⟩
  · exact ⟨[], .absent, rfl⟩

/-- Blanks and letters are passed over up to the first digit. -/
theorem body_of_spelled {before letters between rest : List Char} {first : Char}
    (blankBefore : ∀ character ∈ before, Text.isBlank character = true)
    (spelled : Letters letters)
    (blankBetween : ∀ character ∈ between, Text.isBlank character = true)
    (digit : Text.isDigit first = true) :
    (behindLetters ((before ++ letters ++ between ++ first :: rest).dropWhile
      Text.isBlank)).dropWhile Text.isBlank = first :: rest := by
  have visible := Text.not_blank_of_digit digit
  cases spelled with
  | absent =>
      have blank : ∀ character ∈ before ++ between, Text.isBlank character = true := by
        simp only [List.mem_append]
        rintro character (member | member)
        · exact blankBefore character member
        · exact blankBetween character member
      have unlettered : behindLetters (first :: rest) = first :: rest := by
        cases rest <;> simp [behindLetters, not_k_of_digit digit]
      rw [List.append_nil, dropWhile_blanks blank visible, unlettered,
        List.dropWhile_cons_of_neg (by simp [visible])]
  | present k b isK isB =>
      have visibleK : Text.isBlank k = false := not_blank_of_k isK
      have lettered : behindLetters (k :: b :: (between ++ first :: rest)) =
          between ++ first :: rest := by
        simp [behindLetters, isK_iff.mpr isK, isB_iff.mpr isB]
      rw [List.append_assoc, List.append_assoc, List.cons_append, List.cons_append, List.nil_append,
        dropWhile_blanks blankBefore visibleK, lettered, dropWhile_blanks blankBetween visible]

theorem digitsOf_spelled (spelling : Spelling) :
    digitsOf? spelling.characters = some spelling.digits := by
  obtain ⟨first, more, shape⟩ := List.exists_cons_of_ne_nil spelling.digits_inhabited
  have digit : Text.isDigit first = true :=
    spelling.digits_spelled first (by simp [shape])
  have body : (behindLetters (spelling.characters.dropWhile Text.isBlank)).dropWhile
      Text.isBlank = spelling.digits ++ spelling.behind := by
    rw [Spelling.characters, List.append_assoc, shape, List.cons_append]
    exact body_of_spelled spelling.blank_before spelling.letters_spelled spelling.blank_between
      digit
  obtain ⟨taken, left⟩ := takeWhile_digits spelling.digits_spelled spelling.blank_behind
  have blank : spelling.behind.all Text.isBlank = true :=
    List.all_eq_true.mpr spelling.blank_behind
  have inhabited : spelling.digits.isEmpty = false := by simp [shape]
  simp only [digitsOf?, body, taken, left, blank, inhabited]
  rfl

theorem spelled_of_digitsOf {entry digits : List Char} (read : digitsOf? entry = some digits) :
    ∃ spelling : Spelling, spelling.characters = entry ∧ spelling.digits = digits := by
  obtain ⟨letters, spelled, parted⟩ := letters_behind (entry.dropWhile Text.isBlank)
  simp only [digitsOf?, Option.ite_none_right_eq_some, Bool.and_eq_true, Bool.not_eq_true',
    Option.some.injEq] at read
  obtain ⟨⟨inhabited, blank⟩, rfl⟩ := read
  let inner := behindLetters (entry.dropWhile Text.isBlank)
  let body := inner.dropWhile Text.isBlank
  let spelling : Spelling := {
    before := entry.takeWhile Text.isBlank
    letters := letters
    between := inner.takeWhile Text.isBlank
    digits := body.takeWhile Text.isDigit
    behind := body.dropWhile Text.isDigit
    blank_before := List.all_eq_true.mp List.all_takeWhile
    letters_spelled := spelled
    blank_between := List.all_eq_true.mp List.all_takeWhile
    digits_spelled := List.all_eq_true.mp List.all_takeWhile
    digits_inhabited := by simpa using inhabited
    blank_behind := List.all_eq_true.mp blank }
  refine ⟨spelling, ?_, rfl⟩
  calc spelling.characters
      = entry.takeWhile Text.isBlank ++ (letters ++ (inner.takeWhile Text.isBlank ++
          (body.takeWhile Text.isDigit ++ body.dropWhile Text.isDigit))) := by
        simp only [spelling, Spelling.characters, List.append_assoc]
    _ = entry.takeWhile Text.isBlank ++ (letters ++ inner) := by
        rw [List.takeWhile_append_dropWhile, List.takeWhile_append_dropWhile]
    _ = entry := by
        rw [← parted, List.takeWhile_append_dropWhile]

/-- Digits are read from a text exactly if it is one of their spellings. -/
theorem digitsOf_eq_some_iff {entry digits : List Char} :
    digitsOf? entry = some digits ↔
      ∃ spelling : Spelling, spelling.characters = entry ∧ spelling.digits = digits := by
  constructor
  · exact spelled_of_digitsOf
  · rintro ⟨spelling, rfl, rfl⟩
    exact digitsOf_spelled spelling

end Reading

section Identifiers

def firstEntry (text : String) : List Char := text.toList.takeWhile (· ≠ ',')

theorem normalize_eq (value : Json) (given : value ≠ .null) :
    normalize? value = (digitsOf? (firstEntry (sourceText value))).map fun digits =>
      "KB" ++ String.ofList digits := by
  have read : digits? value = (digitsOf? (firstEntry (sourceText value))).map String.ofList := by
    cases value with
    | null => exact absurd rfl given
    | _ => rfl
  rw [normalize?, read, Option.map_map]
  rfl

/-- The identifier of a value is the one that the first entry of its source text spells. -/
theorem normalize_eq_some_iff (value : Json) (given : value ≠ .null) {id : String} :
    normalize? value = some id ↔
      ∃ spelling : Spelling, spelling.characters = firstEntry (sourceText value) ∧
        id = spelling.id := by
  rw [normalize_eq value given]
  simp only [Option.map_eq_some_iff, digitsOf_eq_some_iff]
  constructor
  · rintro ⟨digits, ⟨spelling, written, rfl⟩, rfl⟩
    exact ⟨spelling, written, rfl⟩
  · rintro ⟨spelling, written, rfl⟩
    exact ⟨spelling.digits, ⟨spelling, written, rfl⟩, rfl⟩

theorem Letters.no_comma {letters : List Char} (spelled : Letters letters) : ',' ∉ letters := by
  cases spelled with
  | absent => exact List.not_mem_nil
  | present first second k b =>
      intro member
      simp only [List.mem_cons, List.not_mem_nil, or_false] at member
      rcases member with rfl | rfl
      · exact absurd k (by decide)
      · exact absurd b (by decide)

namespace Spelling

variable (spelling : Spelling)

theorem no_comma {character : Char} (member : character ∈ spelling.characters) :
    decide (character ≠ ',') = true := by
  apply decide_eq_true
  rintro rfl
  simp only [characters, List.mem_append] at member
  rcases member with (((before | letters) | between) | digits) | behind
  · exact absurd (spelling.blank_before _ before) (by decide)
  · exact spelling.letters_spelled.no_comma letters
  · exact absurd (spelling.blank_between _ between) (by decide)
  · exact absurd (spelling.digits_spelled _ digits) (by decide)
  · exact absurd (spelling.blank_behind _ behind) (by decide)

theorem firstEntry_text (spelling : Spelling) : firstEntry spelling.text = spelling.characters := by
  rw [firstEntry, text, String.toList_ofList, List.takeWhile_eq_self_iff]
  exact fun character => spelling.no_comma

theorem firstEntry_joined (more : String) :
    firstEntry (spelling.text ++ "," ++ more) = spelling.characters := by
  simp only [firstEntry, text, String.toList_append, String.toList_ofList, List.append_assoc]
  rw [List.takeWhile_append_of_pos fun character => spelling.no_comma]
  simp

/-- A spelling gives its identifier, whatever is joined to it behind a comma. -/
theorem normalize_text :
    normalize? (.str spelling.text) = some spelling.id ∧
      ∀ more, normalize? (.str (spelling.text ++ "," ++ more)) = some spelling.id := by
  constructor
  · apply (normalize_eq_some_iff (.str spelling.text) nofun).mpr
    exact ⟨spelling, spelling.firstEntry_text.symm, rfl⟩
  · intro more
    apply (normalize_eq_some_iff (.str (spelling.text ++ "," ++ more)) nofun).mpr
    exact ⟨spelling, (spelling.firstEntry_joined more).symm, rfl⟩

theorem id_inj {first second : Spelling} : first.id = second.id ↔ first.digits = second.digits := by
  rw [id, id, String.append_right_inj]
  exact String.ofList_inj

/-- The identifier itself, as a spelling of its digits. -/
def canonical : Spelling where
  before := []
  letters := ['K', 'B']
  between := []
  digits := spelling.digits
  behind := []
  blank_before := nofun
  letters_spelled := .present 'K' 'B' (by decide) (by decide)
  blank_between := nofun
  digits_spelled := spelling.digits_spelled
  digits_inhabited := spelling.digits_inhabited
  blank_behind := nofun

theorem canonical_text : spelling.canonical.text = spelling.id := by
  simp only [text, characters, canonical, List.nil_append, List.append_nil, String.ofList_append]
  rfl

end Spelling

theorem sourceText_of_single {value : Json} (single : ∀ items, value ≠ .arr items) :
    sourceText value = value.text := by
  cases value with
  | arr items => exact absurd rfl (single items)
  | _ => rfl

theorem normalize_of_normalized {value : Json} {id : String}
    (read : normalize? value = some id) : normalize? (.str id) = some id := by
  have given : value ≠ .null := by
    rintro rfl
    cases read
  obtain ⟨spelling, _, rfl⟩ := (normalize_eq_some_iff value given).mp read
  have again := spelling.canonical.normalize_text.1
  rw [spelling.canonical_text] at again
  exact again

/-- Nothing is read from null, a list is read as its joined texts, and from any other value an
identifier is read exactly if what stands before the first comma of its text is a spelling; it is
then KB with the digits as they stand there. So reading an identifier again changes nothing, and two
spellings, whatever is joined to them, give the same identifier exactly if they have the same
digits. -/
theorem identifiers_canonical :
    normalize? .null = none ∧
    (∀ items,
      normalize? (.arr items) = normalize? (.str (",".intercalate (items.map Json.text)))) ∧
    (∀ value : Json, value ≠ .null → (∀ items, value ≠ .arr items) → ∀ id,
      normalize? value = some id ↔ ∃ spelling : Spelling,
        spelling.characters = firstEntry value.text ∧
          id = "KB" ++ String.ofList spelling.digits) ∧
    (∀ value, normalize? (Json.ofText? (normalize? value)) = normalize? value) ∧
    (∀ (spelling : Spelling) (more : String),
      normalize? (.str (spelling.text ++ "," ++ more)) = normalize? (.str spelling.text)) ∧
    ∀ first second : Spelling,
      normalize? (.str first.text) = normalize? (.str second.text) ↔
        first.digits = second.digits := by
  refine ⟨rfl, fun items => rfl, fun value given single id => ?_, fun value => ?_,
    fun spelling more => ?_, fun first second => ?_⟩
  · rw [normalize_eq_some_iff value given, sourceText_of_single single]
    rfl
  · cases read : normalize? value with
    | none => rfl
    | some id => exact normalize_of_normalized read
  · rw [spelling.normalize_text.1, spelling.normalize_text.2]
  · rw [first.normalize_text.1, second.normalize_text.1, Option.some_inj, Spelling.id_inj]

/-- Letters in any case, a kelvin sign among them, blanks of any kind and digits of any script. -/
example : normalize? (.str "\u2003\u212Ab\t٥٠\n,KB1") = some "KB٥٠" := by decide +kernel

end Identifiers

end FleetPatch.KbId
