import FleetPatch.Environment
import FleetPatch.Proofs.Words

/-!
# Files of assignments

A line assigns a value to a name, or it assigns nothing. Reading a file adds each name
that is not set with the value of the first line that assigns one to it, and keeps what
is set. A line that assigns to the empty name stops the reading, and the lines before
it have done what they do alone.
-/

namespace FleetPatch.Environment

set_option autoImplicit false

open Text (Trims)

/-- A character that ends a line of a file, alone or as a carriage return with a line feed. -/
def endsLine (character : Char) : Bool := character = '\n' || character = '\r'

/-- A text of a file and its lines; the last line may be without an end unless it is empty. -/
inductive Written : List Char → List (List Char) → Prop where
  | nothing : Written [] []
  | unended {line : List Char} (inhabited : line ≠ [])
      (unbroken : ∀ character ∈ line, endsLine character = false) : Written line [line]
  | ended {line rest : List Char} {lines : List (List Char)} {last : Char}
      (unbroken : ∀ character ∈ line, endsLine character = false) (ends : endsLine last = true)
      (single : last = '\r' → rest.head? ≠ some '\n') (behind : Written rest lines) :
      Written (line ++ last :: rest) (line :: lines)
  | returned {line rest : List Char} {lines : List (List Char)}
      (unbroken : ∀ character ∈ line, endsLine character = false)
      (behind : Written rest lines) : Written (line ++ '\r' :: '\n' :: rest) (line :: lines)

/-- A line that is no comment and has the name before its first equals sign and the value behind it,
each without the blanks around it. -/
inductive Assigns : List Char → String → String → Prop where
  | line {line before behind : List Char} {name value : String}
      (trims : Trims line (before ++ '=' :: behind))
      (uncommented : (before ++ '=' :: behind).head? ≠ some '#') (first : '=' ∉ before)
      (named : Trims before name.toList) (valued : Trims behind value.toList) :
      Assigns line name value

def FirstAssigns (lines : List (List Char)) (name value : String) : Prop :=
  ∃ before line behind, lines = before ++ line :: behind ∧ Assigns line name value ∧
    ∀ earlier ∈ before, ∀ other, ¬ Assigns earlier name other

/-- A line that assigns to the empty name, in an environment where nothing has that name. -/
def Fails (environment : Environment) (line : List Char) : Prop :=
  environment.value? "" = none ∧ ∃ value, Assigns line "" value

/-- The environment has what it had, and each name that was not set with what the lines first assign
to it. -/
structure Adds (environment : Environment) (lines : List (List Char)) (after : Environment) :
    Prop where
  kept : environment <+: after
  found : ∀ name value, after.value? name = some value ↔
    environment.value? name = some value ∨
      environment.value? name = none ∧ FirstAssigns lines name value

/-- What reading lines comes to: all of them are read, or those before the first one that fails. -/
inductive Loads (environment : Environment) (lines : List (List Char)) :
    Except Fault Unit × Environment → Prop where
  | all {after : Environment} (named : ∀ line ∈ lines, ¬ Fails environment line)
      (adds : Adds environment lines after) : Loads environment lines (.ok (), after)
  | stopped {before behind : List (List Char)} {line : List Char} {after : Environment}
      (shape : lines = before ++ line :: behind)
      (named : ∀ earlier ∈ before, ¬ Fails environment earlier) (fails : Fails environment line)
      (adds : Adds environment before after) :
      Loads environment lines (.error (.foreign .system ""), after)

section Lines

theorem assignment_nil : assignment? [] = none := rfl

theorem exists_written (text : List Char) : ∃ lines, Written text lines := by
  obtain ⟨line, rest, unbroken, ends, shape⟩ := Text.exists_first_piece endsLine text
  rw [shape]
  cases rest with
  | nil =>
      rw [List.append_nil]
      by_cases inhabited : line = []
      · exact ⟨[], inhabited ▸ .nothing⟩
      · exact ⟨[line], .unended inhabited unbroken⟩
  | cons last rest =>
      by_cases single : last = '\r' → rest.head? ≠ some '\n'
      · obtain ⟨lines, behind⟩ := exists_written rest
        exact ⟨line :: lines, .ended unbroken (ends last rfl) single behind⟩
      · simp only [Classical.not_imp, ne_eq, Classical.not_not] at single
        obtain ⟨rfl, feeds⟩ := single
        obtain ⟨more, rfl⟩ := List.head?_eq_some_iff.mp feeds
        obtain ⟨lines, behind⟩ := exists_written more
        exact ⟨line :: lines, .returned unbroken behind⟩
termination_by text.length
decreasing_by
  all_goals simp [shape]
  all_goals omega

theorem assignments_of_written {text : String} {lines : List (List Char)}
    (written : Written text.toList lines) : assignments text = lines.filterMap assignment? := by
  rw [assignments]
  change (Text.pieces endsLine text.toList).filterMap assignment? = _
  generalize text.toList = content at written
  induction written with
  | nothing => rfl
  | unended _ unbroken => rw [Text.pieces_of_uncut_end unbroken]
  | ended unbroken ends _ _ ih =>
      rw [Text.pieces_of_uncut unbroken ends, List.filterMap_cons, List.filterMap_cons, ih]
  | returned unbroken _ ih =>
      rw [Text.pieces_of_uncut unbroken rfl, Text.pieces_cons_of_cut rfl, List.filterMap_cons,
        List.filterMap_cons_none assignment_nil, List.filterMap_cons, ih]

theorem Written.mem {text line : List Char} {lines : List (List Char)} {character : Char}
    (written : Written text lines) (listed : line ∈ lines) (member : character ∈ line) :
    character ∈ text := by
  induction written with
  | nothing => cases listed
  | unended _ _ =>
      cases List.mem_singleton.mp listed
      exact member
  | ended _ _ _ _ ih | returned _ _ ih =>
      rcases List.mem_cons.mp listed with rfl | later
      · exact List.mem_append_left _ member
      · simp [ih later]

end Lines

section Assignments

variable {line : List Char} {name value : String}

theorem assignment_eq_some_iff :
    assignment? line = some (name, value) ↔ Assigns line name value := by
  unfold assignment?
  constructor
  · intro read
    obtain ⟨uncommented, found⟩ := Option.ite_none_left_eq_some.mp read
    obtain ⟨⟨before, behind⟩, cut, same⟩ := Option.map_eq_some_iff.mp found
    cases same
    obtain ⟨shape, first⟩ := Text.cutAt_eq_some_iff.mp cut
    rw [shape] at uncommented
    refine .line (Text.trim_eq_iff.mp shape) uncommented first ?_ ?_
    · rw [String.toList_ofList]
      exact Text.trims_trim before
    · rw [String.toList_ofList]
      exact Text.trims_trim behind
  · rintro ⟨trims, uncommented, first, named, valued⟩
    rw [Text.trim_eq_iff.mpr trims, if_neg uncommented, Text.cutAt_eq_some_iff.mpr ⟨rfl, first⟩]
    simp [Text.trim_eq_iff.mpr named, Text.trim_eq_iff.mpr valued]

theorem assigns_inj {other : String} {given : String} (assigns : Assigns line name value)
    (again : Assigns line other given) : name = other ∧ value = given := by
  rw [← assignment_eq_some_iff] at assigns again
  rw [assigns] at again
  cases again
  exact ⟨rfl, rfl⟩

theorem firstAssigns_cons_iff {lines : List (List Char)} :
    FirstAssigns (line :: lines) name value ↔ Assigns line name value ∨
      (∀ other, ¬ Assigns line name other) ∧ FirstAssigns lines name value := by
  constructor
  · rintro ⟨before, first, behind, shape, assigns, others⟩
    cases before with
    | nil =>
        cases shape
        exact .inl assigns
    | cons earlier before =>
        cases shape
        obtain ⟨unassigned, others⟩ := List.forall_mem_cons.mp others
        exact .inr ⟨unassigned, before, first, behind, rfl, assigns, others⟩
  · rintro (assigns | ⟨unassigned, before, first, behind, rfl, assigns, others⟩)
    · exact ⟨[], line, lines, rfl, assigns, fun _ member => nomatch member⟩
    · exact ⟨line :: before, first, behind, rfl, assigns,
        List.forall_mem_cons.mpr ⟨unassigned, others⟩⟩

theorem firstAssigns_iff {lines : List (List Char)} :
    FirstAssigns lines name value ↔ (lines.filterMap assignment?).lookup name = some value := by
  induction lines with
  | nil =>
      refine iff_of_false ?_ (by simp)
      rintro ⟨before, _, _, shape, _⟩
      simp at shape
  | cons line lines ih =>
      rw [firstAssigns_cons_iff, ih, ← assignment_eq_some_iff]
      cases read : assignment? line with
      | none =>
          have unassigned (other : String) : ¬ Assigns line name other := by
            rw [← assignment_eq_some_iff, read]
            simp
          rw [List.filterMap_cons_none read]
          simp [unassigned]
      | some assigned =>
          obtain ⟨key, given⟩ := assigned
          rw [List.filterMap_cons_some read, List.lookup_cons]
          by_cases same : name = key
          · subst same
            have reassigned : ¬ ∀ other, ¬ Assigns line name other := fun unassigned =>
              unassigned given (assignment_eq_some_iff.mp read)
            simp [reassigned]
          · have unassigned (other : String) : ¬ Assigns line name other := by
              rw [← assignment_eq_some_iff, read]
              rintro ⟨⟩
              exact same rfl
            simp [unassigned, Ne.symm same, beq_eq_false_iff_ne.mpr same]

theorem adds_iff {environment after : Environment} {lines : List (List Char)} :
    Adds environment lines after ↔ environment <+: after ∧ ∀ name, after.value? name =
      (environment.value? name).or ((lines.filterMap assignment?).lookup name) := by
  constructor
  · rintro ⟨kept, found⟩
    refine ⟨kept, fun name => Option.ext fun value => ?_⟩
    rw [found, firstAssigns_iff, Option.or_eq_some_iff]
  · rintro ⟨kept, found⟩
    refine ⟨kept, fun name value => ?_⟩
    rw [found, firstAssigns_iff, Option.or_eq_some_iff]

end Assignments

def addAll (assigned : List (String × String)) : Run Fault Environment Unit :=
  forM assigned fun assignment => setDefault assignment.1 assignment.2

theorem load_eq_addAll (text : String) : load (some text) = addAll (assignments text) := rfl

theorem addAll_append (first second : List (String × String)) :
    addAll (first ++ second) = addAll first >>= fun _ => addAll second :=
  List.forM_append

theorem addAll_singleton (name value : String) :
    addAll [(name, value)] = setDefault name value := by
  simp [addAll]

section Steps

variable {environment after : Environment} {name value : String}

theorem setDefault_apply (named : isStorable name = true) (valued : isStorable value = true) :
    setDefault name value environment =
      if (environment.value? name).isNone then
        if name = "" then (.error (.foreign .system ""), environment)
        else (.ok (), environment ++ [(name, value)])
      else (.ok (), environment) := by
  rw [setDefault, Run.bind_apply_ok (Run.state_apply environment), named, valued]
  split
  · rw [if_neg (by simp)]
    split <;> rfl
  · rfl

theorem adds_nothing (environment : Environment) : Adds environment [] environment :=
  adds_iff.mpr ⟨List.prefix_rfl, fun name => by simp⟩

variable {lines : List (List Char)} {line : List Char}

theorem Adds.passed (adds : Adds environment lines after)
    (known : ∀ name value, assignment? line = some (name, value) →
      (after.value? name).isSome = true) : Adds environment (lines ++ [line]) after := by
  obtain ⟨kept, found⟩ := adds_iff.mp adds
  refine adds_iff.mpr ⟨kept, fun name => ?_⟩
  rw [List.filterMap_append, List.lookup_append, ← Option.or_assoc, ← found]
  cases missing : after.value? name with
  | some value => rfl
  | none =>
      rw [Option.none_or]
      cases read : assignment? line with
      | none => rw [List.filterMap_cons_none read, List.filterMap_nil, List.lookup_nil]
      | some assigned =>
          obtain ⟨key, given⟩ := assigned
          have other : name ≠ key := by
            rintro rfl
            have present := known name given read
            rw [missing] at present
            cases present
          rw [List.filterMap_cons_some read, List.filterMap_nil, List.lookup_cons,
            beq_eq_false_iff_ne.mpr other, List.lookup_nil]

theorem Adds.added (adds : Adds environment lines after)
    (assigns : assignment? line = some (name, value)) :
    Adds environment (lines ++ [line]) (after ++ [(name, value)]) := by
  obtain ⟨kept, found⟩ := adds_iff.mp adds
  refine adds_iff.mpr ⟨kept.trans (List.prefix_append _ _), fun other => ?_⟩
  rw [List.filterMap_append, List.lookup_append, ← Option.or_assoc, ← found]
  rw [value?, List.lookup_append, List.filterMap_cons_some assigns, List.filterMap_nil]
  rfl

/-- Lines of which none fails leave the empty name unset. -/
theorem Adds.unnamed (adds : Adds environment lines after)
    (named : ∀ line ∈ lines, ¬ Fails environment line) (missing : environment.value? "" = none) :
    after.value? "" = none := by
  refine Option.eq_none_iff_forall_ne_some.mpr fun value present => ?_
  rcases (adds.found "" value).mp present with set | ⟨_, _, line, _, shape, assigns, _⟩
  · rw [missing] at set
    cases set
  · exact named line (by simp [shape]) ⟨missing, value, assigns⟩

theorem fails_iff_of_assigned (assigned : assignment? line = some (name, value)) :
    Fails environment line ↔ environment.value? "" = none ∧ name = "" := by
  refine and_congr_right fun _ => ?_
  constructor
  · rintro ⟨other, assigns⟩
    exact (assigns_inj (assignment_eq_some_iff.mp assigned) assigns).1
  · rintro rfl
    exact ⟨value, assignment_eq_some_iff.mp assigned⟩

theorem not_fails_of_unassigned (unassigned : assignment? line = none) :
    ¬ Fails environment line := by
  rintro ⟨_, value, assigns⟩
  rw [assignment_eq_some_iff.mpr assigns] at unassigned
  cases unassigned

/-- Reading one more line, behind lines of which none fails. -/
theorem loads_step (named : ∀ line ∈ lines, ¬ Fails environment line)
    (adds : Adds environment lines after)
    (storable : ∀ name value, assignment? line = some (name, value) →
      isStorable name = true ∧ isStorable value = true) :
    Loads environment (lines ++ [line]) (addAll ([line].filterMap assignment?) after) := by
  have extend (sound : ¬ Fails environment line) :
      ∀ earlier ∈ lines ++ [line], ¬ Fails environment earlier :=
    List.forall_mem_append.mpr ⟨named, List.forall_mem_singleton.mpr sound⟩
  cases assigned : assignment? line with
  | none =>
      rw [List.filterMap_cons_none assigned]
      refine .all (extend (not_fails_of_unassigned assigned)) (adds.passed ?_)
      simp [assigned]
  | some pair =>
      obtain ⟨name, value⟩ := pair
      obtain ⟨nameable, valuable⟩ := storable name value assigned
      rw [List.filterMap_cons_some assigned, List.filterMap_nil, addAll_singleton,
        setDefault_apply nameable valuable]
      cases missing : after.value? name with
      | some present =>
          refine .all (extend fun fails => ?_) (adds.passed ?_)
          · obtain ⟨unset, rfl⟩ := (fails_iff_of_assigned assigned).mp fails
            rw [adds.unnamed named unset] at missing
            cases missing
          · simp [assigned, missing]
      | none =>
          by_cases unnamed : name = ""
          · subst unnamed
            have unset : environment.value? "" = none := by
              cases set : environment.value? "" with
              | none => rfl
              | some value =>
                  rw [(adds.found "" value).mpr (.inl set)] at missing
                  cases missing
            exact .stopped rfl named ((fails_iff_of_assigned assigned).mpr ⟨unset, rfl⟩) adds
          · rw [if_pos Option.isNone_none, if_neg unnamed]
            refine .all (extend fun fails => ?_) (adds.added assigned)
            exact unnamed ((fails_iff_of_assigned assigned).mp fails).2

theorem loads_lines (lines : List (List Char))
    (storable : ∀ line ∈ lines, ∀ name value, assignment? line = some (name, value) →
      isStorable name = true ∧ isStorable value = true) :
    Loads environment lines (addAll (lines.filterMap assignment?) environment) := by
  induction lines using List.reverseRecOn with
  | nil => exact .all (fun _ member => nomatch member) (adds_nothing environment)
  | append_singleton lines line ih =>
      have loads := ih fun earlier member => storable earlier (List.mem_append_left _ member)
      rw [List.filterMap_append, addAll_append]
      generalize read : addAll (lines.filterMap assignment?) environment = outcome at loads
      cases loads with
      | all named adds =>
          rw [Run.bind_apply_ok read]
          exact loads_step named adds (storable line (List.mem_append_right _ List.mem_cons_self))
      | @stopped before behind failing _ shape named fails adds =>
          have parted : lines ++ [line] = before ++ failing :: (behind ++ [line]) := by simp [shape]
          rw [Run.bind_apply_error read]
          exact .stopped parted named fails adds

end Steps

section Files

variable {environment : Environment} {text : String} {lines : List (List Char)}

theorem isStorable_iff {text : String} : isStorable text = true ↔ '\x00' ∉ text.toList := by
  simp only [isStorable, List.all_eq_true, bne_iff_ne, ne_eq]
  constructor
  · exact fun storable member => storable '\x00' member rfl
  · intro absent character member zero
    have same : character = '\x00' := Char.toNat_inj.mp zero
    exact absent (same ▸ member)

/-- What a line without a NUL assigns can be stored. -/
theorem storable_of_line {line : List Char} {name value : String} (clean : '\x00' ∉ line)
    (assigned : assignment? line = some (name, value)) :
    isStorable name = true ∧ isStorable value = true := by
  obtain ⟨trims, _, _, named, valued⟩ := assignment_eq_some_iff.mp assigned
  rw [isStorable_iff, isStorable_iff]
  exact ⟨fun member => clean (trims.mem (List.mem_append_left _ (named.mem member))),
    fun member => clean (trims.mem (by simp [valued.mem member]))⟩

theorem load_of_written (written : Written text.toList lines) :
    load (some text) = addAll (lines.filterMap assignment?) := by
  rw [load_eq_addAll, assignments_of_written written]

/-- Behind lines of which none fails, a line that fails leaves what they have done. -/
theorem load_stopped {lead : String} {before behind : List (List Char)} {line : List Char}
    (storable : ∀ listed ∈ before ++ line :: behind, ∀ name value,
      assignment? listed = some (name, value) → isStorable name = true ∧ isStorable value = true)
    (written : Written text.toList (before ++ line :: behind))
    (named : ∀ earlier ∈ before, ¬ Fails environment earlier) (fails : Fails environment line)
    (alone : Written lead.toList before) :
    load (some lead) environment = (.ok (), (load (some text) environment).2) := by
  have loads : Loads environment before (addAll (before.filterMap assignment?) environment) :=
    loads_lines before fun listed member => storable listed (List.mem_append_left _ member)
  rw [load_of_written written, load_of_written alone, List.filterMap_append, addAll_append]
  generalize read : addAll (before.filterMap assignment?) environment = outcome at loads
  cases loads with
  | stopped shape _ failing _ => exact absurd failing (named _ (by simp [shape]))
  | all _ adds =>
      obtain ⟨unset, value, assigns⟩ := fails
      have assigned := assignment_eq_some_iff.mpr assigns
      obtain ⟨nameable, valuable⟩ := storable line (by simp) "" value assigned
      rw [Run.bind_apply_ok read, List.filterMap_cons_some assigned, ← List.singleton_append,
        addAll_append, addAll_singleton, Run.bind_apply_error]
      rw [setDefault_apply nameable valuable, adds.unnamed named unset]
      rfl

/-- A file of assignments keeps what is set, adds each name that is not set with what the first line
that assigns to it assigns, and nothing else. A line that assigns to the empty name fails, unless
something has that name; the reading stops there, where the lines before it alone would end. -/
theorem assignments_loaded (environment : Environment) (clean : '\x00' ∉ text.toList) :
    (∃ lines, Written text.toList lines) ∧ ∀ lines, Written text.toList lines →
      Loads environment lines (load (some text) environment) ∧
      ∀ before line behind lead, lines = before ++ line :: behind →
        (∀ earlier ∈ before, ¬ Fails environment earlier) → Fails environment line →
        Written (String.toList lead) before →
        load (some lead) environment = (.ok (), (load (some text) environment).2) := by
  refine ⟨exists_written text.toList, fun lines written => ?_⟩
  have storable : ∀ line ∈ lines, ∀ name value, assignment? line = some (name, value) →
      isStorable name = true ∧ isStorable value = true := fun line listed _ _ =>
    storable_of_line fun member => clean (written.mem listed member)
  constructor
  · rw [load_of_written written]
    exact loads_lines lines storable
  · rintro before line behind lead rfl named fails alone
    exact load_stopped storable written named fails alone

/-- A name that is set, one that is assigned twice, a comment, and a line without a name. -/
def sampleFile : String := "A = 1=2 \r\n#B=0\r B=3\nA=4\n = 5\nC=6"

def sampleLines : List (List Char) :=
  ["A = 1=2 ".toList, "#B=0".toList, " B=3".toList, "A=4".toList, " = 5".toList, "C=6".toList]

theorem sampleLines_unbroken :
    ∀ line ∈ sampleLines, ∀ character ∈ line, endsLine character = false := by
  have unbroken :
      (sampleLines.all fun line => line.all fun character => !endsLine character) = true := by
    decide +kernel
  simpa only [List.all_eq_true, Bool.not_eq_true'] using unbroken

theorem sampleFile_written : Written sampleFile.toList sampleLines := by
  have split : sampleFile.toList = "A = 1=2 ".toList ++ '\r' :: '\n' :: ("#B=0".toList ++ '\r' ::
      (" B=3".toList ++ '\n' :: ("A=4".toList ++ '\n' :: (" = 5".toList ++ '\n' ::
        "C=6".toList)))) := by decide +kernel
  rw [split]
  have unbroken := sampleLines_unbroken
  simp only [sampleLines, List.forall_mem_cons] at unbroken
  obtain ⟨first, second, third, fourth, fifth, last, _⟩ := unbroken
  exact .returned first (.ended second rfl (by decide +kernel) (.ended third rfl
    (by decide +kernel) (.ended fourth rfl (by decide +kernel) (.ended fifth rfl
      (by decide +kernel) (.unended (by decide +kernel) last)))))

theorem sample_assignments_loaded :
    '\x00' ∉ sampleFile.toList ∧
      Loads [("B", "set")] sampleLines (load (some sampleFile) [("B", "set")]) ∧
      load (some sampleFile) [("B", "set")] =
        (.error (.foreign .system ""), [("B", "set"), ("A", "1=2")]) := by
  have clean : '\x00' ∉ sampleFile.toList := by decide +kernel
  obtain ⟨_, loads⟩ := assignments_loaded [("B", "set")] clean
  exact ⟨clean, (loads sampleLines sampleFile_written).1, by decide +kernel⟩

end Files

end FleetPatch.Environment
