import FleetPatch.Inventory.Credential
import FleetPatch.Proofs.Faults
import FleetPatch.Proofs.Words

/-!
# Expanding credentials

A text has one parting into placeholders and single characters, from left to right: a character
stands for itself only if no placeholder begins with it. A credential is expanded exactly if
every placeholder in its strings names a variable that is set, and if the stack has room for
all steps; then nothing changes but the placeholders, for each of which the value stands as it
is. Otherwise the first thing in the way decides, in the order in which the credential is gone
through. How much room there is remains open: what is said holds for every stack.
-/

namespace FleetPatch.Credential

set_option autoImplicit false

section Texts

inductive Part where
  | plain (character : Char)
  | placeholder (name : List Char)

def written (name : List Char) : List Char := '$' :: '\x7b' :: (name ++ ['\x7d'])

/-- A text that begins with a placeholder: its name is not empty and ends at the first closing
brace. -/
structure Opens (text name behind : List Char) : Prop where
  shape : text = written name ++ behind
  inhabited : name ≠ []
  unclosed : '\x7d' ∉ name

/-- The parting of a text from left to right: no two placeholders share a character, and where one
begins it is taken. -/
inductive Parts : List Char → List Part → Prop where
  | done : Parts [] []
  | plain {character : Char} {behind : List Char} {parts : List Part}
      (unopened : ∀ name rest, ¬ Opens (character :: behind) name rest)
      (rest : Parts behind parts) : Parts (character :: behind) (.plain character :: parts)
  | placeholder {text name behind : List Char} {parts : List Part} (opens : Opens text name behind)
      (rest : Parts behind parts) : Parts text (.placeholder name :: parts)

theorem placeholder_eq_some_iff {text name : List Char} :
    placeholder? text = some name ↔ ∃ behind, Opens text name behind := by
  constructor
  · intro found
    unfold placeholder? at found
    split at found
    next rest =>
      dsimp only at found
      split at found
      · cases found
      next closed =>
        cases found
        rw [Text.drop_takeWhile, Bool.or_eq_true, List.isEmpty_iff, List.isEmpty_iff,
          not_or] at closed
        obtain ⟨inhabited, more⟩ := closed
        obtain ⟨last, behind, shape⟩ := List.exists_cons_of_ne_nil more
        have stops := Text.head_dropWhile (· != '\x7d') rest last (by rw [shape]; rfl)
        obtain rfl : last = '\x7d' := bne_eq_false_iff_eq.mp stops
        refine ⟨behind, ?_, inhabited, fun member => ?_⟩
        · rw [written, List.cons_append, List.cons_append, List.append_assoc,
            List.singleton_append, ← shape, List.takeWhile_append_dropWhile]
        · exact absurd (List.mem_takeWhile_imp member) (by decide)
    · cases found
  · rintro ⟨behind, rfl, inhabited, unclosed⟩
    have taken : (name ++ '\x7d' :: behind).takeWhile (· != '\x7d') = name := by
      refine Text.takeWhile_run (fun character member => ?_) ?_
      · exact bne_iff_ne.mpr fun same => unclosed (same ▸ member)
      · rintro next ⟨⟩
        rfl
    have opened : written name ++ behind = '$' :: '\x7b' :: (name ++ '\x7d' :: behind) := by
      simp [written]
    rw [opened, placeholder?]
    simp [taken, inhabited]

theorem placeholder_eq_none_iff {text : List Char} :
    placeholder? text = none ↔ ∀ name behind, ¬ Opens text name behind := by
  rw [Option.eq_none_iff_forall_not_mem]
  simp only [Option.mem_def, placeholder_eq_some_iff, not_exists]

theorem Opens.unique {text name other behind rest : List Char} (opens : Opens text name behind)
    (again : Opens text other rest) : name = other ∧ behind = rest := by
  have found := placeholder_eq_some_iff.mpr ⟨behind, opens⟩
  have same : name = other :=
    Option.some.inj (found.symm.trans (placeholder_eq_some_iff.mpr ⟨rest, again⟩))
  subst same
  exact ⟨rfl, List.append_cancel_left (opens.shape.symm.trans again.shape)⟩

theorem Opens.drop_eq {text name behind : List Char} (opens : Opens text name behind) :
    text.drop (name.length + 3) = behind := by
  have length : (written name).length = name.length + 3 := by simp [written]
  rw [opens.shape, ← length, List.drop_left]

/-- The parting as it is found. -/
def parts : List Char → List Part
  | [] => []
  | character :: behind =>
      match placeholder? (character :: behind) with
      | none => .plain character :: parts behind
      | some name => .placeholder name :: parts (behind.drop (name.length + 2))
termination_by text => text.length
decreasing_by all_goals simp; try omega

theorem parts_nil : parts [] = [] := by rw [parts]

theorem parts_of_unopened {character : Char} {behind : List Char}
    (unopened : ∀ name rest, ¬ Opens (character :: behind) name rest) :
    parts (character :: behind) = .plain character :: parts behind := by
  rw [parts, placeholder_eq_none_iff.mpr unopened]

theorem parts_of_opens {text name behind : List Char} (opens : Opens text name behind) :
    parts text = .placeholder name :: parts behind := by
  obtain ⟨character, rest, shape⟩ : ∃ character rest, text = character :: rest :=
    ⟨'$', _, opens.shape⟩
  subst shape
  rw [parts, placeholder_eq_some_iff.mpr ⟨behind, opens⟩, ← opens.drop_eq]
  rfl

theorem parts_eq_iff {text : List Char} {found : List Part} :
    parts text = found ↔ Parts text found := by
  constructor
  · rintro rfl
    fun_induction parts text with
    | case1 => exact .done
    | case2 character behind unopened ih => exact .plain (placeholder_eq_none_iff.mp unopened) ih
    | case3 character behind name opened ih =>
        obtain ⟨rest, opens⟩ := placeholder_eq_some_iff.mp opened
        have left : behind.drop (name.length + 2) = rest := opens.drop_eq
        subst left
        exact .placeholder opens ih
  · intro parted
    induction parted with
    | done => exact parts_nil
    | plain unopened _ ih => rw [parts_of_unopened unopened, ih]
    | placeholder opens _ ih => rw [parts_of_opens opens, ih]

def Part.name? : Part → Option String
  | .plain _ => none
  | .placeholder name => some (String.ofList name)

def Part.shown (environment : Environment) : Part → List Char
  | .plain character => [character]
  | .placeholder name => ((environment.value? (String.ofList name)).getD "").toList

def names (text : String) : List String := (parts text.toList).filterMap Part.name?

def replaced (environment : Environment) (text : String) : String :=
  String.ofList ((parts text.toList).flatMap (Part.shown environment))

end Texts

/-- What an expansion needs: room for a step at a depth, or a variable. -/
inductive Need where
  | room (step : Step) (depth : Nat)
  | named (name : String)

namespace Need

variable (resolver : Resolver)

def isMet : Need → Bool
  | .room step depth => resolver.stack.has step depth
  | .named name => (resolver.environment.value? name).isSome

def fault : Need → Fault
  | .room _ _ => .tooDeep
  | .named name => .inventory (.unsetVariable name)

def name? : Need → Option String
  | .room _ _ => none
  | .named name => some name

/-- A value that is given if all needs are met; the first that is not met is the fault. -/
def settle {α : Type} (needs : List Need) (value : α) : Except Fault α :=
  match needs.find? fun need => !need.isMet resolver with
  | none => .ok value
  | some need => .error need.fault

variable {resolver : Resolver} {α β : Type}

theorem settle_bind (needs more : List Need) (first : α) (second : β)
    {rest : α → Except Fault β} (settles : rest first = settle resolver more second) :
    (settle resolver needs first >>= rest) = settle resolver (needs ++ more) second := by
  unfold settle at settles ⊢
  rw [List.find?_append]
  cases needs.find? fun need => !need.isMet resolver with
  | none => exact settles
  | some need => rfl

theorem settle_made (needs : List Need) (value : α) (make : α → β) :
    (settle resolver needs value >>= fun value => .ok (make value)) =
      settle resolver needs (make value) := by
  unfold settle
  cases needs.find? fun need => !need.isMet resolver <;> rfl

theorem settle_of_met {need : Need} (met : need.isMet resolver = true) (needs : List Need)
    (value : α) : settle resolver (need :: needs) value = settle resolver needs value := by
  rw [settle, List.find?_cons_of_neg (by simp [met])]
  rfl

theorem settle_of_unmet {need : Need} (unmet : need.isMet resolver = false)
    (needs : List Need) (value : α) :
    settle resolver (need :: needs) value = .error need.fault := by
  rw [settle, List.find?_cons_of_pos (by simp [unmet])]

theorem settle_eq_ok_iff {needs : List Need} {value result : α} :
    settle resolver needs value = .ok result ↔
      (∀ need ∈ needs, need.isMet resolver = true) ∧ result = value := by
  have met : (needs.find? fun need => !need.isMet resolver) = none ↔
      ∀ need ∈ needs, need.isMet resolver = true := by simp
  rw [← met]
  unfold settle
  cases needs.find? fun need => !need.isMet resolver with
  | none =>
      constructor
      · rintro ⟨⟩
        exact ⟨rfl, rfl⟩
      · rintro ⟨_, rfl⟩
        rfl
  | some need => exact iff_of_false nofun nofun

theorem settle_eq_error_iff {needs : List Need} {value : α} {fault : Fault} :
    settle resolver needs value = .error fault ↔
      ∃ before need after, needs = before ++ need :: after ∧
        (∀ earlier ∈ before, earlier.isMet resolver = true) ∧
        need.isMet resolver = false ∧ fault = need.fault := by
  have unmet (need : Need) : (needs.find? fun need => !need.isMet resolver) = some need ↔
      ∃ before after, needs = before ++ need :: after ∧
        (∀ earlier ∈ before, earlier.isMet resolver = true) ∧
        need.isMet resolver = false := by
    simp [List.find?_eq_some_iff_append, and_comm, and_left_comm]
  have stopped : settle resolver needs value = .error fault ↔
      ∃ need, (needs.find? fun need => !need.isMet resolver) = some need ∧
        fault = need.fault := by
    unfold settle
    cases needs.find? fun need => !need.isMet resolver with
    | none => exact iff_of_false nofun (by rintro ⟨_, ⟨⟩, _⟩)
    | some need =>
        constructor
        · rintro ⟨⟩
          exact ⟨need, rfl, rfl⟩
        · rintro ⟨_, ⟨⟩, rfl⟩
          rfl
  rw [stopped]
  constructor
  · rintro ⟨need, found, told⟩
    obtain ⟨before, after, split, earlier, missing⟩ := (unmet need).mp found
    exact ⟨before, need, after, split, earlier, missing, told⟩
  · rintro ⟨before, need, after, split, earlier, missing, told⟩
    exact ⟨need, (unmet need).mpr ⟨before, after, split, earlier, missing⟩, told⟩

/-- With room for everything, the variables decide. -/
theorem settle_of_room {needs : List Need}
    (fits : ∀ step depth, .room step depth ∈ needs → resolver.stack.has step depth = true)
    (value : α) : settle resolver needs value =
      settle resolver ((needs.filterMap name?).map .named) value := by
  induction needs with
  | nil => rfl
  | cons need rest ih =>
      have ih := ih fun step depth member => fits step depth (List.mem_cons_of_mem _ member)
      cases need with
      | room step depth =>
          have met : (room step depth).isMet resolver = true := fits _ _ List.mem_cons_self
          rw [settle_of_met met, ih, List.filterMap_cons_none rfl]
      | named name =>
          have split : (named name :: rest).filterMap name? = name :: rest.filterMap name? := rfl
          rw [split, List.map_cons]
          cases met : (named name).isMet resolver with
          | true => rw [settle_of_met met, settle_of_met met, ih]
          | false => rw [settle_of_unmet met, settle_of_unmet met]

end Need

section Values

def lookups (depth : Nat) (names : List String) : List Need :=
  names.flatMap fun name => [.room (.lookup name) depth, .named name]

mutual

/-- What the expansion of a value needs, in the order in which the value is gone through; the value
stands inside `depth` lists and member sets. -/
def needs (depth : Nat) : Json → List Need
  | .obj members => .room .value depth :: .room .members depth :: needsOfMembers (depth + 1) members
  | .arr items => .room .value depth :: .room .items depth :: needsOfItems (depth + 1) items
  | .str text => .room .value depth :: .room .text depth :: lookups depth (names text)
  | _ => [.room .value depth]

def needsOfItems (depth : Nat) : List Json → List Need
  | [] => []
  | item :: rest => needs depth item ++ needsOfItems depth rest

def needsOfMembers (depth : Nat) : List (String × Json) → List Need
  | [] => []
  | (_, value) :: rest => needs depth value ++ needsOfMembers depth rest

end

mutual

/-- A value with the placeholders in its strings replaced, and all else as it is. -/
def expanded (environment : Environment) : Json → Json
  | .str text => .str (replaced environment text)
  | .arr items => .arr (expandedItems environment items)
  | .obj members => .obj (expandedMembers environment members)
  | value => value

def expandedItems (environment : Environment) : List Json → List Json
  | [] => []
  | item :: rest => expanded environment item :: expandedItems environment rest

def expandedMembers (environment : Environment) : List (String × Json) → List (String × Json)
  | [] => []
  | (name, value) :: rest =>
      (name, expanded environment value) :: expandedMembers environment rest

end

variable (resolver : Resolver)

theorem enter_settles (step : Step) (depth : Nat) :
    resolver.enter step depth = Need.settle resolver [.room step depth] () := by
  cases met : (Need.room step depth).isMet resolver with
  | true => exact (if_pos met).trans (Need.settle_of_met met [] ()).symm
  | false => exact (if_neg (Bool.eq_false_iff.mp met)).trans (Need.settle_of_unmet met [] ()).symm

theorem lookup_settles (depth : Nat) (name : String) : resolver.lookup depth name =
    Need.settle resolver [.room (.lookup name) depth, .named name]
      ((resolver.environment.value? name).getD "") := by
  rw [Resolver.lookup, enter_settles]
  refine Need.settle_bind _ [.named name] _ _ ?_
  cases found : resolver.environment.value? name with
  | none =>
      have unmet : (Need.named name).isMet resolver = false := by simp [Need.isMet, found]
      exact (Need.settle_of_unmet unmet _ _).symm
  | some value =>
      have met : (Need.named name).isMet resolver = true := by simp [Need.isMet, found]
      exact (Need.settle_of_met met [] value).symm

theorem expandFrom_skip (depth skip : Nat) (text : List Char) :
    resolver.expandFrom depth skip text = resolver.expandFrom depth 0 (text.drop skip) := by
  induction text generalizing skip with
  | nil => cases skip <;> rfl
  | cons character rest ih =>
      cases skip with
      | zero => rfl
      | succ skip => exact ih skip

theorem expandFrom_settles (depth : Nat) (text : List Char) :
    resolver.expandFrom depth 0 text =
      Need.settle resolver (lookups depth ((parts text).filterMap Part.name?))
        ((parts text).flatMap (Part.shown resolver.environment)) := by
  fun_induction parts text with
  | case1 => rfl
  | case2 character behind unopened ih =>
      rw [Resolver.expandFrom, unopened]
      dsimp only
      rw [ih]
      exact Need.settle_made _ _ _
  | case3 character behind name opened ih =>
      rw [Resolver.expandFrom, opened]
      dsimp only
      rw [lookup_settles, expandFrom_skip, ih]
      refine Need.settle_bind _ _ _ _ ?_
      exact Need.settle_made _ _ _

theorem expand_settles (depth : Nat) (text : String) : resolver.expand depth text =
    Need.settle resolver (.room .text depth :: lookups depth (names text))
      (replaced resolver.environment text) := by
  rw [Resolver.expand, enter_settles, expandFrom_settles]
  refine Need.settle_bind [_] _ _ _ ?_
  exact Need.settle_made _ _ _

mutual

/-- The needs of a value decide its expansion. -/
theorem resolveAt_settles (depth : Nat) : ∀ value, resolver.resolveAt depth value =
    Need.settle resolver (needs depth value) (expanded resolver.environment value)
  | .obj members => by
      rw [Resolver.resolveAt, enter_settles, enter_settles,
        resolveMembers_settles (depth + 1) members, needs, expanded]
      refine Need.settle_bind [_] _ _ _ (Need.settle_bind [_] _ _ _ ?_)
      exact Need.settle_made _ _ _
  | .arr items => by
      rw [Resolver.resolveAt, enter_settles, enter_settles,
        resolveItems_settles (depth + 1) items, needs, expanded]
      refine Need.settle_bind [_] _ _ _ (Need.settle_bind [_] _ _ _ ?_)
      exact Need.settle_made _ _ _
  | .str text => by
      rw [Resolver.resolveAt, enter_settles, expand_settles, needs, expanded]
      refine Need.settle_bind [_] _ _ _ ?_
      exact Need.settle_made _ _ _
  | .null | .bool _ | .int _ | .real _ =>
      (congrArg (· >>= _) (enter_settles resolver .value depth)).trans (Need.settle_made _ _ _)

theorem resolveItems_settles (depth : Nat) : ∀ items, resolver.resolveItems depth items =
    Need.settle resolver (needsOfItems depth items) (expandedItems resolver.environment items)
  | [] => rfl
  | item :: rest => by
      rw [Resolver.resolveItems, resolveAt_settles depth item, resolveItems_settles depth rest,
        needsOfItems, expandedItems]
      refine Need.settle_bind _ _ _ _ ?_
      exact Need.settle_made _ _ _

theorem resolveMembers_settles (depth : Nat) : ∀ members,
    resolver.resolveMembers depth members = Need.settle resolver (needsOfMembers depth members)
      (expandedMembers resolver.environment members)
  | [] => rfl
  | (name, value) :: rest => by
      rw [Resolver.resolveMembers, resolveAt_settles depth value,
        resolveMembers_settles depth rest, needsOfMembers, expandedMembers]
      refine Need.settle_bind _ _ _ _ ?_
      exact Need.settle_made _ _ _

end

end Values

/-- The names of the placeholders in the strings of a value, in the order in which it is gone
through. -/
def placeholders (value : Json) : List String := (needs 0 value).filterMap Need.name?

/-- The stack has room for every step of the expansion of a value. -/
def Stack.Holds (stack : Stack) (value : Json) : Prop :=
  ∀ step depth, .room step depth ∈ needs 0 value → stack.has step depth = true

variable {resolver : Resolver} {value : Json}

theorem resolve_eq (resolver : Resolver) (value : Json) : resolver.resolve value =
    Need.settle resolver (needs 0 value) (expanded resolver.environment value) :=
  resolveAt_settles resolver 0 value

theorem all_met_iff : (∀ need ∈ needs 0 value, need.isMet resolver = true) ↔
    resolver.stack.Holds value ∧
      ∀ name ∈ placeholders value, (resolver.environment.value? name).isSome = true := by
  constructor
  · intro met
    refine ⟨fun step depth member => met _ member, fun name member => ?_⟩
    obtain ⟨need, needed, named⟩ := List.mem_filterMap.mp member
    cases need with
    | room step depth => cases named
    | named other =>
        cases named
        exact met _ needed
  · rintro ⟨holds, known⟩ need member
    cases need with
    | room step depth => exact holds step depth member
    | named name => exact known name (List.mem_filterMap.mpr ⟨_, member, rfl⟩)

theorem resolve_eq_ok_iff {result : Json} : resolver.resolve value = .ok result ↔
    resolver.stack.Holds value ∧
      (∀ name ∈ placeholders value, (resolver.environment.value? name).isSome = true) ∧
      result = expanded resolver.environment value := by
  rw [resolve_eq, Need.settle_eq_ok_iff, all_met_iff, and_assoc]

theorem resolve_eq_error_iff {fault : Fault} (holds : resolver.stack.Holds value) :
    resolver.resolve value = .error fault ↔
      ∃ before name after, placeholders value = before ++ name :: after ∧
        (∀ earlier ∈ before, (resolver.environment.value? earlier).isSome = true) ∧
        resolver.environment.value? name = none ∧ fault = .inventory (.unsetVariable name) := by
  rw [resolve_eq, Need.settle_of_room holds, Need.settle_eq_error_iff]
  constructor
  · rintro ⟨before, need, after, split, earlier, missing, rfl⟩
    obtain ⟨first, rest, shape, rfl, named⟩ := List.map_eq_append_iff.mp split
    obtain ⟨name, last, rfl, rfl, rfl⟩ := List.map_eq_cons_iff.mp named
    refine ⟨first, name, last, shape, fun other member => ?_, ?_, rfl⟩
    · exact earlier _ (List.mem_map_of_mem member)
    · exact Option.isSome_eq_false_iff.mp missing |> Option.isNone_iff_eq_none.mp
  · rintro ⟨before, name, after, split, earlier, missing, rfl⟩
    refine ⟨before.map .named, .named name, after.map .named, ?_, ?_, ?_, rfl⟩
    · rw [← List.map_cons, ← List.map_append, ← split]
      rfl
    · intro need member
      obtain ⟨other, named, rfl⟩ := List.mem_map.mp member
      exact earlier other named
    · rw [Need.isMet, missing]
      rfl

/-- Expansion is structural, in a single pass, and all or nothing, on whatever stack. A credential
is expanded exactly if the stack has room for all steps and every placeholder in its strings names a
variable that is set; then nothing in it changes but the placeholders. Otherwise the fault is the
first variable that is not set or, where the stack is too small, the first thing in the way, be it a
variable that is not set or a step for which there is no room. Placeholders are those of the one
parting of a text from left to right. -/
theorem credential_settled (resolver : Resolver) (value : Json) :
    (∀ text found, parts text = found ↔ Parts text found) ∧
    (∀ result, resolver.resolve value = .ok result ↔
      resolver.stack.Holds value ∧
        (∀ name ∈ placeholders value, (resolver.environment.value? name).isSome = true) ∧
        result = expanded resolver.environment value) ∧
    (∀ fault, resolver.stack.Holds value ∧ resolver.resolve value = .error fault ↔
      resolver.stack.Holds value ∧
        ∃ before name after, placeholders value = before ++ name :: after ∧
          (∀ earlier ∈ before, (resolver.environment.value? earlier).isSome = true) ∧
          resolver.environment.value? name = none ∧ fault = .inventory (.unsetVariable name)) ∧
    (∀ fault, resolver.resolve value = .error fault ↔
      ∃ before need after, needs 0 value = before ++ need :: after ∧
        (∀ earlier ∈ before, earlier.isMet resolver = true) ∧
        need.isMet resolver = false ∧ fault = need.fault) := by
  refine ⟨fun text found => parts_eq_iff, fun result => resolve_eq_ok_iff,
    fun fault => and_congr_right fun holds => resolve_eq_error_iff holds, fun fault => ?_⟩
  rw [resolve_eq]
  exact Need.settle_eq_error_iff

def nested : Nat → Json
  | 0 => .null
  | depth + 1 => .arr [nested depth]

theorem placeholders_nested (depth count : Nat) :
    (needs depth (nested count)).filterMap Need.name? = [] := by
  induction count generalizing depth with
  | zero => rfl
  | succ count ih =>
      rw [nested, needs, needsOfItems, needsOfItems, List.append_nil, List.filterMap_cons_none rfl,
        List.filterMap_cons_none rfl, ih]

theorem nested_needs_value (depth count : Nat) :
    .room .value (depth + count) ∈ needs depth (nested count) := by
  induction count generalizing depth with
  | zero => exact List.mem_singleton_self _
  | succ count ih =>
      rw [nested, needs, needsOfItems, needsOfItems, List.append_nil, Nat.add_comm count,
        ← Nat.add_assoc]
      exact List.mem_cons_of_mem _ (List.mem_cons_of_mem _ (ih (depth + 1)))

/-- Lists in each other as deep as the stack is have no placeholder at all and are not expanded. -/
theorem nested_unresolved (resolver : Resolver) (result : Json) :
    resolver.resolve (nested resolver.stack.limit) ≠ .ok result := by
  intro resolved
  have room := (resolve_eq_ok_iff.mp resolved).1 .value _ (nested_needs_value 0 _)
  rw [resolver.stack.ends _ (Nat.le_add_left _ 0)] at room
  cases room

/-- No stack is so large that on it every credential is expanded whose variables are all set. -/
theorem deep_lists_unresolved :
    ¬ ∃ resolver : Resolver, ∀ value, (∃ result, resolver.resolve value = .ok result) ↔
      ∀ name ∈ placeholders value, (resolver.environment.value? name).isSome = true := by
  rintro ⟨resolver, claimed⟩
  have unnamed : placeholders (nested resolver.stack.limit) = [] := placeholders_nested 0 _
  obtain ⟨result, resolved⟩ := (claimed (nested resolver.stack.limit)).mpr (by simp [unnamed])
  exact nested_unresolved resolver result resolved

end FleetPatch.Credential
