import FleetPatch.Proofs.Guarding
import FleetPatch.Proofs.Selections

/-!
# Filters of changing requests

A request to install or to upgrade has a filter, and only a filter that is left
out, null or an empty list means everything. The law is that any other filter
names exactly what is changed or is refused. It is broken by the values that are
taken for no value at all, and by what stops the request instead of refusing it.
-/

namespace FleetPatch.Web

set_option autoImplicit false

open Windows

/-- What a filter means: everything, only what some entries name, or nothing
that can be made out. -/
inductive Filter where
  | everything
  | entries (list : List Json)
  | unusable

namespace Filter

def ofValue : Json → Filter
  | .null | .arr [] => .everything
  | .arr list => .entries list
  | _ => .unusable

def ofBody (member : String) (body : List UInt8) : Filter :=
  if body.isEmpty then .everything
  else
    match Json.readBytes body with
    | .ok (.obj members) => ofValue (Json.memberOrNull member members)
    | _ => .unusable

end Filter

/-- False, zero, the empty text and the empty object. -/
def isVoid : Json → Bool
  | .bool value => !value
  | .int value => value == 0
  | .real value => value.isZero
  | .str text => text == ""
  | .obj members => members.isEmpty
  | .null | .arr _ => false

/-- A filter that is no list but is taken for no filter. -/
def Overlooked (member : String) (body : List UInt8) : Prop :=
  body.isEmpty = false ∧ ∃ members, Json.readBytes body = .ok (.obj members) ∧
    isVoid (Json.memberOrNull member members) = true

def TooDeep (body : List UInt8) : Prop :=
  body.isEmpty = false ∧ Json.readBytes body = .error .tooDeep

def requested (member : String) (body : List UInt8) : Except Failure (Option (List Json)) := do
  let members ← bodyMembers body
  listed? member members

inductive Read (member : String) (body : List UInt8) :
    Filter → Except Failure (Option (List Json)) → Prop where
  | everything : Read member body .everything (.ok none)
  | entries (list : List Json) (inhabited : list ≠ []) :
      Read member body (.entries list) (.ok (some list))
  | overlooked (void : Overlooked member body) : Read member body .unusable (.ok none)
  | tooDeep (deep : TooDeep body) : Read member body .unusable (.error (.fault .tooDeep))
  | refused (message : String) (solid : ¬ Overlooked member body) (shallow : ¬ TooDeep body) :
      Read member body .unusable (.error (.refused 400 message))

theorem isPresent_eq_not_isVoid {value : Json} (other : ∀ list, value ≠ .arr list)
    (given : value ≠ .null) : value.isPresent = !isVoid value := by
  cases value with
  | null => exact absurd rfl given
  | arr list => exact absurd rfl (other list)
  | bool value => exact (Bool.not_not value).symm
  | _ => rfl

/-- A member that is no list is taken for no filter, or is refused. -/
theorem listed_of_unusable {member : String} {members : List (String × Json)}
    (other : ∀ list, Json.memberOrNull member members ≠ .arr list)
    (given : Json.memberOrNull member members ≠ .null) :
    listed? member members =
      if isVoid (Json.memberOrNull member members) then .ok none
      else refuse 400 (member ++ " must be a list") := by
  have present := isPresent_eq_not_isVoid other given
  unfold listed?
  cases void : isVoid (Json.memberOrNull member members) with
  | true =>
      rw [void] at present
      simp only [present, Bool.not_true, Bool.false_eq_true, if_false, if_true]
  | false =>
      rw [void] at present
      simp only [present, Bool.not_false, if_true, Bool.false_eq_true, if_false]

theorem filter_read (member : String) (body : List UInt8) :
    Read member body (Filter.ofBody member body) (requested member body) := by
  unfold Filter.ofBody requested bodyMembers
  cases empty : body.isEmpty with
  | true => exact .everything
  | false =>
      simp only [Bool.false_eq_true, if_false]
      cases document : Json.readBytes body with
      | error fault =>
          have solid : ¬ Overlooked member body := by
            rintro ⟨_, members, read, _⟩
            rw [document] at read
            cases read
          cases fault with
          | tooDeep => exact .tooDeep ⟨empty, document⟩
          | _ =>
              refine .refused _ solid ?_
              rintro ⟨_, read⟩
              rw [document] at read
              cases read
      | ok value =>
          have shallow : ¬ TooDeep body := by
            rintro ⟨_, read⟩
            rw [document] at read
            cases read
          cases value with
          | obj members =>
              -- Only the member of an object can be taken for no filter.
              have overlooked : Overlooked member body ↔
                  isVoid (Json.memberOrNull member members) = true := by
                constructor
                · rintro ⟨_, other, read, void⟩
                  rw [document] at read
                  cases read
                  exact void
                · exact fun void => ⟨empty, members, document, void⟩
              change Read member body (Filter.ofValue (Json.memberOrNull member members))
                (listed? member members)
              cases held : Json.memberOrNull member members with
              | null =>
                  rw [listed?, held]
                  exact .everything
              | arr list =>
                  rw [listed?, held]
                  cases list with
                  | nil => exact .everything
                  | cons head tail => exact .entries _ (List.cons_ne_nil _ _)
              | _ =>
                  rw [listed_of_unusable (by rw [held]; exact fun _ same => nomatch same)
                    (by rw [held]; exact nofun)]
                  split
                  next void => exact .overlooked (overlooked.mpr void)
                  next solid => exact .refused _ (fun void => solid (overlooked.mp void)) shallow
          | _ =>
              refine .refused _ ?_ shallow
              rintro ⟨_, members, read, _⟩
              rw [document] at read
              cases read

section Reading

variable {member : String} {body : List UInt8}

theorem Overlooked.unusable (void : Overlooked member body) :
    Filter.ofBody member body = .unusable := by
  obtain ⟨filled, members, document, void⟩ := void
  simp only [Filter.ofBody, filled, document, Bool.false_eq_true, if_false]
  cases held : Json.memberOrNull member members with
  | null | arr list =>
      rw [held] at void
      cases void
  | _ => rfl

theorem TooDeep.unusable (deep : TooDeep body) : Filter.ofBody member body = .unusable := by
  simp only [Filter.ofBody, deep.1, deep.2, Bool.false_eq_true, if_false]

theorem TooDeep.requested_eq (deep : TooDeep body) :
    requested member body = .error (.fault .tooDeep) := by
  simp only [requested, bodyMembers, deep.1, deep.2, Bool.false_eq_true, if_false]
  rfl

theorem of_requested_none (asked : requested member body = .ok none) :
    Filter.ofBody member body = .everything ∨ Overlooked member body := by
  have read := filter_read member body
  rw [asked] at read
  generalize Filter.ofBody member body = filter at read ⊢
  cases read with
  | everything => exact .inl rfl
  | overlooked void => exact .inr void

theorem of_requested_some {list : List Json} (asked : requested member body = .ok (some list)) :
    list ≠ [] ∧ Filter.ofBody member body = .entries list := by
  have read := filter_read member body
  rw [asked] at read
  generalize Filter.ofBody member body = filter at read ⊢
  cases read with
  | entries _ inhabited => exact ⟨inhabited, rfl⟩

theorem requested_of_entries {list : List Json}
    (listed : Filter.ofBody member body = .entries list) :
    requested member body = .ok (some list) := by
  have read := filter_read member body
  rw [listed] at read
  generalize requested member body = result at read ⊢
  cases read with
  | entries => rfl

end Reading

/-- The changes that a route makes: the member with their filter, the commands that make them, those
among them that take everything or exactly what some entries name, and the lists that the route
cannot even refuse. -/
structure Changes where
  member : String
  changing : String → Prop
  everything : String → Prop
  naming : List Json → String → Prop
  stopping : List Json → Prop

namespace Changes

/-- What has to hold of kinds of changes: a command that takes everything names nothing, and no list
that stops the route is named. -/
structure Lawful (changes : Changes) : Prop where
  changing_of_everything : ∀ {command}, changes.everything command → changes.changing command
  not_everything : ∀ {list command}, list ≠ [] → changes.naming list command →
    ¬ changes.everything command
  not_stopping : ∀ {list command}, changes.naming list command → ¬ changes.stopping list

variable (changes : Changes) (body : List UInt8) (history : History) (response : Response)
  (unhindered : Prop)

def Made : Prop := ∃ change ∈ history.executions, changes.changing change.command

/-- The law on filters: everything is changed only without a filter, a change under a filter names
exactly its entries, and a request that nothing else hinders is refused if it changes nothing. -/
structure Filtered : Prop where
  kept : ∀ change ∈ history.executions, changes.everything change.command →
    Filter.ofBody changes.member body = .everything
  named : ∀ change ∈ history.executions, changes.changing change.command →
    Filter.ofBody changes.member body ≠ .everything →
      ∃ list, Filter.ofBody changes.member body = .entries list ∧
        changes.naming list change.command
  refused : Filter.ofBody changes.member body ≠ .everything → ¬ changes.Made history →
    unhindered → response.status = 400

inductive Broken : Prop where
  | overlooked (void : Overlooked changes.member body) (made : changes.Made history)
  | tooDeep (deep : TooDeep body) (free : unhindered)
  | stopped (list : List Json) (listed : Filter.ofBody changes.member body = .entries list)
      (stops : changes.stopping list) (free : unhindered)

structure Follows : Prop where
  made : ∀ change ∈ history.executions, changes.changing change.command →
    requested changes.member body = .ok none ∧ changes.everything change.command ∨
      ∃ list, requested changes.member body = .ok (some list) ∧
        changes.naming list change.command
  failed : ∀ failure, unhindered → requested changes.member body = .error failure →
    response = .ofFailure failure
  all : unhindered → requested changes.member body = .ok none → changes.Made history
  listed : ∀ list, unhindered → requested changes.member body = .ok (some list) →
    ¬ changes.Made history → (response.status = 400 ↔ ¬ changes.stopping list)

variable {changes body history response unhindered}

theorem Follows.not_made_of_error (follows : changes.Follows body history response unhindered)
    {failure : Failure} (asked : requested changes.member body = .error failure) :
    ¬ changes.Made history := by
  rintro ⟨change, member, changing⟩
  rcases follows.made change member changing with ⟨none, _⟩ | ⟨list, some, _⟩
  · rw [asked] at none
    cases none
  · rw [asked] at some
    cases some

theorem Follows.not_filtered (lawful : changes.Lawful)
    (follows : changes.Follows body history response unhindered)
    (filtered : changes.Filtered body history response unhindered) :
    ¬ changes.Broken body history unhindered := by
  intro broken
  cases broken with
  | overlooked void made =>
      obtain ⟨change, member, changing⟩ := made
      obtain ⟨list, listed, _⟩ := filtered.named change member changing
        (by rw [void.unusable]; exact nofun)
      rw [void.unusable] at listed
      cases listed
  | tooDeep deep free =>
      have asked : requested changes.member body = .error (.fault .tooDeep) := deep.requested_eq
      have status := filtered.refused (by rw [deep.unusable]; exact nofun)
        (follows.not_made_of_error asked) free
      rw [follows.failed _ free asked] at status
      cases status
  | stopped list listed stops free =>
      have asked := requested_of_entries listed
      have unmade : ¬ changes.Made history := by
        rintro ⟨change, member, changing⟩
        rcases follows.made change member changing with ⟨none, _⟩ | ⟨other, some, naming⟩
        · rw [asked] at none
          cases none
        · cases Option.some.inj (Except.ok.inj (asked.symm.trans some))
          exact lawful.not_stopping naming stops
      have status := filtered.refused (by rw [listed]; exact nofun) unmade free
      exact (follows.listed list free asked unmade).mp status stops

theorem Follows.filtered (lawful : changes.Lawful)
    (follows : changes.Follows body history response unhindered)
    (sound : ¬ changes.Broken body history unhindered) :
    changes.Filtered body history response unhindered where
  kept change member everything := by
    have changing := lawful.changing_of_everything everything
    rcases follows.made change member changing with ⟨none, _⟩ | ⟨list, some, naming⟩
    · rcases of_requested_none none with whole | void
      · exact whole
      · exact absurd (.overlooked void ⟨change, member, changing⟩) sound
    · exact absurd everything (lawful.not_everything (of_requested_some some).1 naming)
  named change member changing partly := by
    rcases follows.made change member changing with ⟨none, _⟩ | ⟨list, some, naming⟩
    · rcases of_requested_none none with whole | void
      · exact absurd whole partly
      · exact absurd (.overlooked void ⟨change, member, changing⟩) sound
    · exact ⟨list, (of_requested_some some).2, naming⟩
  refused partly unmade free := by
    have read := filter_read changes.member body
    generalize filters : Filter.ofBody changes.member body = filter at read partly
    generalize asked : requested changes.member body = result at read
    cases read with
    | everything => exact absurd rfl partly
    | entries list =>
        apply (follows.listed list free asked unmade).mpr
        intro stops
        exact sound (.stopped list filters stops free)
    | overlooked void => exact absurd (follows.all free asked) unmade
    | tooDeep deep => exact absurd (.tooDeep deep free) sound
    | refused message =>
        rw [follows.failed _ free asked]
        rfl

/-- The law on filters holds of a route exactly if it is not broken. -/
theorem Follows.filtered_iff (lawful : changes.Lawful)
    (follows : changes.Follows body history response unhindered) :
    changes.Filtered body history response unhindered ↔
      ¬ changes.Broken body history unhindered :=
  ⟨follows.not_filtered lawful, follows.filtered lawful⟩

end Changes

end FleetPatch.Web
