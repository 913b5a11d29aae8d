import FleetPatch.Executor.Packages
import FleetPatch.Executor.Updates

/-!
# Selections of what to change

A list of updates gives the digits of all its entries, or is refused for an entry
that is no identifier. A list of texts gives the package names among them, or is
refused because there is none.
-/

namespace FleetPatch

set_option autoImplicit false

open Windows

/-- Digits that name exactly the updates of some entries, each once. -/
structure NamesUpdates (entries : List Json) (digits : List String) : Prop where
  complete : ∀ entry ∈ entries, ∃ item ∈ digits, KbId.digits? entry = some item
  sound : ∀ item ∈ digits, ∃ entry ∈ entries, KbId.digits? entry = some item
  once : digits.Nodup

theorem mem_addDigits {digits : List String} {next item : String} :
    item ∈ addDigits digits next ↔ item ∈ digits ∨ item = next := by
  unfold addDigits
  split
  next present =>
      have member : next ∈ digits := List.contains_iff_mem.mp present
      constructor
      · exact .inl
      · rintro (held | rfl)
        · exact held
        · exact member
  · rw [List.mem_append, List.mem_singleton]

theorem nodup_addDigits {digits : List String} {next : String} (once : digits.Nodup) :
    (addDigits digits next).Nodup := by
  unfold addDigits
  split
  · exact once
  next absent =>
      refine List.nodup_append.mpr ⟨once, List.pairwise_singleton _ next, ?_⟩
      intro item held other single same
      rw [List.mem_singleton.mp single] at same
      exact absent (List.contains_iff_mem.mpr (same ▸ held))

theorem filterStep_ok {digits after : List String} {entry : Json}
    (stepped : filterStep digits entry = .ok after) :
    ∃ next, KbId.digits? entry = some next ∧ after = addDigits digits next := by
  unfold filterStep at stepped
  split at stepped
  next next found => exact ⟨next, found, (Except.ok.inj stepped).symm⟩
  · cases stepped

theorem filterStep_error {digits : List String} {entry : Json} {fault : Fault}
    (failed : filterStep digits entry = .error fault) :
    KbId.digits? entry = none ∧ ∃ cause, fault = .invalidValue cause := by
  unfold filterStep at failed
  split at failed
  · cases failed
  next unnamed => exact ⟨unnamed, _, (Except.error.inj failed).symm⟩

/-- What the fold over the entries keeps: the digits found so far name exactly the entries behind
it, besides those that it began with. -/
theorem filter_fold_ok {entries : List Json} {begun digits : List String}
    (folded : entries.foldlM filterStep begun = .ok digits) (once : begun.Nodup) :
    (∀ item, item ∈ digits ↔
      item ∈ begun ∨ ∃ entry ∈ entries, KbId.digits? entry = some item) ∧
    (∀ entry ∈ entries, (KbId.digits? entry).isSome) ∧ digits.Nodup := by
  induction entries generalizing begun with
  | nil =>
      cases folded
      refine ⟨fun item => ?_, List.forall_mem_nil _, once⟩
      simp only [List.not_mem_nil, false_and, exists_false, or_false]
  | cons entry rest ih =>
      rw [List.foldlM_cons] at folded
      obtain ⟨after, stepped, folded⟩ := exists_of_bind_ok folded
      obtain ⟨next, found, rfl⟩ := filterStep_ok stepped
      obtain ⟨members, named, single⟩ := ih folded (nodup_addDigits once)
      refine ⟨fun item => ?_, ?_, single⟩
      · have first : (∃ other ∈ entry :: rest, KbId.digits? other = some item) ↔
            item = next ∨ ∃ other ∈ rest, KbId.digits? other = some item := by
          simp only [List.mem_cons, exists_eq_or_imp, found, Option.some.injEq]
          rw [eq_comm]
        rw [members item, mem_addDigits, first, or_assoc]
      · exact List.forall_mem_cons.mpr ⟨by rw [found]; rfl, named⟩

theorem filter_fold_error {entries : List Json} {begun : List String} {fault : Fault}
    (failed : entries.foldlM filterStep begun = .error fault) :
    (∃ entry ∈ entries, KbId.digits? entry = none) ∧ ∃ cause, fault = .invalidValue cause := by
  induction entries generalizing begun with
  | nil => cases failed
  | cons entry rest ih =>
      rw [List.foldlM_cons] at failed
      rcases cases_of_bind_error failed with stopped | ⟨after, _, failed⟩
      · obtain ⟨unnamed, caused⟩ := filterStep_error stopped
        exact ⟨⟨entry, List.mem_cons_self, unnamed⟩, caused⟩
      · obtain ⟨⟨other, member, unnamed⟩, caused⟩ := ih failed
        exact ⟨⟨other, List.mem_cons_of_mem _ member, unnamed⟩, caused⟩

theorem filterDigits_ok {entries : List Json} {digits : List String}
    (found : filterDigits entries = .ok digits) : NamesUpdates entries digits := by
  obtain ⟨members, named, once⟩ := filter_fold_ok found List.nodup_nil
  refine ⟨fun entry member => ?_, fun item held => ?_, once⟩
  · obtain ⟨item, spelled⟩ := Option.isSome_iff_exists.mp (named entry member)
    exact ⟨item, (members item).mpr (.inr ⟨entry, member, spelled⟩), spelled⟩
  · rcases (members item).mp held with begun | named
    · cases begun
    · exact named

theorem filterDigits_error {entries : List Json} {fault : Fault}
    (failed : filterDigits entries = .error fault) :
    (∃ entry ∈ entries, KbId.digits? entry = none) ∧ ∃ cause, fault = .invalidValue cause :=
  filter_fold_error failed

theorem requireStrings_ok {entries : List Json}
    (passed : UpdateExecutor.requireStrings entries = .ok ()) :
    ∀ entry ∈ entries, ∃ text, entry = .str text := by
  induction entries with
  | nil => exact fun _ member => nomatch member
  | cons entry rest ih =>
      obtain ⟨_, first, passed⟩ := exists_of_bind_ok passed
      refine List.forall_mem_cons.mpr ⟨?_, ih passed⟩
      cases entry with
      | str text => exact ⟨text, rfl⟩
      | _ => cases first

theorem requireStrings_error {entries : List Json} {fault : Fault}
    (failed : UpdateExecutor.requireStrings entries = .error fault) :
    fault = .wrongType ∧ ∃ entry ∈ entries, ∀ text, entry ≠ .str text := by
  induction entries with
  | nil => cases failed
  | cons entry rest ih =>
      rcases cases_of_bind_error failed with stopped | ⟨_, _, failed⟩
      · cases entry with
        | str text => cases stopped
        | _ =>
            exact ⟨(Except.error.inj stopped).symm, _, List.mem_cons_self, fun _ same =>
              nomatch same⟩
      · obtain ⟨wrong, other, member, text⟩ := ih failed
        exact ⟨wrong, other, List.mem_cons_of_mem _ member, text⟩

def packageNamed? : Json → Option String
  | .str text => if Text.trimmed text = "" then none else some (Text.trimmed text)
  | _ => none

/-- Names of packages that are exactly those of some texts, in their order; there is one. -/
structure NamesPackages (entries : List Json) (names : List String) : Prop where
  texts : ∀ entry ∈ entries, ∃ text, entry = .str text
  exactly : names = entries.filterMap packageNamed?
  inhabited : names ≠ []

theorem entryName_of_text (text : String) :
    PackageExecutor.entryName? (.str text) = .ok (packageNamed? (.str text)) := by
  by_cases blank : text = ""
  · subst blank
    rfl
  · have present : (Json.str text).isPresent = true := by
      simpa only [Json.isPresent, bne_iff_ne] using blank
    simp only [PackageExecutor.entryName?, present, if_true]
    rfl

theorem entryNames_of_texts {entries : List Json}
    (texts : ∀ entry ∈ entries, ∃ text, entry = .str text) :
    entries.mapM PackageExecutor.entryName? = .ok (entries.map packageNamed?) := by
  induction entries with
  | nil => rfl
  | cons entry rest ih =>
      obtain ⟨⟨text, rfl⟩, others⟩ := List.forall_mem_cons.mp texts
      rw [List.mapM_cons, entryName_of_text, ih others]
      rfl

theorem packageNames_of_texts {entries : List Json}
    (texts : ∀ entry ∈ entries, ∃ text, entry = .str text) :
    (∃ names, PackageExecutor.packageNames (.arr entries) = .ok names ∧
      NamesPackages entries names) ∨
    (PackageExecutor.packageNames (.arr entries) = .error (.invalidValue .noPackageName) ∧
      entries.filterMap packageNamed? = []) := by
  have kept : (entries.map packageNamed?).filterMap id = entries.filterMap packageNamed? := by
    rw [List.filterMap_map]
    rfl
  rw [PackageExecutor.packageNames, bind_of_ok (Json.elementsIfPresent_arr entries),
    bind_of_ok (entryNames_of_texts texts), kept]
  cases found : entries.filterMap packageNamed? with
  | nil => exact .inr ⟨rfl, rfl⟩
  | cons name rest => exact .inl ⟨name :: rest, rfl, texts, found.symm, List.cons_ne_nil _ _⟩

end FleetPatch
