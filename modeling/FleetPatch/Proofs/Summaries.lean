import FleetPatch.Windows.InstalledUpdate

/-!
# Summaries of installed updates

The fold over the dates of a listing carries the earliest and the latest of those that it has
passed, so at its end it has found the first and the last day on which an update was installed.
-/

namespace FleetPatch.Windows

set_option autoImplicit false

/-- Two of some dates, before the first and behind the second of which there is none. -/
structure Spans (dates : List Date) (range : Date × Date) : Prop where
  first : range.1 ∈ dates
  last : range.2 ∈ dates
  earliest : ∀ date ∈ dates, date.before range.1 = false
  latest : ∀ date ∈ dates, range.2.before date = false

section Order

variable {date other third : Date}

theorem before_false_iff : date.before other = false ↔
    other.year < date.year ∨ other.year = date.year ∧ (other.month < date.month ∨
      other.month = date.month ∧ other.day ≤ date.day) := by
  simp only [Date.before, Bool.or_eq_false_iff, Bool.and_eq_false_iff, decide_eq_false_iff_not,
    beq_eq_false_iff_ne]
  omega

theorem before_asymm (sooner : date.before other = true) : other.before date = false := by
  simp only [Date.before, Bool.or_eq_true, Bool.and_eq_true, decide_eq_true_eq, beq_iff_eq]
    at sooner
  rw [before_false_iff]
  omega

theorem before_self (date : Date) : date.before date = false :=
  before_false_iff.mpr (by omega)

theorem before_false_trans (first : other.before date = false)
    (second : third.before other = false) : third.before date = false := by
  rw [before_false_iff] at first second ⊢
  omega

end Order

theorem Spans.single (date : Date) : Spans [date] (date, date) where
  first := List.mem_singleton_self _
  last := List.mem_singleton_self _
  earliest := List.forall_mem_singleton.mpr (before_self date)
  latest := List.forall_mem_singleton.mpr (before_self date)

theorem chosen_mem {condition : Prop} [Decidable condition] {dates : List Date} {bound date : Date}
    (member : bound ∈ dates) : (if condition then date else bound) ∈ dates ++ [date] := by
  split
  · exact List.mem_append_right _ (List.mem_singleton_self date)
  · exact List.mem_append_left _ member

/-- With one date more, either bound is what it was or the date. -/
theorem Spans.widen {dates : List Date} {first last : Date} (spans : Spans dates (first, last))
    (date : Date) :
    Spans (dates ++ [date]) (if date.before first then date else first,
      if last.before date then date else last) where
  first := chosen_mem spans.first
  last := chosen_mem spans.last
  earliest := by
    dsimp only
    split
    · next sooner =>
        refine List.forall_mem_append.mpr ⟨fun earlier member => ?_, ?_⟩
        · exact before_false_trans (before_asymm sooner) (spans.earliest earlier member)
        · exact List.forall_mem_singleton.mpr (before_self date)
    · next later =>
        exact List.forall_mem_append.mpr ⟨spans.earliest,
          List.forall_mem_singleton.mpr (Bool.eq_false_iff.mpr later)⟩
  latest := by
    dsimp only
    split
    · next later =>
        refine List.forall_mem_append.mpr ⟨fun earlier member => ?_, ?_⟩
        · exact before_false_trans (spans.latest earlier member) (before_asymm later)
        · exact List.forall_mem_singleton.mpr (before_self date)
    · next sooner =>
        exact List.forall_mem_append.mpr ⟨spans.latest,
          List.forall_mem_singleton.mpr (Bool.eq_false_iff.mpr sooner)⟩

inductive Ranges (dates : List Date) : String → Prop where
  | undated (none : dates = []) : Ranges dates "N/A"
  | dated (range : Date × Date) (spans : Spans dates range) :
      Ranges dates (range.1.iso ++ " to " ++ range.2.iso)

/-- The summary of a listing: how many updates there are, how many of them concern security, and
from which day to which they were installed. -/
inductive Sums (updates : List InstalledUpdate) : String → Prop where
  | lines (range : String) (ranges : Ranges (updates.filterMap (·.installedOn)) range) :
      Sums updates (s!"Total updates: {updates.length}\n" ++
        s!"Security updates: {(updates.filter InstalledUpdate.isSecurity).length}\n" ++
        "Date range: " ++ range)

namespace InstalledUpdate

theorem dateRange_cons_spans (date : Date) (dates : List Date) :
    ∃ range, dateRange? (date :: dates) = some range ∧ Spans (date :: dates) range := by
  -- The fold carries a range that spans what it has passed, the first date at first.
  have carried (passed coming : List Date) (range : Date × Date) (spans : Spans passed range) :
      ∃ last, coming.foldl widened (some range) = some last ∧ Spans (passed ++ coming) last := by
    induction coming generalizing passed range with
    | nil => exact ⟨range, rfl, (List.append_nil passed).symm ▸ spans⟩
    | cons next coming continued =>
        obtain ⟨last, folded, wide⟩ := continued _ _ (spans.widen next)
        rw [List.append_assoc] at wide
        exact ⟨last, folded, wide⟩
  exact carried [date] dates (date, date) (.single date)

theorem dateRange_ranges (dates : List Date) : Ranges dates
    (match dateRange? dates with
    | some (first, last) => first.iso ++ " to " ++ last.iso
    | none => "N/A") := by
  cases dates with
  | nil => exact .undated rfl
  | cons date rest =>
      obtain ⟨range, found, spans⟩ := dateRange_cons_spans date rest
      rw [found]
      exact .dated range spans

theorem summary_sums (updates : List InstalledUpdate) :
    Sums updates (InstalledUpdate.summary updates) :=
  .lines _ (dateRange_ranges _)

end InstalledUpdate

end FleetPatch.Windows
