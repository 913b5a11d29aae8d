import FleetPatch.Package.Manager
import FleetPatch.Executor.Updates
import FleetPatch.Proofs.Logs
import Mathlib.Data.List.Forall2

/-!
# Faults of readings

Which faults a reading of a host's output can end with. The rules put the faults
of a computation together from those of its steps.
-/

namespace FleetPatch

set_option autoImplicit false

variable {ε α β : Type}

def FailsOnly (P : ε → Prop) (computed : Except ε α) : Prop :=
  ∀ fault, computed = .error fault → P fault

namespace FailsOnly

variable {P : ε → Prop} {computed : Except ε α}

theorem ok (value : α) : FailsOnly P (.ok value : Except ε α) := nofun

theorem error {fault : ε} (holds : P fault) : FailsOnly P (.error fault : Except ε α) := by
  rintro _ ⟨⟩
  exact holds

theorem bind {next : α → Except ε β} (first : FailsOnly P computed)
    (rest : ∀ value, FailsOnly P (next value)) : FailsOnly P (computed >>= next) := by
  intro fault failed
  rcases cases_of_bind_error failed with stopped | ⟨value, _, stopped⟩
  · exact first fault stopped
  · exact rest value fault stopped

theorem map {change : α → β} (first : FailsOnly P computed) :
    FailsOnly P (computed.map change) := by
  intro fault failed
  exact first fault (map_eq_error.mp failed)

theorem mapM {read : α → Except ε β} (reads : ∀ item, FailsOnly P (read item))
    (items : List α) : FailsOnly P (items.mapM read) := by
  induction items with
  | nil => exact ok _
  | cons head tail ih =>
      rw [List.mapM_cons]
      exact bind (reads head) fun _ => bind ih fun _ => ok _

end FailsOnly

def FailsWith (P : ε → Prop) (computed : Except ε α) : Prop :=
  ∃ fault, computed = .error fault ∧ P fault

namespace FailsWith

variable {P : ε → Prop} {computed : Except ε α}

theorem not_ok (value : α) : ¬ FailsWith P (.ok value : Except ε α) := nofun

theorem bind_iff {next : α → Except ε β} : FailsWith P (computed >>= next) ↔
    FailsWith P computed ∨ ∃ value, computed = .ok value ∧ FailsWith P (next value) := by
  cases computed with
  | error fault =>
      constructor
      · rintro ⟨_, ⟨⟩, holds⟩
        exact .inl ⟨fault, rfl, holds⟩
      · rintro (⟨_, ⟨⟩, holds⟩ | ⟨_, ⟨⟩, _⟩)
        exact ⟨fault, rfl, holds⟩
  | ok value =>
      constructor
      · exact fun failed => .inr ⟨value, rfl, failed⟩
      · rintro (failed | ⟨_, ⟨⟩, failed⟩)
        · exact absurd failed (not_ok value)
        · exact failed

/-- A list is read up to the first item whose reading fails. -/
theorem mapM_iff {read : α → Except ε β} (items : List α) :
    FailsWith P (items.mapM read) ↔ ∃ before item after, items = before ++ item :: after ∧
      (∀ earlier ∈ before, ∃ value, read earlier = .ok value) ∧ FailsWith P (read item) := by
  induction items with
  | nil =>
      apply iff_of_false (not_ok _)
      rintro ⟨before, item, after, split, _⟩
      cases before <;> cases split
  | cons head tail ih =>
      rw [List.mapM_cons, bind_iff]
      constructor
      · rintro (failed | ⟨value, headed, failed⟩)
        · exact ⟨[], head, tail, rfl, List.forall_mem_nil _, failed⟩
        · rcases bind_iff.mp failed with failed | ⟨values, _, failed⟩
          · obtain ⟨before, item, after, rfl, passed, failed⟩ := ih.mp failed
            have passed := List.forall_mem_cons.mpr ⟨⟨value, headed⟩, passed⟩
            exact ⟨head :: before, item, after, rfl, passed, failed⟩
          · exact absurd failed (not_ok _)
      · rintro ⟨before, item, after, split, passed, failed⟩
        cases before with
        | nil =>
            cases split
            exact .inl failed
        | cons first before =>
            cases split
            obtain ⟨⟨value, headed⟩, passed⟩ := List.forall_mem_cons.mp passed
            have failed := ih.mpr ⟨before, item, after, rfl, passed, failed⟩
            exact .inr ⟨value, headed, bind_iff.mpr (.inl failed)⟩

end FailsWith

theorem mapM_eq_ok_iff {read : α → Except ε β} {items : List α} {values : List β} :
    items.mapM read = .ok values ↔
      List.Forall₂ (fun item value => read item = .ok value) items values := by
  constructor
  · intro mapped
    induction items generalizing values with
    | nil =>
        cases mapped
        exact .nil
    | cons head tail ih =>
        rw [List.mapM_cons] at mapped
        obtain ⟨value, headed, mapped⟩ := exists_of_bind_ok mapped
        obtain ⟨rest, tailed, mapped⟩ := exists_of_bind_ok mapped
        cases mapped
        exact .cons headed (ih tailed)
  · intro related
    induction related with
    | nil => rfl
    | cons headed _ ih =>
        rw [List.mapM_cons, bind_of_ok headed, bind_of_ok ih]
        rfl

def Fault.blamesRequest : Fault → Bool
  | .invalidValue _ | .denied _ | .unsupportedAsset _ | .unsupportedManager _ => true
  | _ => false

abbrev Blameless (computed : Except Fault α) : Prop :=
  FailsOnly (fun fault => fault.blamesRequest = false) computed

theorem errors_blameless (reply : Reply) : Blameless reply.errors := by
  unfold Reply.errors
  cases reply.stderr with
  | none => exact .error rfl
  | some text => exact .ok _

theorem requireSuccess_blameless (reply : Reply) (label operation : String) :
    Blameless (reply.requireSuccess label operation) := by
  unfold Reply.requireSuccess
  split
  · exact .ok _
  · exact .bind (errors_blameless reply) fun _ => .error rfl

theorem succeeded_of_required {reply : Reply} {label operation : String}
    (passed : reply.requireSuccess label operation = .ok ()) : reply.succeeded = true := by
  unfold Reply.requireSuccess at passed
  split at passed
  next succeeded => exact succeeded
  · obtain ⟨_, _, failed⟩ := exists_of_bind_ok passed
    cases failed

theorem required_of_succeeded {reply : Reply} (succeeded : reply.succeeded = true)
    (label operation : String) : reply.requireSuccess label operation = .ok () := by
  rw [Reply.requireSuccess, if_pos succeeded]

theorem elements_blameless (value : Json) : Blameless value.elements := by
  cases value with
  | arr _ | str _ | obj _ => exact .ok _
  | _ => exact .error rfl

theorem toInteger_blameless (value : Json) : Blameless value.toInteger := by
  unfold Json.toInteger
  split <;> first | exact .ok _ | exact .error rfl

namespace Windows

theorem entries_blameless (value : Json) : Blameless (entries value) := by
  unfold entries
  split
  · exact .ok _
  · exact .ok _
  · exact .map (elements_blameless value)

theorem outcome_blameless (entry : Entry) : Blameless (UpdateOutcome.ofEntry entry) :=
  .bind (toInteger_blameless _) fun _ => .ok _

/-- The output of a script has a number with more digits than can be read. -/
def Overflows (stdout : Option String) : Prop :=
  ∃ count, Json.read (Text.trimmed (stdout.getD "")) = .error (.tooManyDigits count)

theorem loadOutput_blames (operation : String) (stdout : Option String) :
    FailsOnly (fun fault => fault.blamesRequest = true → Overflows stdout)
      (loadOutput operation stdout) := by
  unfold loadOutput
  dsimp only
  split
  · exact .ok _
  · cases document : Json.read (Text.trimmed (stdout.getD "")) with
    | error fault =>
        cases fault with
        | grammar => exact .ok _
        | tooManyDigits count => exact .error fun _ => ⟨count, document⟩
        | tooDeep => exact .error nofun
    | ok value =>
        cases value with
        | obj members =>
            dsimp only
            split
            · exact .error nofun
            · exact .ok _
        | _ => exact .ok _

theorem ofReport_blameless (operation : String) (report : Json) :
    Blameless (Installation.ofReport operation report) := by
  cases report with
  | obj members =>
      refine .bind (entries_blameless _) fun _ => .bind (.mapM outcome_blameless _) fun _ => ?_
      exact .bind (toInteger_blameless _) fun _ => .bind (toInteger_blameless _) fun _ => .ok _
  | _ => exact .error rfl

/-- Reading the result of an action blames the request only for a number with too many digits. -/
theorem parse_blames (operation : String) (stdout : Option String) :
    FailsOnly (fun fault => fault.blamesRequest = true → Overflows stdout)
      (Installation.parse operation stdout) := by
  refine .bind (loadOutput_blames operation stdout) fun report fault failed blamed => ?_
  rw [ofReport_blameless operation report fault failed] at blamed
  cases blamed

theorem parse_of_overflow (operation : String) {stdout : Option String}
    (overflows : Overflows stdout) : ∃ cause,
      Installation.parse operation stdout = .error (.invalidValue cause) := by
  obtain ⟨count, document⟩ := overflows
  have written : Text.trimmed (stdout.getD "") ≠ "" := by
    intro empty
    rw [empty] at document
    cases document
  refine ⟨.tooManyDigits count, ?_⟩
  have loaded : loadOutput operation stdout = .error (.invalidValue (.tooManyDigits count)) := by
    simp only [loadOutput, written, if_false, document]
  rw [Installation.parse, loaded]
  rfl

end Windows

def Apt.Overflows (output : String) : Prop :=
  ∃ digits, Apt.statedDigits? output = some digits ∧ Text.digitLimit < digits.length

theorem statedCount_blames_iff {output : String} :
    (∃ fault, Apt.statedCount output = .error fault ∧ fault.blamesRequest = true) ↔
      Apt.Overflows output := by
  unfold Apt.statedCount Apt.Overflows
  cases Apt.statedDigits? output with
  | none =>
      constructor
      · rintro ⟨_, failed, _⟩
        cases failed
      · rintro ⟨_, stated, _⟩
        cases stated
  | some digits =>
      dsimp only
      split
      next long => exact iff_of_true ⟨_, rfl, rfl⟩ ⟨digits, rfl, long⟩
      next short =>
          constructor
          · rintro ⟨_, failed, _⟩
            cases failed
          · rintro ⟨_, stated, long⟩
            cases stated
            exact absurd long short

/-- The result of an installation blames the request exactly when the script succeeded and wrote a
number with too many digits. -/
theorem installation_blames_iff (reply : Reply) :
    (∃ fault, UpdateExecutor.resultOf .install reply = .error fault ∧
        fault.blamesRequest = true) ↔
      reply.succeeded = true ∧ Windows.Overflows reply.stdout := by
  constructor
  · rintro ⟨fault, failed, blamed⟩
    rcases cases_of_bind_error failed with unsuccessful | ⟨_, passed, unread⟩
    · rw [requireSuccess_blameless _ _ _ fault unsuccessful] at blamed
      cases blamed
    · exact ⟨succeeded_of_required passed, Windows.parse_blames _ _ fault unread blamed⟩
  · rintro ⟨succeeded, overflows⟩
    obtain ⟨cause, unread⟩ := Windows.parse_of_overflow "install" overflows
    refine ⟨.invalidValue cause, ?_, rfl⟩
    rw [UpdateExecutor.resultOf, bind_of_ok (required_of_succeeded succeeded _ _)]
    exact unread

theorem upgradeResult_eq_error {manager : Manager} {reply : Reply} {fault : Fault} :
    manager.upgradeResult reply = .error fault ↔
      manager = .apt ∧ Apt.statedCount (reply.stdout.getD "") = .error fault := by
  have counted : manager.upgradeResult reply = .error fault ↔
      manager.upgradedCount (reply.stdout.getD "")
        (manager.upgradedNames (reply.stdout.getD "")) = .error fault := by
    unfold Manager.upgradeResult
    dsimp only
    cases manager.upgradedCount (reply.stdout.getD "")
        (manager.upgradedNames (reply.stdout.getD "")) with
    | error cause =>
        constructor
        · exact fun failed => congrArg Except.error (Except.error.inj failed)
        · exact fun failed => congrArg Except.error (Except.error.inj failed)
    | ok count => exact iff_of_false nofun nofun
  rw [counted]
  cases manager with
  | apt =>
      unfold Manager.upgradedCount
      dsimp only
      rw [map_eq_error]
      exact ⟨fun failed => ⟨rfl, failed⟩, And.right⟩
  | dnf => exact iff_of_false nofun nofun

/-- The result of an upgrade blames the request exactly when the output states a number with too
many digits, which only apt reads. -/
theorem upgrade_blames_iff (manager : Manager) (reply : Reply) :
    (∃ fault, manager.upgradeResult reply = .error fault ∧ fault.blamesRequest = true) ↔
      manager = .apt ∧ Apt.Overflows (reply.stdout.getD "") := by
  rw [← statedCount_blames_iff]
  constructor
  · rintro ⟨fault, failed, blamed⟩
    obtain ⟨reads, stated⟩ := upgradeResult_eq_error.mp failed
    exact ⟨reads, fault, stated, blamed⟩
  · rintro ⟨reads, fault, stated, blamed⟩
    exact ⟨fault, upgradeResult_eq_error.mpr ⟨reads, stated⟩, blamed⟩

end FleetPatch
