import FleetPatch.Run

/-!
# Runs that keep a log

A part of the state may be a log. What a run tells is a relation between the
entries it appends to the log and its outcome, and it is put together from what
the steps of the run tell.
-/

namespace FleetPatch.Run

set_option autoImplicit false

variable {ε δ σ κ τ α β : Type}

/-- What a run tells: the entries that it appends, and its outcome. -/
abbrev Telling (κ ε α : Type) := List κ → Except ε α → Prop

namespace Telling

def quiet (outcome : Except ε α) : Telling κ ε α := fun entries result =>
  entries = [] ∧ result = outcome

def only (P : κ → Prop) : Telling κ ε α := fun entries _ => ∀ entry ∈ entries, P entry

/-- What is told when a computation without a state comes first. -/
def given (computed : Except ε β) (told : β → Telling κ ε α) : Telling κ ε α :=
  match computed with
  | .ok value => told value
  | .error fault => quiet (.error fault)

inductive andThen (told : Telling κ ε α) (next : α → Telling κ ε β) : Telling κ ε β where
  | stopped (entries : List κ) (fault : ε) (first : told entries (.error fault)) :
      andThen told next entries (.error fault)
  | went (earlier later : List κ) (value : α) (outcome : Except ε β)
      (first : told earlier (.ok value)) (second : next value later outcome) :
      andThen told next (earlier ++ later) outcome

/-- What a step and its cleanup tell: the outcome is that of the step unless cleaning up failed. -/
inductive ensuring (told : Telling κ ε α) (cleaning : Telling κ ε Unit) : Telling κ ε α where
  | ended (earlier later : List κ) (outcome : Except ε α) (cleaned : Except ε Unit)
      (first : told earlier outcome) (last : cleaning later cleaned) :
      ensuring told cleaning (earlier ++ later) (cleaned.bind fun _ => outcome)

inductive map (change : α → β) (told : Telling κ ε α) : Telling κ ε β where
  | changed (entries : List κ) (outcome : Except ε α) (first : told entries outcome) :
      map change told entries (outcome.map change)

inductive mapFault (change : ε → δ) (told : Telling κ ε α) : Telling κ δ α where
  | changed (entries : List κ) (outcome : Except ε α) (first : told entries outcome) :
      mapFault change told entries (outcome.mapError change)

theorem given_cases {computed : Except ε β} {told : β → Telling κ ε α} {entries : List κ}
    {outcome : Except ε α} (tells : given computed told entries outcome) :
    (∃ fault, computed = .error fault ∧ entries = [] ∧ outcome = .error fault) ∨
      ∃ value, computed = .ok value ∧ told value entries outcome := by
  cases computed with
  | error fault => exact .inl ⟨fault, rfl, tells⟩
  | ok value => exact .inr ⟨value, rfl, tells⟩

theorem mapFault.of_error {change : ε → δ} {told : Telling κ ε α} {entries : List κ} {fault : δ}
    (tells : mapFault change told entries (.error fault)) :
    ∃ cause, told entries (.error cause) ∧ fault = change cause := by
  generalize same : (Except.error fault : Except δ α) = result at tells
  cases tells with
  | changed _ outcome first =>
      cases outcome with
      | error cause => exact ⟨cause, first, Except.error.inj same⟩
      | ok value => cases same

theorem mapFault.of_ok {change : ε → δ} {told : Telling κ ε α} {entries : List κ} {value : α}
    (tells : mapFault change told entries (.ok value)) : told entries (.ok value) := by
  generalize same : (Except.ok value : Except δ α) = result at tells
  cases tells with
  | changed _ outcome first =>
      cases outcome with
      | error cause => cases same
      | ok other =>
          cases Except.ok.inj same
          exact first

end Telling

/-- A run that only appends to a log, and what it tells. -/
def Logs (log : σ → List κ) (run : Run ε σ α) (told : Telling κ ε α) : Prop :=
  ∀ now, ∃ entries, log (run now).2 = log now ++ entries ∧ told entries (run now).1

section Rules

variable {log : σ → List κ} {run : Run ε σ α} {told : Telling κ ε α}

theorem Logs.mono {weaker : Telling κ ε α} (logs : Logs log run told)
    (implied : ∀ entries outcome, told entries outcome → weaker entries outcome) :
    Logs log run weaker := by
  intro now
  obtain ⟨entries, appended, tells⟩ := logs now
  exact ⟨entries, appended, implied _ _ tells⟩

theorem logs_lift (outcome : Except ε α) : Logs log (lift outcome) (.quiet outcome) := by
  intro now
  exact ⟨[], (List.append_nil _).symm, rfl, rfl⟩

theorem logs_pure (value : α) : Logs log (pure value : Run ε σ α) (.quiet (.ok value)) :=
  logs_lift (.ok value)

theorem logs_fail (fault : ε) : Logs log (fail fault : Run ε σ α) (.quiet (.error fault)) :=
  logs_lift (.error fault)

theorem logs_update {change : σ → σ} (kept : ∀ now, log (change now) = log now) :
    Logs log (update change : Run ε σ Unit) (.quiet (.ok ())) := by
  intro now
  refine ⟨[], ?_, rfl, rfl⟩
  rw [update_apply, kept, List.append_nil]

theorem Logs.bind {next : α → Run ε σ β} {toldNext : α → Telling κ ε β}
    (first : Logs log run told) (rest : ∀ value, Logs log (next value) (toldNext value)) :
    Logs log (run >>= next) (told.andThen toldNext) := by
  intro now
  obtain ⟨earlier, appended, tells⟩ := first now
  rcases stepped : run now with ⟨outcome, after⟩
  rw [stepped] at appended tells
  cases outcome with
  | error fault =>
      rw [bind_apply_error stepped]
      exact ⟨earlier, appended, .stopped _ fault tells⟩
  | ok value =>
      obtain ⟨later, appendedLater, tellsLater⟩ := rest value after
      rw [bind_apply_ok stepped]
      refine ⟨earlier ++ later, ?_, .went _ _ value _ tells tellsLater⟩
      rw [appendedLater, appended, List.append_assoc]

theorem Logs.behind {first : Run ε σ β} {next : β → Run ε σ α}
    (quiet : Logs log first fun entries _ => entries = []) (stops : ∀ fault, told [] (.error fault))
    (rest : ∀ value, Logs log (next value) told) : Logs log (first >>= next) told := by
  apply (quiet.bind rest).mono
  intro entries outcome tells
  cases tells with
  | stopped _ fault none =>
      rw [none]
      exact stops fault
  | went _ _ _ _ none second =>
      rw [none, List.nil_append]
      exact second

theorem Logs.map (change : α → β) (logs : Logs log run told) :
    Logs log (run >>= fun value => pure (change value)) (told.map change) := by
  apply (logs.bind fun value => logs_pure (change value)).mono
  intro entries outcome tells
  cases tells with
  | stopped _ fault first => exact .changed _ _ first
  | went _ _ value _ first quiet =>
      obtain ⟨rfl, rfl⟩ := quiet
      rw [List.append_nil]
      exact .changed _ _ first

theorem logs_state_bind {next : σ → Run ε σ β} {toldNext : Telling κ ε β}
    (rest : ∀ now, Logs log (next now) toldNext) : Logs log (state >>= next) toldNext := by
  intro now
  exact rest now now

theorem logs_update_bind {change : σ → σ} {next : Unit → Run ε σ α}
    (kept : ∀ now, log (change now) = log now) (rest : Logs log (next ()) told) :
    Logs log (update change >>= next) told := by
  intro now
  obtain ⟨entries, appended, tells⟩ := rest (change now)
  exact ⟨entries, appended.trans (congrArg (· ++ entries) (kept now)), tells⟩

theorem logs_given {computed : Except ε β} {next : β → Run ε σ α} {toldNext : β → Telling κ ε α}
    (rest : ∀ value, computed = .ok value → Logs log (next value) (toldNext value)) :
    Logs log (lift computed >>= next) (.given computed toldNext) := by
  cases computed with
  | error fault => exact logs_fail fault
  | ok value => exact rest value rfl

theorem Logs.ensuring {cleanup : Run ε σ Unit} {cleaning : Telling κ ε Unit}
    (logs : Logs log run told) (cleans : Logs log cleanup cleaning) :
    Logs log (run.ensuring cleanup) (told.ensuring cleaning) := by
  intro now
  obtain ⟨earlier, appended, tells⟩ := logs now
  rcases stepped : run now with ⟨outcome, after⟩
  rw [stepped] at appended tells
  obtain ⟨later, appendedLater, tellsLater⟩ := cleans after
  rcases cleaned : cleanup after with ⟨closing, last⟩
  rw [cleaned] at appendedLater tellsLater
  have ended : run.ensuring cleanup now = (closing.bind fun _ => outcome, last) := by
    cases closing <;> simp only [Run.ensuring, stepped, cleaned] <;> rfl
  rw [ended]
  refine ⟨earlier ++ later, ?_, .ended _ _ _ _ tells tellsLater⟩
  rw [appendedLater, appended, List.append_assoc]

theorem mapFault_apply (change : ε → δ) (run : Run ε σ α) (now : σ) :
    run.mapFault change now = ((run now).1.mapError change, (run now).2) := by
  rcases stepped : run now with ⟨outcome, after⟩
  cases outcome <;> simp only [mapFault, stepped] <;> rfl

theorem mapFault_bind (change : ε → δ) (run : Run ε σ α) (next : α → Run ε σ β) :
    (run >>= next).mapFault change =
      run.mapFault change >>= fun value => (next value).mapFault change := by
  funext now
  rcases stepped : run now with ⟨outcome, after⟩
  have told : run.mapFault change now = (outcome.mapError change, after) := by
    rw [mapFault_apply, stepped]
  cases outcome with
  | error fault =>
      rw [bind_apply_error told, mapFault_apply, bind_apply_error stepped]
      rfl
  | ok value => rw [bind_apply_ok told, mapFault_apply, bind_apply_ok stepped, mapFault_apply]

theorem lift_ok (value : α) : (lift (.ok value) : Run ε σ α) = pure value := rfl

theorem lift_bind (computed : Except ε α) (next : α → Except ε β) :
    (lift (computed >>= next) : Run ε σ β) = lift computed >>= fun value => lift (next value) := by
  cases computed <;> rfl

theorem mapFault_lift (change : ε → δ) (outcome : Except ε α) :
    (lift outcome : Run ε σ α).mapFault change = lift (outcome.mapError change) := by
  funext now
  rw [mapFault_apply]
  rfl

theorem Logs.mapFault (change : ε → δ) (logs : Logs log run told) :
    Logs log (run.mapFault change) (told.mapFault change) := by
  intro now
  obtain ⟨entries, appended, tells⟩ := logs now
  rw [mapFault_apply]
  exact ⟨entries, appended, .changed _ _ tells⟩

theorem orHandle_fail (run : Run ε σ α) (change : ε → ε) :
    run.orHandle (fun fault => fail (change fault)) = run.mapFault change := by
  funext now
  rcases stepped : run now with ⟨outcome, after⟩
  cases outcome <;> simp only [orHandle, Run.mapFault, stepped, fail_apply]

theorem Logs.second (logs : Logs log run told) :
    Logs (fun pair : τ × σ => log pair.2) (Run.second run) told := fun (_, now) => logs now

theorem Logs.withFresh {fresh : τ} {inner : Run ε (τ × σ) α}
    (logs : Logs (fun pair : τ × σ => log pair.2) inner told) :
    Logs log (Run.withFresh fresh inner) told := by
  intro now
  exact logs (fresh, now)

end Rules

abbrev LogsOnly (log : σ → List κ) (P : κ → Prop) (run : Run ε σ α) : Prop :=
  Logs log run (.only P)

section Only

variable {log : σ → List κ} {P : κ → Prop} {run : Run ε σ α}

theorem only_of_quiet {outcome : Except ε α} (entries : List κ) (result : Except ε α)
    (quiet : Telling.quiet outcome entries result) : Telling.only P entries result := by
  rw [quiet.1]
  exact fun _ member => nomatch member

theorem logsOnly_lift (outcome : Except ε α) : LogsOnly log P (lift outcome) :=
  (logs_lift outcome).mono only_of_quiet

theorem logsOnly_pure (value : α) : LogsOnly log P (pure value : Run ε σ α) :=
  logsOnly_lift (.ok value)

theorem logsOnly_fail (fault : ε) : LogsOnly log P (fail fault : Run ε σ α) :=
  logsOnly_lift (.error fault)

theorem logsOnly_update {change : σ → σ} (kept : ∀ now, log (change now) = log now) :
    LogsOnly log P (update change : Run ε σ Unit) :=
  (logs_update kept).mono only_of_quiet

theorem LogsOnly.bind {next : α → Run ε σ β} (first : LogsOnly log P run)
    (rest : ∀ value, LogsOnly log P (next value)) : LogsOnly log P (run >>= next) := by
  apply (Logs.bind first rest).mono
  intro entries outcome tells
  cases tells with
  | stopped _ fault first => exact first
  | went earlier later value _ first second => exact List.forall_mem_append.mpr ⟨first, second⟩

theorem LogsOnly.ensuring {cleanup : Run ε σ Unit} (logs : LogsOnly log P run)
    (cleans : LogsOnly log P cleanup) : LogsOnly log P (run.ensuring cleanup) := by
  apply (Logs.ensuring logs cleans).mono
  intro entries outcome tells
  cases tells with
  | ended earlier later _ _ first last => exact List.forall_mem_append.mpr ⟨first, last⟩

theorem LogsOnly.mapFault (change : ε → δ) (logs : LogsOnly log P run) :
    LogsOnly log P (run.mapFault change) := by
  apply (Logs.mapFault change logs).mono
  intro entries outcome tells
  cases tells with
  | changed _ _ first => exact first

theorem LogsOnly.orHandle {handle : ε → Run ε σ α} (logs : LogsOnly log P run)
    (handles : ∀ fault, LogsOnly log P (handle fault)) : LogsOnly log P (run.orHandle handle) := by
  intro now
  obtain ⟨earlier, appended, tells⟩ := logs now
  rcases stepped : run now with ⟨outcome, after⟩
  rw [stepped] at appended tells
  cases outcome with
  | ok value =>
      simp only [Run.orHandle, stepped]
      exact ⟨earlier, appended, tells⟩
  | error fault =>
      obtain ⟨later, appendedLater, tellsLater⟩ := handles fault after
      simp only [Run.orHandle, stepped]
      refine ⟨earlier ++ later, ?_, List.forall_mem_append.mpr ⟨tells, tellsLater⟩⟩
      rw [appendedLater, appended, List.append_assoc]

theorem logsOnly_forM {item : Type} {step : item → Run ε σ PUnit}
    (steps : ∀ one, LogsOnly log P (step one)) (items : List item) :
    LogsOnly log P (items.forM step) := by
  induction items with
  | nil => exact logsOnly_pure _
  | cons head tail ih => exact LogsOnly.bind (steps head) fun _ => ih

theorem LogsOnly.cached {kept : τ → Option α} {keep : α → τ → τ} {refresh : Bool}
    (logs : LogsOnly log P run) :
    LogsOnly (fun pair : τ × σ => log pair.2) P (Run.cached kept keep refresh run) := by
  intro (part, now)
  obtain ⟨entries, appended, tells⟩ := logs now
  cases held : (if refresh then none else kept part) with
  | some value =>
      simp only [Run.cached, held]
      exact ⟨[], (List.append_nil _).symm, fun _ member => nomatch member⟩
  | none =>
      rcases stepped : run now with ⟨outcome, after⟩
      rw [stepped] at appended tells
      cases outcome <;> simp only [Run.cached, held, stepped] <;> exact ⟨entries, appended, tells⟩

end Only

/-- A run that, however it ends, appends these items, in this order, among entries that hold no
other item. -/
abbrev LogsItems {ρ : Type} (log : σ → List κ) (item? : κ → Option ρ) (items : List ρ)
    (run : Run ε σ α) : Prop :=
  Logs log run fun entries _ => entries.filterMap item? = items

section Items

variable {ρ : Type} {log : σ → List κ} {item? : κ → Option ρ} {items : List ρ} {run : Run ε σ α}

theorem LogsItems.bind {next : α → Run ε σ β} (first : LogsItems log item? items run)
    (rest : ∀ value, LogsOnly log (fun entry => item? entry = none) (next value)) :
    LogsItems log item? items (run >>= next) := by
  apply (Logs.bind first rest).mono
  intro entries outcome tells
  cases tells with
  | stopped _ fault first => exact first
  | went earlier later _ _ first second =>
      rw [List.filterMap_append, first, List.filterMap_eq_nil_iff.mpr second, List.append_nil]

theorem LogsItems.ensuring {cleanup : Run ε σ Unit} (logs : LogsItems log item? items run)
    (cleans : LogsOnly log (fun entry => item? entry = none) cleanup) :
    LogsItems log item? items (run.ensuring cleanup) := by
  apply (Logs.ensuring logs cleans).mono
  intro entries outcome tells
  cases tells with
  | ended earlier later _ _ first last =>
      rw [List.filterMap_append, first, List.filterMap_eq_nil_iff.mpr last, List.append_nil]

theorem LogsItems.mapFault (change : ε → δ) (logs : LogsItems log item? items run) :
    LogsItems log item? items (run.mapFault change) := by
  apply (Logs.mapFault change logs).mono
  intro entries outcome tells
  cases tells with
  | changed _ _ first => exact first

end Items

end FleetPatch.Run
