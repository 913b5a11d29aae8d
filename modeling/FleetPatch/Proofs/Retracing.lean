import FleetPatch.Proofs.Logs

/-!
# Runs that retrace others

A run over a larger state may do what another run does on the part of the state
in view, and append to a log besides. What it tells of that log is then told of
the other run, which keeps none.
-/

namespace FleetPatch.Run

set_option autoImplicit false

variable {ε δ σ τ κ ρ α β : Type}

/-- A run that ends as another does on the state in view. -/
def Echoes (view : σ → τ) (run : Run ε σ α) (other : Run ε τ α) : Prop :=
  ∀ now, other (view now) = ((run now).1, view (run now).2)

section Echoes

variable {view : σ → τ} {run : Run ε σ α} {other : Run ε τ α}

theorem echoes_lift (outcome : Except ε α) : Echoes view (lift outcome) (lift outcome) :=
  fun _ => rfl

theorem Echoes.bind {next : α → Run ε σ β} {otherNext : α → Run ε τ β}
    (first : Echoes view run other) (rest : ∀ value, Echoes view (next value) (otherNext value)) :
    Echoes view (run >>= next) (other >>= otherNext) := by
  intro now
  have shown := first now
  rcases stepped : run now with ⟨outcome, after⟩
  rw [stepped] at shown
  cases outcome with
  | error fault => rw [bind_apply_error stepped, bind_apply_error shown]
  | ok value =>
      rw [bind_apply_ok stepped, bind_apply_ok shown]
      exact rest value after

theorem Echoes.mapFault (change : ε → δ) (echoes : Echoes view run other) :
    Echoes view (run.mapFault change) (other.mapFault change) := by
  intro now
  rw [mapFault_apply, mapFault_apply, echoes]

theorem Echoes.orHandle {handle : ε → Run ε σ α} {otherHandle : ε → Run ε τ α}
    (echoes : Echoes view run other)
    (handles : ∀ fault, Echoes view (handle fault) (otherHandle fault)) :
    Echoes view (run.orHandle handle) (other.orHandle otherHandle) := by
  intro now
  have shown := echoes now
  rcases stepped : run now with ⟨outcome, after⟩
  rw [stepped] at shown
  cases outcome with
  | ok value => simp only [Run.orHandle, stepped, shown]
  | error fault =>
      simp only [Run.orHandle, stepped, shown]
      exact handles fault after

theorem Echoes.ensuring {cleanup : Run ε σ Unit} {otherCleanup : Run ε τ Unit}
    (echoes : Echoes view run other) (cleans : Echoes view cleanup otherCleanup) :
    Echoes view (run.ensuring cleanup) (other.ensuring otherCleanup) := by
  intro now
  have shown := echoes now
  rcases stepped : run now with ⟨outcome, after⟩
  rw [stepped] at shown
  have cleaned := cleans after
  rcases ended : cleanup after with ⟨closing, last⟩
  rw [ended] at cleaned
  cases closing <;> simp only [Run.ensuring, stepped, shown, ended, cleaned]

end Echoes

/-- A run that ends as another does on the state in view, and appends entries to the log that have a
property together. -/
structure Retells (log : σ → List κ) (view : σ → τ) (Q : List κ → Prop) (run : Run ε σ α)
    (other : Run ε τ α) : Prop where
  logs : Logs log run fun entries _ => Q entries
  same : Echoes view run other

section Retells

variable {log : σ → List κ} {view : σ → τ} {Q : List κ → Prop} {run : Run ε σ α}
  {other : Run ε τ α}

theorem Retells.mono {weaker : List κ → Prop} (retells : Retells log view Q run other)
    (implied : ∀ entries, Q entries → weaker entries) : Retells log view weaker run other where
  logs := retells.logs.mono fun entries _ => implied entries
  same := retells.same

theorem retells_lift (quiet : Q []) (outcome : Except ε α) :
    Retells log view Q (lift outcome) (lift outcome) where
  logs _ := ⟨[], (List.append_nil _).symm, quiet⟩
  same := echoes_lift outcome

theorem retells_planned (quiet : Q []) (plan : Except ε β) {next : β → Run ε σ α}
    {otherNext : β → Run ε τ α}
    (rest : ∀ value, plan = .ok value → Retells log view Q (next value) (otherNext value)) :
    Retells log view Q (lift plan >>= next) (lift plan >>= otherNext) := by
  cases plan with
  | error fault => exact retells_lift quiet (.error fault)
  | ok value => exact rest value rfl

abbrev RetellsNothing (log : σ → List κ) (view : σ → τ) (run : Run ε σ α) (other : Run ε τ α) :
    Prop :=
  Retells log view (fun entries => entries = []) run other

theorem retellsNothing_lift (outcome : Except ε α) :
    RetellsNothing log view (lift outcome) (lift outcome) where
  logs _ := ⟨[], (List.append_nil _).symm, rfl⟩
  same := echoes_lift outcome

theorem Retells.behind {first : Run ε σ β} {otherFirst : Run ε τ β} {next : β → Run ε σ α}
    {otherNext : β → Run ε τ α} (quiet : Q []) (retells : RetellsNothing log view first otherFirst)
    (rest : ∀ value, Retells log view Q (next value) (otherNext value)) :
    Retells log view Q (first >>= next) (otherFirst >>= otherNext) where
  logs := retells.logs.behind (fun _ => quiet) fun value => (rest value).logs
  same := retells.same.bind fun value => (rest value).same

theorem Retells.before {next : α → Run ε σ β} {otherNext : α → Run ε τ β}
    (retells : Retells log view Q run other)
    (rest : ∀ value, RetellsNothing log view (next value) (otherNext value)) :
    Retells log view Q (run >>= next) (other >>= otherNext) where
  logs := by
    apply (retells.logs.bind fun value => (rest value).logs).mono
    intro entries outcome tells
    cases tells with
    | stopped _ fault first => exact first
    | went _ _ _ _ first none =>
        rw [none, List.append_nil]
        exact first
  same := retells.same.bind fun value => (rest value).same

theorem Retells.answered (retells : Retells log view Q run other) (answer : α → Except ε β) :
    Retells log view Q (run >>= fun value => lift (answer value))
      (other >>= fun value => lift (answer value)) :=
  retells.before fun value => retellsNothing_lift (answer value)

/-- A fault may be answered by what appends nothing. -/
theorem Retells.handled {handle : ε → Run ε σ α} {otherHandle : ε → Run ε τ α}
    (retells : Retells log view Q run other)
    (handles : ∀ fault, RetellsNothing log view (handle fault) (otherHandle fault)) :
    Retells log view Q (run.orHandle handle) (other.orHandle otherHandle) where
  logs := by
    intro now
    obtain ⟨entries, appended, tells⟩ := retells.logs now
    rcases stepped : run now with ⟨outcome, after⟩
    rw [stepped] at appended
    cases outcome with
    | ok value =>
        rw [orHandle_apply_ok stepped]
        exact ⟨entries, appended, tells⟩
    | error fault =>
        obtain ⟨later, behind, none⟩ := (handles fault).logs after
        rw [none, List.append_nil] at behind
        rw [orHandle_apply_error stepped]
        exact ⟨entries, behind.trans appended, tells⟩
  same := retells.same.orHandle fun fault => (handles fault).same

theorem Retells.excused {handle : ε → Run ε σ α} {otherHandle : ε → Run ε τ α}
    (retells : Retells log view Q run other)
    (excuses : ∀ fault, ∃ outcome, handle fault = lift outcome ∧ otherHandle fault = lift outcome) :
    Retells log view Q (run.orHandle handle) (other.orHandle otherHandle) := by
  apply retells.handled
  intro fault
  obtain ⟨answer, excused, otherwise⟩ := excuses fault
  rw [excused, otherwise]
  exact retellsNothing_lift answer

theorem Retells.second (retells : Retells log view Q run other) :
    Retells (fun pair : ρ × σ => log pair.2) (Prod.map id view) Q (Run.second run)
      (Run.second other) where
  logs := retells.logs.second
  same := by
    intro (part, now)
    have shown := retells.same now
    simp only [Run.second, Prod.map, id, shown]

theorem retells_first (run : Run ε ρ α) :
    RetellsNothing (fun pair : ρ × σ => log pair.2) (Prod.map id view) (Run.first run)
      (Run.first run) where
  logs _ := ⟨[], (List.append_nil _).symm, rfl⟩
  same _ := rfl

end Retells

/-- A run that ends as another does on the state in view, and appends only entries with a property
to the log. -/
abbrev Retraces (log : σ → List κ) (view : σ → τ) (P : κ → Prop) (run : Run ε σ α)
    (other : Run ε τ α) : Prop :=
  Retells log view (fun entries => ∀ entry ∈ entries, P entry) run other

variable {log : σ → List κ} {view : σ → τ} {P : κ → Prop} {run : Run ε σ α} {other : Run ε τ α}

theorem retraces_lift (outcome : Except ε α) :
    Retraces log view P (lift outcome) (lift outcome) :=
  retells_lift (List.forall_mem_nil P) outcome

theorem retraces_pure (value : α) : Retraces log view P (pure value) (pure value : Run ε τ α) :=
  retraces_lift (.ok value)

theorem retraces_fail (fault : ε) : Retraces log view P (fail fault) (fail fault : Run ε τ α) :=
  retraces_lift (.error fault)

theorem Retraces.bind {next : α → Run ε σ β} {otherNext : α → Run ε τ β}
    (first : Retraces log view P run other)
    (rest : ∀ value, Retraces log view P (next value) (otherNext value)) :
    Retraces log view P (run >>= next) (other >>= otherNext) where
  logs := LogsOnly.bind first.logs fun value => (rest value).logs
  same := first.same.bind fun value => (rest value).same

theorem retraces_state_bind {next : σ → Run ε σ β} {otherNext : τ → Run ε τ β}
    (rest : ∀ now, Retraces log view P (next now) (otherNext (view now))) :
    Retraces log view P (state >>= next) (state >>= otherNext) where
  logs := logs_state_bind fun now => (rest now).logs
  same now := (rest now).same now

theorem Retraces.mapFault (change : ε → δ) (retraces : Retraces log view P run other) :
    Retraces log view P (run.mapFault change) (other.mapFault change) where
  logs := LogsOnly.mapFault change retraces.logs
  same := retraces.same.mapFault change

theorem Retraces.ensuring {cleanup : Run ε σ Unit} {otherCleanup : Run ε τ Unit}
    (retraces : Retraces log view P run other)
    (cleans : Retraces log view P cleanup otherCleanup) :
    Retraces log view P (run.ensuring cleanup) (other.ensuring otherCleanup) where
  logs := LogsOnly.ensuring retraces.logs cleans.logs
  same := retraces.same.ensuring cleans.same

theorem Retraces.withFresh {fresh : ρ} {inner : Run ε (ρ × σ) α} {otherInner : Run ε (ρ × τ) α}
    (retraces : Retraces (fun pair => log pair.2) (Prod.map id view) P inner otherInner) :
    Retraces log view P (Run.withFresh fresh inner) (Run.withFresh fresh otherInner) where
  logs := Logs.withFresh retraces.logs
  same now := by
    have shown : otherInner (fresh, view now) = _ := retraces.same (fresh, now)
    simp only [Run.withFresh, shown]
    rfl

theorem Retraces.cached {kept : ρ → Option α} {keep : α → ρ → ρ} {refresh : Bool}
    (retraces : Retraces log view P run other) :
    Retraces (fun pair => log pair.2) (Prod.map id view) P (Run.cached kept keep refresh run)
      (Run.cached kept keep refresh other) where
  logs := LogsOnly.cached retraces.logs
  same := by
    intro (part, now)
    have shown := retraces.same now
    rcases stepped : run now with ⟨outcome, after⟩
    rw [stepped] at shown
    cases held : (if refresh then none else kept part) with
    | some value => simp only [Run.cached, Prod.map, id, held]
    | none => cases outcome <;> simp only [Run.cached, Prod.map, id, held, stepped, shown]

end FleetPatch.Run
