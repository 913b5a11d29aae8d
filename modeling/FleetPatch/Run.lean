/-!
# Runs

A run takes a state to an outcome and the state after it. A failing run keeps the
state it had reached, so what was done before the failure stays visible: commands
that were dispatched, replies that were used up, lists that were cached.
-/

namespace FleetPatch

set_option autoImplicit false

def Run (ε σ α : Type) : Type := σ → Except ε α × σ

namespace Run

variable {ε δ σ κ α β : Type}

protected def pure (value : α) : Run ε σ α := fun state => (.ok value, state)

protected def bind (run : Run ε σ α) (next : α → Run ε σ β) : Run ε σ β := fun state =>
  match run state with
  | (.ok value, after) => next value after
  | (.error fault, after) => (.error fault, after)

instance : Monad (Run ε σ) where
  pure := Run.pure
  bind := Run.bind

def fail (fault : ε) : Run ε σ α := fun state => (.error fault, state)

/-- A run whose fault is handed to `handle`, which goes on in the state the failure left. -/
def orHandle (run : Run ε σ α) (handle : ε → Run ε σ α) : Run ε σ α := fun state =>
  match run state with
  | (.ok value, after) => (.ok value, after)
  | (.error fault, after) => handle fault after

instance : MonadExceptOf ε (Run ε σ) where
  throw := fail
  tryCatch := orHandle

def state : Run ε σ σ := fun now => (.ok now, now)

def update (change : σ → σ) : Run ε σ Unit := fun now => (.ok (), change now)

def lift (outcome : Except ε α) : Run ε σ α := fun now => (outcome, now)

/-- A run whose outcome, fault or value, is a value of its own. -/
def attempt (run : Run ε σ α) : Run δ σ (Except ε α) := fun now =>
  match run now with
  | (outcome, after) => (.ok outcome, after)

/-- A run followed by a cleanup on every path; a fault of the cleanup replaces the outcome. -/
def ensuring (run : Run ε σ α) (cleanup : Run ε σ Unit) : Run ε σ α := fun now =>
  match run now with
  | (outcome, after) =>
      match cleanup after with
      | (.ok _, last) => (outcome, last)
      | (.error fault, last) => (.error fault, last)

def first (run : Run ε κ α) : Run ε (κ × σ) α := fun (part, rest) =>
  match run part with
  | (outcome, after) => (outcome, (after, rest))

def second (run : Run ε σ α) : Run ε (κ × σ) α := fun (part, rest) =>
  match run rest with
  | (outcome, after) => (outcome, (part, after))

/-- A run with a part of its own, which is fresh at the start and forgotten at the end. -/
def withFresh (fresh : κ) (run : Run ε (κ × σ) α) : Run ε σ α := fun now =>
  match run (fresh, now) with
  | (outcome, (_, after)) => (outcome, after)

def mapFault (change : ε → δ) (run : Run ε σ α) : Run δ σ α := fun now =>
  match run now with
  | (.ok value, after) => (.ok value, after)
  | (.error fault, after) => (.error (change fault), after)

/-- A value kept in a part of the state: `refresh` or an empty place reads it anew, and only a
reading that succeeds is kept. -/
def cached (kept : κ → Option α) (keep : α → κ → κ) (refresh : Bool) (read : Run ε σ α) :
    Run ε (κ × σ) α := fun (part, rest) =>
  match (if refresh then none else kept part) with
  | some value => (.ok value, (part, rest))
  | none =>
      match read rest with
      | (.ok value, after) => (.ok value, (keep value part, after))
      | (.error fault, after) => (.error fault, (part, after))

@[simp] theorem pure_apply (value : α) (now : σ) :
    (pure value : Run ε σ α) now = (.ok value, now) := rfl

@[simp] theorem fail_apply (fault : ε) (now : σ) :
    (fail fault : Run ε σ α) now = (.error fault, now) := rfl

@[simp] theorem state_apply (now : σ) : (state : Run ε σ σ) now = (.ok now, now) := rfl

@[simp] theorem update_apply (change : σ → σ) (now : σ) :
    (update change : Run ε σ Unit) now = (.ok (), change now) := rfl

@[simp] theorem lift_apply (outcome : Except ε α) (now : σ) :
    (lift outcome : Run ε σ α) now = (outcome, now) := rfl

theorem bind_apply_ok {run : Run ε σ α} {next : α → Run ε σ β} {now after : σ} {value : α}
    (stepped : run now = (.ok value, after)) : (run >>= next) now = next value after := by
  change Run.bind run next now = next value after
  simp only [Run.bind, stepped]

theorem bind_apply_error {run : Run ε σ α} {next : α → Run ε σ β} {now after : σ} {fault : ε}
    (stepped : run now = (.error fault, after)) :
    (run >>= next) now = (.error fault, after) := by
  change Run.bind run next now = (.error fault, after)
  simp only [Run.bind, stepped]

theorem bind_eq_error {run : Run ε σ α} {next : α → Run ε σ β} {now : σ} {fault : ε} :
    ((run >>= next) now).1 = .error fault ↔
      (run now).1 = .error fault ∨
        ∃ value after, run now = (.ok value, after) ∧ (next value after).1 = .error fault := by
  rcases stepped : run now with ⟨outcome, after⟩
  cases outcome with
  | ok value =>
      rw [bind_apply_ok stepped]
      constructor
      · exact fun failed => .inr ⟨value, after, rfl, failed⟩
      · rintro (failed | ⟨_, _, same, failed⟩)
        · cases failed
        · cases same
          exact failed
  | error cause =>
      rw [bind_apply_error stepped]
      constructor
      · exact fun failed => .inl (congrArg Except.error (Except.error.inj failed))
      · rintro (failed | ⟨_, _, same, _⟩)
        · exact congrArg Except.error (Except.error.inj failed)
        · cases same

theorem orHandle_apply_ok {run : Run ε σ α} {handle : ε → Run ε σ α} {now after : σ} {value : α}
    (stepped : run now = (.ok value, after)) : run.orHandle handle now = (.ok value, after) := by
  simp only [orHandle, stepped]

theorem orHandle_apply_error {run : Run ε σ α} {handle : ε → Run ε σ α} {now after : σ} {fault : ε}
    (stepped : run now = (.error fault, after)) : run.orHandle handle now = handle fault after := by
  simp only [orHandle, stepped]

instance : LawfulMonad (Run ε σ) :=
  LawfulMonad.mk' (Run ε σ)
    (by
      intro _ run
      funext now
      change Run.bind run _ now = run now
      rcases taken : run now with ⟨outcome, after⟩
      cases outcome <;> simp only [Run.bind, taken] <;> rfl)
    (by intro _ _ value next; rfl)
    (by
      intro _ _ _ run next last
      funext now
      change Run.bind (Run.bind run next) last now = Run.bind run _ now
      rcases taken : run now with ⟨outcome, after⟩
      cases outcome <;> simp only [Run.bind, taken] <;> rfl)

end Run

section Outcomes

variable {ε δ α β : Type}

theorem bind_of_ok {computed : Except ε α} {next : α → Except ε β} {value : α}
    (succeeded : computed = .ok value) : computed >>= next = next value := by
  rw [succeeded]
  rfl

/-- A computation in two steps succeeds only if both do. -/
theorem exists_of_bind_ok {computed : Except ε α} {next : α → Except ε β} {value : β}
    (succeeded : computed >>= next = .ok value) :
    ∃ middle, computed = .ok middle ∧ next middle = .ok value := by
  cases computed with
  | error fault => cases succeeded
  | ok middle => exact ⟨middle, rfl, succeeded⟩

theorem cases_of_bind_error {computed : Except ε α} {next : α → Except ε β} {fault : ε}
    (failed : computed >>= next = .error fault) :
    computed = .error fault ∨ ∃ middle, computed = .ok middle ∧ next middle = .error fault := by
  cases computed with
  | error cause => exact .inl (congrArg Except.error (Except.error.inj failed))
  | ok middle => exact .inr ⟨middle, rfl, failed⟩

theorem mapError_eq_ok {computed : Except ε α} {change : ε → δ} {value : α} :
    computed.mapError change = .ok value ↔ computed = .ok value := by
  cases computed with
  | error cause => exact iff_of_false nofun nofun
  | ok other => constructor <;> exact fun succeeded => congrArg Except.ok (Except.ok.inj succeeded)

theorem mapError_eq_error {computed : Except ε α} {change : ε → δ} {fault : δ} :
    computed.mapError change = .error fault ↔
      ∃ cause, computed = .error cause ∧ fault = change cause := by
  cases computed with
  | error cause =>
      constructor
      · exact fun failed => ⟨cause, rfl, (Except.error.inj failed).symm⟩
      · rintro ⟨_, ⟨⟩, rfl⟩
        rfl
  | ok value => exact iff_of_false nofun (by rintro ⟨_, ⟨⟩, _⟩)

theorem map_eq_ok {computed : Except ε α} {change : α → β} {value : β} :
    computed.map change = .ok value ↔ ∃ middle, computed = .ok middle ∧ value = change middle := by
  cases computed with
  | error fault => exact iff_of_false nofun (by rintro ⟨_, ⟨⟩, _⟩)
  | ok middle =>
      constructor
      · exact fun succeeded => ⟨middle, rfl, (Except.ok.inj succeeded).symm⟩
      · rintro ⟨_, ⟨⟩, rfl⟩
        rfl

theorem map_eq_error {computed : Except ε α} {change : α → β} {fault : ε} :
    computed.map change = .error fault ↔ computed = .error fault := by
  cases computed with
  | error cause =>
      constructor <;> exact fun failed => congrArg Except.error (Except.error.inj failed)
  | ok value => exact iff_of_false nofun nofun

end Outcomes

end FleetPatch
