import FleetPatch.Transport

/-!
# Uses of a connection

A connection is connected, made to execute commands and closed, in any order and
however each use ends. Between its uses something may happen to it on its own. A
property that every use and every such event keeps holds after all of them.
-/

namespace FleetPatch

set_option autoImplicit false

inductive Use where
  | connect
  | execute (command : String)
  | close
  deriving Repr, DecidableEq

/-- Whether a use gets to the host, connecting when there is no connection. -/
def Use.reaches : Use → Bool
  | .connect | .execute _ => true
  | .close => false

/-- What befalls a connection: it is used, or something happens to it on its own. -/
inductive Incident (ω : Type) where
  | use (made : Use)
  | event (happened : ω)
  deriving Repr, DecidableEq

variable {σ ω : Type}

def failing : Option Fault → Except Fault Unit
  | some fault => .error fault
  | none => .ok ()

theorem failing_eq_error {failure : Option Fault} {fault : Fault} :
    failing failure = .error fault ↔ failure = some fault := by
  cases failure with
  | none => exact iff_of_false nofun nofun
  | some cause => simp only [failing, Except.error.injEq, Option.some.injEq]

/-- A use of a transport. What a command is answered is left out. -/
def Transport.use (host : Transport σ) : Use → Run Fault σ Unit
  | .connect => host.connect
  | .execute command => do discard (host.execute command)
  | .close => host.close

/-- A transport and what may happen to it between its uses. -/
structure Setting (σ ω : Type) where
  host : Transport σ
  happen : ω → σ → σ

namespace Setting

variable (setting : Setting σ ω)

def step (now : σ) : Incident ω → σ
  | .use made => (setting.host.use made now).2
  | .event happened => setting.happen happened now

/-- The state after incidents, each of which befalls the connection whatever came of the earlier
ones. -/
def after (incidents : List (Incident ω)) (start : σ) : σ := incidents.foldl setting.step start

variable {setting}

theorem after_concat (incidents : List (Incident ω)) (last : Incident ω) (start : σ) :
    setting.after (incidents ++ [last]) start =
      setting.step (setting.after incidents start) last := by
  unfold after
  rw [List.foldl_append, List.foldl_cons, List.foldl_nil]

theorem after_keeps {holds : σ → Prop}
    (keeps : ∀ now incident, holds now → holds (setting.step now incident))
    (incidents : List (Incident ω)) {start : σ} (begins : holds start) :
    holds (setting.after incidents start) := by
  induction incidents generalizing start with
  | nil => exact begins
  | cons first later ih => exact ih (keeps start first begins)

end Setting

theorem Transport.use_execute_apply (host : Transport σ) (command : String) (now : σ) :
    host.use (.execute command) now =
      ((host.execute command now).1.map fun _ => (), (host.execute command now).2) := by
  change (discard (host.execute command) : Run Fault σ PUnit) now = _
  rcases taken : host.execute command now with ⟨outcome, last⟩
  cases outcome with
  | ok reply => exact Run.bind_apply_ok taken
  | error fault => exact Run.bind_apply_error taken

/-- A transport that leaves a connection that stands as it is connects in the same way before a
command. -/
theorem Transport.reach_eq_connect {host : Transport σ}
    (stays : ∀ now, host.connected now = true → host.connect now = (.ok (), now)) :
    host.reach = host.connect := by
  funext now
  cases stands : host.connected now with
  | true => rw [Transport.reach_of_connected stands, stays now stands]
  | false => exact Transport.reach_of_unconnected stands

theorem Setting.step_execute (setting : Setting σ ω) (command : String) (now : σ) :
    setting.step now (.use (.execute command)) = (setting.host.execute command now).2 :=
  congrArg Prod.snd (setting.host.use_execute_apply command now)

theorem mem_of_lookup {κ ρ : Type} [BEq κ] [LawfulBEq κ] {entries : List (κ × ρ)} {key : κ}
    {value : ρ} (found : entries.lookup key = some value) : (key, value) ∈ entries := by
  obtain ⟨earlier, later, split, _⟩ := List.lookup_eq_some_iff.mp found
  rw [split]
  exact List.mem_append_right earlier List.mem_cons_self

end FleetPatch
