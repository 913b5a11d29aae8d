import FleetPatch.Proofs.Logs
import FleetPatch.WinRm.Connection

/-!
# Calls of remote management connections

Which calls to the network and to the client library the steps of a remote
management connection make. Nothing that comes before a held shell runs a
command, and what is done with the held shell runs its command once.
-/

namespace FleetPatch.WinRm

set_option autoImplicit false

open Run

def Call.ran? : Call → Option (List String)
  | .run _ _ arguments => some arguments
  | _ => none

abbrev RunsNothing {α : Type} (run : Run Fault State α) : Prop :=
  LogsOnly State.calls (fun made => made.ran? = none) run

variable {P : Call → Prop}

theorem logs_callOr (made : Call) (failure : Option Fault) :
    Logs State.calls (callOr made failure) fun entries _ => entries = [made] := by
  intro now
  cases failure <;> exact ⟨[made], rfl, rfl⟩

theorem logsOnly_callOr {made : Call} {failure : Option Fault} (holds : P made) :
    LogsOnly State.calls P (callOr made failure) := by
  apply (logs_callOr made failure).mono
  rintro entries outcome rfl
  exact List.forall_mem_singleton.mpr holds

theorem probe_runs_nothing (config : Config) : RunsNothing (probe config) := by
  refine logs_state_bind fun now => LogsOnly.bind (logsOnly_update fun _ => rfl) fun _ => ?_
  refine LogsOnly.bind ?_ fun _ => logsOnly_callOr rfl
  exact LogsOnly.orHandle (logsOnly_callOr rfl) fun fault => logsOnly_fail _

theorem nextHandshake_runs_nothing : RunsNothing nextHandshake := by
  intro now
  refine ⟨[], ?_, fun _ member => nomatch member⟩
  rw [List.append_nil]
  unfold nextHandshake
  cases now.upcoming <;> rfl

theorem openShell_runs_nothing (config : Config) (number : Nat) (handshake : Handshake) :
    RunsNothing (openShell config number handshake) :=
  LogsOnly.bind (logsOnly_callOr rfl) fun _ => logsOnly_callOr rfl

theorem shakeHands_runs_nothing (config : Config) : RunsNothing (shakeHands config) := by
  apply LogsOnly.bind nextHandshake_runs_nothing
  intro (number, handshake)
  cases unorderedKind? config.connectTimeout with
  | some kind =>
      refine LogsOnly.bind (LogsOnly.orHandle (openShell_runs_nothing config number handshake)
        fun fault => logsOnly_pure ()) fun _ => logsOnly_fail _
  | none =>
      apply LogsOnly.bind (openShell_runs_nothing config number handshake)
      intro _
      change RunsNothing (if handshake.outlasts config.connectTimeout then _ else _)
      split
      · exact LogsOnly.bind (logsOnly_update fun _ => rfl) fun _ => logsOnly_fail _
      · exact logsOnly_pure _

theorem connect_runs_nothing (config : Config) : RunsNothing (connect config) := by
  apply logs_state_bind
  intro now
  cases now.connected with
  | true => exact logsOnly_pure ()
  | false =>
      apply LogsOnly.bind (probe_runs_nothing config)
      intro _
      refine LogsOnly.bind ?_ fun shell => logsOnly_update fun _ => rfl
      exact LogsOnly.orHandle (shakeHands_runs_nothing config) fun fault => logsOnly_fail _

theorem heldShell_runs_nothing : RunsNothing heldShell := by
  apply logs_state_bind
  intro now
  rcases now.held with _ | shell
  · exact logsOnly_fail _
  · exact logsOnly_pure shell

theorem start_runs (shell : Shell) (command : Command) (script : String) :
    LogsItems State.calls Call.ran? [invocation script] (start shell command script) := by
  refine logs_update_bind (fun _ => rfl) (LogsItems.bind ?_ fun _ => ?_)
  · apply (logs_callOr _ command.running).mono
    rintro entries outcome rfl
    rfl
  · exact LogsOnly.bind (logsOnly_update fun _ => rfl) fun _ => logsOnly_pure _

/-- What is done with a held shell runs its command once and no other. -/
theorem converse_runs (shell : Shell) (script : String) :
    LogsItems State.calls Call.ran? [invocation script] (converse shell script) := by
  apply LogsItems.bind (start_runs shell _ script)
  intro name
  refine LogsOnly.bind (LogsOnly.ensuring ?_ ?_) fun _ => logsOnly_pure _
  · exact logsOnly_callOr rfl
  · exact logsOnly_callOr rfl

end FleetPatch.WinRm
