import FleetPatch.Proofs.RemoteEscapes

/-!
# Completed commands

A command is completed when it was given an identifier and its output was read. It
should be reported as such, whatever becomes of cleaning it up. It is reported only
if cleaning up succeeds: a fault of cleaning up is told as one of the command, after
the host has done what the command says.
-/

namespace FleetPatch.WinRm

set_option autoImplicit false

open Run

/-- A command that a connection executes is completed: there is a shell for it, in which it was
given an identifier, and its output was read. -/
structure Completes (config : Config) (now : State) (shell : Shell) : Prop where
  reached : ((transport config).reach now).1 = .ok ()
  held : ((transport config).reach now).2.held = some shell
  running : shell.next.running = none
  reading : shell.next.reading = none

/-- Faults that say that a command was not completed or not allowed. -/
def deniesCompletion : Fault → Bool
  | .command _ | .notAuthorized _ => true
  | _ => false

theorem denies_of_transport (config : Config) {fault : Fault}
    (known : isTransportFault fault = true) :
    deniesCompletion (commandFault config fault) = true := by
  cases fault with
  | foreign kind text =>
      simp only [commandFault]
      split
      · rfl
      · rfl
  | _ => cases known

variable {config : Config} {now : State} {shell : Shell}

/-- A completed command comes to its reply unless cleaning it up fails. -/
theorem Command.answer_of_completed {command : Command} (running : command.running = none)
    (reading : command.reading = none) :
    command.answer = (failing command.cleaning).map fun _ => command.reply := by
  unfold Command.answer
  rw [running, reading]
  cases command.cleaning <;> rfl

theorem Shell.calls_of_started (script : String) (running : shell.next.running = none) :
    shell.calls script = [.run shell.handshake shell.id (invocation script),
      .output shell.handshake shell.id shell.nextName,
      .cleanUp shell.handshake shell.id shell.nextName] := by
  rw [Shell.calls, running]
  rfl

theorem execute_of_reached (script : String) (reached : ((transport config).reach now).1 = .ok ())
    (held : ((transport config).reach now).2.held = some shell) :
    (transport config).execute script now =
      (shell.next.answer.mapError (commandFault config),
        { ((transport config).reach now).2 with held := some shell.served }.recordAll
          (shell.calls script)) := by
  have reach : (transport config).reach now = (.ok (), ((transport config).reach now).2) :=
    Prod.ext reached rfl
  rw [Transport.execute, bind_apply_ok reach]
  exact dispatch_of_held config script held

theorem execute_of_completed (script : String) (completes : Completes config now shell) :
    (transport config).execute script now =
      ((failing shell.next.cleaning).mapError (commandFault config) |>.map fun _ =>
        shell.next.reply,
        { ((transport config).reach now).2 with held := some shell.served }.recordAll
          [.run shell.handshake shell.id (invocation script),
            .output shell.handshake shell.id shell.nextName,
            .cleanUp shell.handshake shell.id shell.nextName]) := by
  rw [execute_of_reached script completes.reached completes.held,
    Command.answer_of_completed completes.running completes.reading,
    Shell.calls_of_started script completes.running]
  cases shell.next.cleaning <;> rfl

/-- A completed command is reported with its reply exactly if cleaning it up succeeds. Else
the fault of cleaning up is told; one of the transport says that the command was not
completed or not allowed, although it was run, its output was read, and the shell has moved
on to its next command. -/
theorem completed_reported_iff (script : String) (completes : Completes config now shell) :
    (((transport config).execute script now).1 = .ok shell.next.reply ↔
      shell.next.cleaning = none) ∧
    (∀ fault, shell.next.cleaning = some fault →
      ((transport config).execute script now).1 = .error (commandFault config fault) ∧
      (isTransportFault fault = true → deniesCompletion (commandFault config fault) = true)) ∧
    ((transport config).execute script now).2.held = some shell.served ∧
    ((transport config).execute script now).2.calls =
      ((transport config).reach now).2.calls ++
        [.run shell.handshake shell.id (invocation script),
          .output shell.handshake shell.id shell.nextName,
          .cleanUp shell.handshake shell.id shell.nextName] := by
  rw [execute_of_completed script completes]
  refine ⟨?_, fun fault failed => ?_, rfl, rfl⟩
  · cases shell.next.cleaning with
    | none => exact iff_of_true rfl rfl
    | some fault => exact iff_of_false nofun nofun
  · rw [failed]
    exact ⟨rfl, denies_of_transport config⟩

def account : Config := .ofHost (.str "h") (.str "u") (.str "p") .null

def uncleaned : Command := ⟨none, none, some (.foreign .remote "gone"), .text "ok", .absent, some 0⟩

def untidy : State := .fresh [] [{ Handshake.plain with commands := [uncleaned] }]

def untidyShell : Shell := ⟨0, .str "shell-1", none, [uncleaned], 0⟩

theorem untidy_completes : Completes account untidy untidyShell := ⟨rfl, rfl, rfl, rfl⟩

/-- A command that cannot be cleaned up is told as one that was not completed or not allowed. -/
theorem uncleaned_command_denied :
    Completes account untidy untidyShell ∧ ∃ fault,
      ((transport account).execute "hostname" untidy).1 = .error fault ∧
        deniesCompletion fault = true := by
  have denied :=
    (completed_reported_iff "hostname" untidy_completes).2.1 (.foreign .remote "gone") rfl
  exact ⟨untidy_completes, _, denied.1, denied.2 rfl⟩

/-- A completed command is not always reported with its reply. -/
theorem completed_command_unreported :
    ¬ (Completes account untidy untidyShell →
      ((transport account).execute "hostname" untidy).1 = .ok untidyShell.next.reply) := by
  intro reports
  have reported := reports untidy_completes
  rw [execute_of_completed "hostname" untidy_completes] at reported
  cases reported

end FleetPatch.WinRm
