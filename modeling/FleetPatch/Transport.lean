import FleetPatch.Fault
import FleetPatch.Run

/-!
# Transports

A transport carries commands to one host. It connects, dispatches a command over
a connection that stands, and closes; executing a command connects first when
there is no connection. A traced transport records every event before it happens.
-/

namespace FleetPatch

set_option autoImplicit false

/-- What a host answers to one command. A client may report no stream and no exit code. -/
structure Reply where
  stdout : Option String
  stderr : Option String
  exitCode : Option Int
  deriving Repr, DecidableEq

/-- The exit code of a command whose channel closed before an exit status arrived. -/
def noExitStatus : Int := -1

def Reply.silent : Reply := ⟨some "", some "", some 0⟩

/-- Exit code zero, and nothing else, is success. -/
def Reply.succeeded (reply : Reply) : Bool := reply.exitCode == some 0

/-- The error text without the blanks at its ends; a reply without error text cannot give one. -/
def Reply.errors (reply : Reply) : Except Fault String :=
  match reply.stderr with
  | some text => .ok (Text.trimmed text)
  | none => .error .unsupportedOperation

/-- The reply to a listing is read also when the command failed, but then it has to have come with
an error text. -/
def Reply.requireErrors (reply : Reply) : Except Fault Unit :=
  if reply.succeeded then .ok () else do discard reply.errors

structure Transport (σ : Type) where
  connected : σ → Bool
  connect : Run Fault σ Unit
  dispatch : String → Run Fault σ Reply
  close : Run Fault σ Unit

inductive HostEvent where
  | connect
  | execute (command : String)
  | close
  deriving Repr, DecidableEq

namespace Transport

variable {σ : Type}

def reach (host : Transport σ) : Run Fault σ Unit := do
  let now ← Run.state
  unless host.connected now do host.connect

/-- Runs a command, connecting first when the transport is not connected. -/
def execute (host : Transport σ) (command : String) : Run Fault σ Reply := do
  host.reach
  host.dispatch command

theorem reach_of_connected {host : Transport σ} {now : σ} (stands : host.connected now = true) :
    host.reach now = (.ok (), now) := by
  rw [reach, Run.bind_apply_ok (Run.state_apply now), if_pos stands, Run.pure_apply]

theorem reach_of_unconnected {host : Transport σ} {now : σ}
    (missing : host.connected now = false) : host.reach now = host.connect now := by
  rw [reach, Run.bind_apply_ok (Run.state_apply now),
    if_neg (by rw [missing]; exact Bool.false_ne_true)]

theorem reach_eq_error {host : Transport σ} {now : σ} {fault : Fault} :
    (host.reach now).1 = .error fault ↔
      host.connected now = false ∧ (host.connect now).1 = .error fault := by
  cases stands : host.connected now with
  | true =>
      rw [reach_of_connected stands]
      exact ⟨nofun, nofun⟩
  | false =>
      rw [reach_of_unconnected stands]
      exact ⟨fun failed => ⟨rfl, failed⟩, fun failed => failed.2⟩

def ask {α : Type} (host : Transport σ) (command : String) (read : Reply → Except Fault α) :
    Run Fault σ α := do
  let reply ← host.execute command
  Run.lift (read reply)

/-- The transport that appends each event to a log before it happens. -/
def traced (name : String) (host : Transport σ) :
    Transport (List (String × HostEvent) × σ) where
  connected := fun (_, now) => host.connected now
  connect := do
    Run.first (Run.update (· ++ [(name, .connect)]))
    Run.second host.connect
  dispatch command := do
    Run.first (Run.update (· ++ [(name, .execute command)]))
    Run.second (host.dispatch command)
  close := do
    Run.first (Run.update (· ++ [(name, .close)]))
    Run.second host.close

/-- Connects, does the work and closes. A connection that does not come about is not closed. -/
def session {α : Type} (host : Transport σ) (work : Run Fault σ α) : Run Fault σ α := do
  host.connect
  Run.ensuring work host.close

end Transport

end FleetPatch
