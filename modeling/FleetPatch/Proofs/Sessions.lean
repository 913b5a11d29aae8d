import FleetPatch.Proofs.Handshakes

/-!
# What is done with a shell

Running a command in the held shell, closing that shell, and the end of a handshake
that was abandoned, as equations: what each comes to and which calls it makes. From
these follows all that can happen to a remote management connection.
-/

namespace FleetPatch.WinRm

set_option autoImplicit false

open Run

/-- A remote management connection whose abandoned handshakes may end between its uses. -/
def setting (config : Config) : Setting State Nat :=
  ⟨transport config, fun number now => (complete number now).2⟩

def Shell.next (shell : Shell) : Command := shell.commands.headD .silent

def Shell.nextName (shell : Shell) : String := s!"cmd-{shell.ran + 1}"

def Shell.served (shell : Shell) : Shell :=
  { shell with
    commands := shell.commands.tail
    ran := if shell.next.running.isSome then shell.ran else shell.ran + 1 }

/-- The calls of one command: it is run, and if it has got an identifier, its output is asked for
and it is cleaned up. -/
def Shell.calls (shell : Shell) (script : String) : List Call :=
  .run shell.handshake shell.id (invocation script) ::
    if shell.next.running.isSome then []
    else [.output shell.handshake shell.id shell.nextName,
      .cleanUp shell.handshake shell.id shell.nextName]

def Command.reply (command : Command) : Reply :=
  ⟨some command.stdout.decoded, some (Clixml.errorText command.stderr.decoded), command.exitCode⟩

/-- What a command comes to; a fault of cleaning up stands before one of reading. -/
def Command.answer (command : Command) : Except Fault Reply :=
  match command.running with
  | some fault => .error fault
  | none =>
      (failing command.cleaning).bind fun _ =>
        (failing command.reading).bind fun _ => .ok command.reply

theorem start_apply (shell : Shell) (script : String) (now : State) :
    start shell shell.next script now =
      ((failing shell.next.running).map fun _ => shell.nextName,
        { now with held := some shell.served }.recordAll
          [.run shell.handshake shell.id (invocation script)]) := by
  unfold start
  rw [bind_apply_ok (update_apply _ now)]
  have ran := callOr_apply (.run shell.handshake shell.id (invocation script)) shell.next.running
    { now with held := some { shell with commands := shell.commands.tail } }
  cases running : shell.next.running with
  | some fault =>
      rw [running] at ran
      rw [bind_apply_error ran]
      simp only [Shell.served, running]
      rfl
  | none =>
      rw [running] at ran
      rw [bind_apply_ok ran, bind_apply_ok (update_apply _ _)]
      simp only [Shell.served, running]
      rfl

theorem collect_apply (shell : Shell) (name : String) (now : State) :
    ((callOr (.output shell.handshake shell.id name) shell.next.reading).ensuring
        (callOr (.cleanUp shell.handshake shell.id name) shell.next.cleaning)) now =
      ((failing shell.next.cleaning).bind fun _ => failing shell.next.reading,
        now.recordAll [.output shell.handshake shell.id name,
          .cleanUp shell.handshake shell.id name]) := by
  simp only [ensuring, callOr_apply, ← State.recordAll_append]
  cases shell.next.cleaning <;> rfl

theorem converse_apply (shell : Shell) (script : String) (now : State) :
    converse shell script now =
      (shell.next.answer,
        { now with held := some shell.served }.recordAll (shell.calls script)) := by
  change (start shell shell.next script >>= fun name =>
    (callOr (.output shell.handshake shell.id name) shell.next.reading).ensuring
      (callOr (.cleanUp shell.handshake shell.id name) shell.next.cleaning) >>= fun _ =>
        pure shell.next.reply) now = _
  unfold Command.answer Shell.calls
  have started := start_apply shell script now
  cases running : shell.next.running with
  | some fault =>
      rw [running] at started
      exact bind_apply_error started
  | none =>
      rw [running] at started
      have collected := collect_apply shell shell.nextName
        ({ now with held := some shell.served }.recordAll
          [.run shell.handshake shell.id (invocation script)])
      rw [← State.recordAll_append] at collected
      refine (bind_apply_ok started).trans ?_
      cases cleaning : shell.next.cleaning with
      | some fault =>
          rw [cleaning] at collected
          exact bind_apply_error collected
      | none =>
          cases reading : shell.next.reading with
          | some fault =>
              rw [cleaning, reading] at collected
              exact bind_apply_error collected
          | none =>
              rw [cleaning, reading] at collected
              exact bind_apply_ok collected

theorem dispatch_of_held (config : Config) (script : String) {now : State} {shell : Shell}
    (held : now.held = some shell) :
    dispatch config script now =
      (shell.next.answer.mapError (commandFault config),
        { now with held := some shell.served }.recordAll (shell.calls script)) := by
  have taken : heldShell now = (.ok shell, now) := by
    rw [heldShell, bind_apply_ok (state_apply now), held]
    rfl
  rw [dispatch, bind_apply_ok taken, orHandle_fail, mapFault_apply, converse_apply]

def closingResult (failure : Option Fault) : Except Fault Unit :=
  match failure with
  | some fault => if isTransportFault fault then .ok () else .error fault
  | none => .ok ()

theorem closeShell_apply (number : Nat) (id : Json) (failure : Option Fault) (now : State) :
    closeShell number id failure now =
      (closingResult failure, now.recordAll [.closeShell number id]) := by
  have closed := callOr_apply (.closeShell number id) failure now
  cases failure with
  | none => exact orHandle_apply_ok closed
  | some fault =>
      unfold closeShell closingResult
      rw [orHandle_apply_error closed]
      dsimp only
      split <;> rfl

theorem close_of_none {now : State} (missing : now.held = none) : close now = (.ok (), now) := by
  unfold close
  rw [bind_apply_ok (state_apply now)]
  change (update (fun now : State => { now with held := none }) >>= fun _ => _) now = _
  rw [bind_apply_ok (update_apply _ now), missing]
  cases now
  cases missing
  rfl

theorem close_of_held {now : State} {shell : Shell} (held : now.held = some shell)
    (named : shell.id ≠ .null) :
    close now = (closingResult shell.closing,
      { now with held := none }.recordAll [.closeShell shell.handshake shell.id]) := by
  unfold close
  rw [bind_apply_ok (state_apply now)]
  rw [bind_apply_ok (update_apply _ now), held]
  dsimp only
  cases id : shell.id with
  | null => exact absurd id named
  | _ => exact closeShell_apply _ _ _ _

/-- A shell without an identifier is let go without being closed. -/
theorem close_of_unnamed {now : State} {shell : Shell} (held : now.held = some shell)
    (unnamed : shell.id = .null) : close now = (.ok (), { now with held := none }) := by
  unfold close
  rw [bind_apply_ok (state_apply now)]
  rw [bind_apply_ok (update_apply _ now), held]
  dsimp only
  rw [unnamed]
  rfl

def Handshake.lateCalls (number : Nat) (handshake : Handshake) : List Call :=
  if handshake.opening = none ∧ handshake.pace ≠ .crossed then [.closeShell number handshake.shell]
  else []

theorem complete_of_none {now : State} {number : Nat}
    (missing : now.abandoned.lookup number = none) : complete number now = (.ok (), now) := by
  rw [complete, bind_apply_ok (state_apply now), missing]
  rfl

theorem complete_of_abandoned {now : State} {number : Nat} {handshake : Handshake}
    (found : now.abandoned.lookup number = some handshake) :
    complete number now =
      (.ok (), { now with abandoned := now.abandoned.filter (·.1 != number) }.recordAll
        (handshake.lateCalls number)) := by
  rw [complete, bind_apply_ok (state_apply now), found]
  dsimp only
  rw [bind_apply_ok (update_apply _ now)]
  unfold finish Handshake.lateCalls
  cases opening : handshake.opening with
  | some fault => simp [State.recordAll]
  | none =>
      dsimp only
      by_cases crossed : handshake.pace = .crossed
      · simp [crossed, State.recordAll]
      · have closed := closeShell_apply number handshake.shell handshake.closing
          { now with abandoned := now.abandoned.filter (·.1 != number) }
        rw [if_neg crossed, if_pos ⟨rfl, crossed⟩]
        cases came : closingResult handshake.closing with
        | error fault =>
            rw [came] at closed
            exact orHandle_apply_error closed
        | ok _ =>
            rw [came] at closed
            exact orHandle_apply_ok closed

/-- All that can happen to a connection, and the calls that are made. -/
inductive Happens (config : Config) (now : State) : Incident Nat → List Call → State → Prop where
  | attempted (outcome : Except Fault Unit) (entries : List Call) (after : State)
      (attempt : Attempt config now outcome entries after) :
      Happens config now (.use .connect) entries after
  | unserved (script : String) (fault : Fault) (entries : List Call) (after : State)
      (attempt : Attempt config now (.error fault) entries after) :
      Happens config now (.use (.execute script)) entries after
  | served (script : String) (entries : List Call) (after : State) (shell : Shell)
      (attempt : Attempt config now (.ok ()) entries after) (held : after.held = some shell) :
      Happens config now (.use (.execute script)) (entries ++ shell.calls script)
        { after with held := some shell.served }
  | closed (shell : Shell) (held : now.held = some shell) (named : shell.id ≠ .null) :
      Happens config now (.use .close) [.closeShell shell.handshake shell.id]
        { now with held := none }
  | dropped (shell : Shell) (held : now.held = some shell) (unnamed : shell.id = .null) :
      Happens config now (.use .close) [] { now with held := none }
  | idle (missing : now.held = none) : Happens config now (.use .close) [] now
  | ended (number : Nat) (handshake : Handshake)
      (found : now.abandoned.lookup number = some handshake) :
      Happens config now (.event number) (handshake.lateCalls number)
        { now with abandoned := now.abandoned.filter (·.1 != number) }
  | unknown (number : Nat) (missing : now.abandoned.lookup number = none) :
      Happens config now (.event number) [] now

theorem held_of_connected {now : State} (stands : now.connected = true) :
    ∃ shell, now.held = some shell := by
  unfold State.connected at stands
  cases held : now.held with
  | none =>
      rw [held] at stands
      cases stands
  | some shell => exact ⟨shell, rfl⟩

theorem Attempt.held {config : Config} {now after : State} {entries : List Call}
    (attempt : Attempt config now (.ok ()) entries after) : ∃ shell, after.held = some shell := by
  cases attempt with
  | stood stands => exact held_of_connected stands
  | opened => exact ⟨_, rfl⟩

theorem execute_happens (config : Config) (script : String) (now : State) :
    ∃ entries after, ((transport config).execute script now).2 = after.recordAll entries ∧
      after.calls = now.calls ∧ Happens config now (.use (.execute script)) entries after := by
  obtain ⟨outcome, entries, after, connected, same, attempt⟩ := connect_attempt config now
  rw [Transport.execute, reach_eq_connect]
  cases outcome with
  | error fault =>
      refine ⟨entries, after, ?_, same, .unserved script fault entries after attempt⟩
      rw [bind_apply_error connected]
  | ok _ =>
      obtain ⟨shell, held⟩ := attempt.held
      refine ⟨_, { after with held := some shell.served }, ?_, same,
        .served script entries after shell attempt held⟩
      have holds : (after.recordAll entries).held = some shell := held
      rw [bind_apply_ok connected]
      change (dispatch config script (after.recordAll entries)).2 = _
      rw [dispatch_of_held config script holds, State.recordAll_append]
      rfl

theorem step_happens (config : Config) (now : State) (incident : Incident Nat) :
    ∃ entries after, (setting config).step now incident = after.recordAll entries ∧
      after.calls = now.calls ∧ Happens config now incident entries after := by
  have unmoved : now = now.recordAll [] := by simp [State.recordAll]
  cases incident with
  | use made =>
      cases made with
      | connect =>
          obtain ⟨outcome, entries, after, connected, same, attempt⟩ := connect_attempt config now
          exact ⟨entries, after, congrArg Prod.snd connected, same,
            .attempted outcome entries after attempt⟩
      | execute script =>
          rw [Setting.step_execute]
          exact execute_happens config script now
      | close =>
          cases held : now.held with
          | none =>
              refine ⟨[], now, ?_, rfl, .idle held⟩
              rw [← unmoved]
              exact congrArg Prod.snd (close_of_none held)
          | some shell =>
              cases id : shell.id with
              | null =>
                  refine ⟨[], { now with held := none }, ?_, rfl, .dropped shell held id⟩
                  refine (congrArg Prod.snd (close_of_unnamed held id)).trans ?_
                  simp [State.recordAll]
              | _ =>
                  have named : shell.id ≠ .null := by simp [id]
                  exact ⟨_, { now with held := none },
                    congrArg Prod.snd (close_of_held held named), rfl, .closed shell held named⟩
  | event number =>
      cases found : now.abandoned.lookup number with
      | none =>
          refine ⟨[], now, ?_, rfl, .unknown number found⟩
          rw [← unmoved]
          exact congrArg Prod.snd (complete_of_none found)
      | some handshake =>
          exact ⟨_, { now with abandoned := now.abandoned.filter (·.1 != number) },
            congrArg Prod.snd (complete_of_abandoned found), rfl, .ended number handshake found⟩

end FleetPatch.WinRm
