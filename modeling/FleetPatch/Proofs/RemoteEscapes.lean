import FleetPatch.Proofs.Sessions
import FleetPatch.Proofs.ShellEscapes

/-!
# Faults that leave a remote management connection as they came

Connecting tells every fault of a handshake. What leaves the connection as it came are
faults of the system: where a socket is closed, where a command is run, read or cleaned
up, and where a shell is closed. With what leaves a shell connection these are all.
-/

namespace FleetPatch

set_option autoImplicit false

open Run

namespace WinRm

def ThirdParty (fault : Fault) : Prop :=
  ∃ kind text, fault = .foreign kind text ∧
    (kind.isRemote = true ∨ kind = .remoteOperationTimeout ∨ kind.isSystem = true)

def OfSystem (fault : Fault) : Prop :=
  ∃ kind text, fault = .foreign kind text ∧ kind.isSystem = true

def Probe.faults (probe : Probe) : List Fault := probe.reaching.toList ++ probe.closing.toList

def Command.faults (command : Command) : List Fault :=
  command.running.toList ++ command.reading.toList ++ command.cleaning.toList

def Handshake.faults (handshake : Handshake) : List Fault :=
  handshake.building.toList ++ handshake.opening.toList ++ handshake.closing.toList ++
    handshake.commands.flatMap Command.faults

def Shell.faults (shell : Shell) : List Fault :=
  shell.closing.toList ++ shell.commands.flatMap Command.faults

/-- A script in which nothing fails but the client library and the system, and probes of the port
only as the system does. -/
structure Scripted (now : State) : Prop where
  probes : ∀ fault ∈ now.probes.flatMap Probe.faults, OfSystem fault
  coming : ∀ fault ∈ now.upcoming.flatMap Handshake.faults, ThirdParty fault
  held : ∀ shell, now.held = some shell → ∀ fault ∈ shell.faults, ThirdParty fault

section Telling

variable (config : Config)

theorem OfSystem.untold {fault : Fault} (raised : OfSystem fault) : fault.ofConnection = false := by
  obtain ⟨kind, text, rfl, _⟩ := raised
  rfl

theorem ThirdParty.untold {fault : Fault} (raised : ThirdParty fault) :
    fault.ofConnection = false := by
  obtain ⟨kind, text, rfl, _⟩ := raised
  rfl

theorem probeFault_ofConnection {fault : Fault} (raised : OfSystem fault) :
    (probeFault config fault).ofConnection = true := by
  obtain ⟨kind, text, rfl, system⟩ := raised
  cases kind <;> first | rfl | cases system

theorem handshakeFault_ofConnection (fault : Fault) :
    (handshakeFault config fault).ofConnection = true := by
  cases fault with
  | foreign kind text =>
      simp only [handshakeFault]
      split
      · rfl
      · split <;> rfl
  | _ => rfl

theorem commandFault_told {fault : Fault} (known : isTransportFault fault = true) :
    (commandFault config fault).ofConnection = true := by
  cases fault with
  | foreign kind text =>
      simp only [commandFault]
      split
      · rfl
      · rfl
  | _ => cases known

theorem commandFault_untold {fault : Fault} (unknown : isTransportFault fault = false) :
    commandFault config fault = fault := by
  cases fault with
  | foreign kind text =>
      have noCredentials : kind.isRemoteAuthentication = false := by
        cases kind <;> first | rfl | cases unknown
      simp only [commandFault, noCredentials, unknown, Bool.false_eq_true, if_false]
  | _ => rfl

theorem Command.answer_fault {command : Command} {fault : Fault}
    (failed : command.answer = .error fault) : fault ∈ command.faults := by
  unfold Command.answer at failed
  unfold Command.faults
  cases running : command.running with
  | some stop =>
      rw [running] at failed
      cases failed
      simp
  | none =>
      rw [running] at failed
      dsimp only at failed
      cases cleaning : command.cleaning with
      | some stop =>
          rw [cleaning] at failed
          cases failed
          simp
      | none =>
          cases reading : command.reading with
          | some stop =>
              rw [cleaning, reading] at failed
              cases failed
              simp
          | none =>
              rw [cleaning, reading] at failed
              cases failed

theorem Shell.next_faults (shell : Shell) :
    ∀ fault ∈ shell.next.faults, fault ∈ shell.faults := by
  intro fault member
  unfold Shell.next at member
  cases coming : shell.commands with
  | nil =>
      rw [coming] at member
      cases member
  | cons command rest =>
      rw [coming] at member
      simp only [Shell.faults, coming, List.flatMap_cons]
      exact List.mem_append_right _ (List.mem_append_left _ member)

theorem closingResult_eq_error {failure : Option Fault} {fault : Fault} :
    closingResult failure = .error fault ↔
      failure = some fault ∧ isTransportFault fault = false := by
  cases failure with
  | none => exact iff_of_false nofun (fun failed => nomatch failed.1)
  | some cause =>
      cases known : isTransportFault cause with
      | true =>
          refine iff_of_false (fun failed => ?_) (fun failed => ?_)
          · simp only [closingResult, known, if_true] at failed
            cases failed
          · cases failed.1
            rw [known] at failed
            cases failed.2
      | false =>
          simp only [closingResult, known, Bool.false_eq_true, if_false]
          constructor
          · intro failed
            cases failed
            exact ⟨rfl, known⟩
          · intro failed
            cases failed.1
            rfl

end Telling

section Keeping

variable {config : Config}

theorem Scripted.nextProbe {now : State} (scripted : Scripted now) :
    ∀ fault ∈ now.nextProbe.faults, OfSystem fault := by
  intro fault member
  unfold State.nextProbe at member
  cases coming : now.probes with
  | nil =>
      rw [coming] at member
      cases member
  | cons probe rest =>
      rw [coming] at member
      apply scripted.probes fault
      rw [coming]
      exact List.mem_flatMap.mpr ⟨probe, List.mem_cons_self, member⟩

theorem Scripted.nextHandshake {now : State} (scripted : Scripted now) :
    ∀ fault ∈ now.nextHandshake.faults, ThirdParty fault := by
  intro fault member
  unfold State.nextHandshake at member
  cases coming : now.upcoming with
  | nil =>
      rw [coming] at member
      cases member
  | cons handshake rest =>
      rw [coming] at member
      apply scripted.coming fault
      rw [coming]
      exact List.mem_flatMap.mpr ⟨handshake, List.mem_cons_self, member⟩

theorem Scripted.probed {now : State} (scripted : Scripted now) : Scripted now.probed where
  probes := by
    intro fault member
    obtain ⟨probe, amongst, raised⟩ := List.mem_flatMap.mp member
    exact scripted.probes fault (List.mem_flatMap.mpr ⟨probe, List.mem_of_mem_tail amongst, raised⟩)
  coming := scripted.coming
  held := scripted.held

theorem Scripted.begun {now : State} (scripted : Scripted now) : Scripted now.begun where
  probes := scripted.probes
  coming := by
    intro fault member
    obtain ⟨handshake, amongst, raised⟩ := List.mem_flatMap.mp member
    exact scripted.coming fault
      (List.mem_flatMap.mpr ⟨handshake, List.mem_of_mem_tail amongst, raised⟩)
  held := scripted.held

theorem Scripted.attempt {now after : State} {outcome : Except Fault Unit} {entries : List Call}
    (scripted : Scripted now) (attempt : Attempt config now outcome entries after) :
    Scripted after := by
  have begun := scripted.probed.begun
  cases attempt with
  | stood => exact scripted
  | unreached => exact scripted.probed
  | refused => exact begun
  | unwaited => exact begun
  | abandoned => exact ⟨begun.probes, begun.coming, begun.held⟩
  | opened =>
      refine ⟨begun.probes, begun.coming, fun shell held fault member => ?_⟩
      cases held
      apply scripted.nextHandshake fault
      rcases List.mem_append.mp member with closing | command
      · exact List.mem_append_left _ (List.mem_append_right _ closing)
      · exact List.mem_append_right _ command

theorem Scripted.happens {now after : State} {incident : Incident Nat} {entries : List Call}
    (scripted : Scripted now) (happens : Happens config now incident entries after) :
    Scripted after := by
  cases happens with
  | attempted outcome _ _ attempt => exact scripted.attempt attempt
  | unserved text fault _ _ attempt => exact scripted.attempt attempt
  | served text earlier before shell attempt held =>
      have later := scripted.attempt attempt
      refine ⟨later.probes, later.coming, fun other same fault member => ?_⟩
      cases same
      apply later.held shell held fault
      rcases List.mem_append.mp member with closing | onCommand
      · exact List.mem_append_left _ closing
      · obtain ⟨command, amongst, raised⟩ := List.mem_flatMap.mp onCommand
        exact List.mem_append_right _
          (List.mem_flatMap.mpr ⟨command, List.mem_of_mem_tail amongst, raised⟩)
  | closed => exact ⟨scripted.probes, scripted.coming, nofun⟩
  | dropped => exact ⟨scripted.probes, scripted.coming, nofun⟩
  | idle => exact scripted
  | ended => exact ⟨scripted.probes, scripted.coming, scripted.held⟩
  | unknown => exact scripted

theorem after_scripted {start : State} (scripted : Scripted start)
    (incidents : List (Incident Nat)) : Scripted ((setting config).after incidents start) := by
  have keeps (now : State) (incident : Incident Nat) (kept : Scripted now) :
      Scripted ((setting config).step now incident) := by
    obtain ⟨entries, after, stepped, _, happens⟩ := step_happens config now incident
    have later := kept.happens happens
    rw [stepped]
    exact ⟨later.probes, later.coming, later.held⟩
  exact Setting.after_keeps keeps incidents scripted

end Keeping

inductive Escapes (config : Config) (now : State) : Use → Fault → Prop where
  | socketClosing (made : Use) (fault : Fault) (reaches : made.reaches = true)
      (missing : now.connected = false) (reached : now.nextProbe.reaching = none)
      (failed : now.nextProbe.closing = some fault) : Escapes config now made fault
  | command (text : String) (fault : Fault) (shell : Shell)
      (connected : (connect config now).1 = .ok ())
      (held : (connect config now).2.held = some shell)
      (failed : shell.next.answer = .error fault) (unknown : isTransportFault fault = false) :
      Escapes config now (.execute text) fault
  | shellClosing (fault : Fault) (shell : Shell) (held : now.held = some shell)
      (named : shell.id ≠ .null) (failed : shell.closing = some fault)
      (unknown : isTransportFault fault = false) : Escapes config now .close fault

section Uses

variable (config : Config)

theorem connect_escapes {now : State} (scripted : Scripted now) {fault : Fault}
    (failed : (connect config now).1 = .error fault) (untold : fault.ofConnection = false)
    {made : Use} (reaches : made.reaches = true) : Escapes config now made fault := by
  -- All that comes behind the probe is told as a fault of the handshake.
  obtain ⟨outcome, entries, after, connected, _, attempt⟩ := connect_attempt config now
  rw [connected] at failed
  cases attempt with
  | stood | opened => cases failed
  | unreached cause missing stopped =>
      cases failed
      unfold Probe.result at stopped
      cases reaching : now.nextProbe.reaching with
      | none =>
          rw [reaching] at stopped
          exact .socketClosing made fault reaches missing reaching (failing_eq_error.mp stopped)
      | some cause =>
          rw [reaching] at stopped
          cases stopped
          have raised : OfSystem cause :=
            scripted.nextProbe cause (by simp [Probe.faults, reaching])
          rw [probeFault_ofConnection config raised] at untold
          cases untold
  | refused cause =>
      cases failed
      rw [handshakeFault_ofConnection] at untold
      cases untold
  | abandoned | unwaited =>
      cases failed
      cases untold

theorem socketClosing_raised {now : State} (scripted : Scripted now) {fault : Fault}
    (missing : now.connected = false) (reached : now.nextProbe.reaching = none)
    (closing : now.nextProbe.closing = some fault) :
    (connect config now).1 = .error fault ∧ fault.ofConnection = false := by
  have raised : OfSystem fault := scripted.nextProbe fault (by simp [Probe.faults, closing])
  have probed := probe_apply config now
  have result : now.nextProbe.result config = .error fault := by
    simp only [Probe.result, reached, closing, failing]
  rw [result] at probed
  refine ⟨?_, raised.untold⟩
  rw [connect, bind_apply_ok (state_apply now), if_neg (by rw [missing]; exact Bool.false_ne_true),
    bind_apply_error probed]

theorem held_of_connect {now : State} (connected : (connect config now).1 = .ok ()) :
    ∃ shell, (connect config now).2.held = some shell := by
  obtain ⟨outcome, entries, after, ended, _, attempt⟩ := connect_attempt config now
  rw [ended] at connected ⊢
  cases connected
  exact attempt.held

theorem connect_scripted {now : State} (scripted : Scripted now) :
    Scripted (connect config now).2 := by
  obtain ⟨outcome, entries, after, connected, _, attempt⟩ := connect_attempt config now
  have later := scripted.attempt attempt
  rw [connected]
  exact ⟨later.probes, later.coming, later.held⟩

/-- What leaves the dispatching of a command as it came: a fault that is not one
of the transport. -/
theorem dispatch_escapes_iff (text : String) {now : State} {shell : Shell}
    (held : now.held = some shell) (third : ∀ fault ∈ shell.faults, ThirdParty fault)
    (fault : Fault) :
    (dispatch config text now).1 = .error fault ∧ fault.ofConnection = false ↔
      shell.next.answer = .error fault ∧ isTransportFault fault = false := by
  rw [dispatch_of_held config text held]
  constructor
  · intro ended
    obtain ⟨failed, untold⟩ := ended
    obtain ⟨cause, raised, rfl⟩ := mapError_eq_error.mp failed
    cases known : isTransportFault cause with
    | true =>
        rw [commandFault_told config known] at untold
        cases untold
    | false =>
        rw [commandFault_untold config known]
        exact ⟨raised, known⟩
  · intro escapes
    obtain ⟨raised, unknown⟩ := escapes
    have came := third fault (shell.next_faults fault (Command.answer_fault raised))
    refine ⟨mapError_eq_error.mpr ⟨fault, raised, ?_⟩, came.untold⟩
    exact (commandFault_untold config unknown).symm

theorem execute_escapes_iff (text : String) {now : State} (scripted : Scripted now)
    (fault : Fault) :
    ((transport config).execute text now).1 = .error fault ∧ fault.ofConnection = false ↔
      Escapes config now (.execute text) fault := by
  have connectScripted := connect_scripted config scripted
  rw [Transport.execute, reach_eq_connect]
  constructor
  · intro ended
    obtain ⟨failed, untold⟩ := ended
    rcases bind_eq_error.mp failed with stopped | ⟨_, after, connected, stopped⟩
    · exact connect_escapes config scripted stopped untold rfl
    · have succeeded : (connect config now).1 = .ok () := congrArg Prod.fst connected
      obtain ⟨shell, held⟩ := held_of_connect config succeeded
      have heldAfter : after.held = some shell := by
        rw [← held, connected]
      obtain ⟨raised, unknown⟩ := (dispatch_escapes_iff config text heldAfter
        (connectScripted.held shell held) fault).mp ⟨stopped, untold⟩
      exact .command text fault shell succeeded held raised unknown
  · intro escapes
    cases escapes with
    | socketClosing _ _ _ missing reached closing =>
        have raised := socketClosing_raised config scripted missing reached closing
        exact ⟨bind_eq_error.mpr (.inl raised.1), raised.2⟩
    | command _ _ shell succeeded held raised unknown =>
        have dispatched := (dispatch_escapes_iff config text held
          (connectScripted.held shell held) fault).mpr ⟨raised, unknown⟩
        exact ⟨bind_eq_error.mpr (.inr ⟨(), _, Prod.ext succeeded rfl, dispatched.1⟩),
          dispatched.2⟩

theorem close_escapes_iff {now : State} (scripted : Scripted now) (fault : Fault) :
    (close now).1 = .error fault ∧ fault.ofConnection = false ↔
      Escapes config now .close fault := by
  cases held : now.held with
  | none =>
      rw [close_of_none held]
      refine iff_of_false (fun ended => nomatch ended.1) (fun escapes => ?_)
      cases escapes with
      | socketClosing _ _ reaches => cases reaches
      | shellClosing _ _ same => rw [held] at same; cases same
  | some shell =>
      by_cases unnamed : shell.id = .null
      · rw [close_of_unnamed held unnamed]
        refine iff_of_false (fun ended => nomatch ended.1) (fun escapes => ?_)
        cases escapes with
        | socketClosing _ _ reaches => cases reaches
        | shellClosing _ _ same named =>
            rw [held] at same
            cases same
            exact named unnamed
      · rw [close_of_held held unnamed]
        constructor
        · intro ended
          obtain ⟨failed, unknown⟩ := closingResult_eq_error.mp ended.1
          exact .shellClosing fault shell held unnamed failed unknown
        · intro escapes
          cases escapes with
          | socketClosing _ _ reaches => cases reaches
          | shellClosing _ other same named failed unknown =>
              rw [held] at same
              cases same
              have raised : ThirdParty fault :=
                scripted.held shell held fault (by simp [Shell.faults, failed])
              exact ⟨closingResult_eq_error.mpr ⟨failed, unknown⟩, raised.untold⟩

/-- Which faults leave a use as they came, when the client library and the system fail. -/
theorem use_escapes_iff {now : State} (scripted : Scripted now) (made : Use) (fault : Fault) :
    ((transport config).use made now).1 = .error fault ∧ fault.ofConnection = false ↔
      Escapes config now made fault := by
  cases made with
  | connect =>
      constructor
      · intro ended
        exact connect_escapes config scripted ended.1 ended.2 rfl
      · intro escapes
        cases escapes with
        | socketClosing _ _ _ missing reached closing =>
            exact socketClosing_raised config scripted missing reached closing
  | execute text =>
      rw [Transport.use_execute_apply, map_eq_error]
      exact execute_escapes_iff config text scripted fault
  | close => exact close_escapes_iff config scripted fault

end Uses

end WinRm

/-- Over all uses of a connection of either kind and whatever the client libraries and the system
do: a use ends with a fault that is not told in the words of a connection exactly if one of the
listed calls failed, or a shell connection has no transport. -/
theorem escapes_iff (homes : Path.Homes) (shellConfig : Ssh.Config) (keyFiles : Ssh.KeyFiles)
    (clients : List Ssh.Client) (shellIncidents : List (Incident Ssh.Link))
    (remoteConfig : WinRm.Config) (probes : List WinRm.Probe) (handshakes : List WinRm.Handshake)
    (remoteIncidents : List (Incident Nat)) (made : Use) (fault : Fault)
    (shellScripted : ∀ raised ∈ (Ssh.State.fresh keyFiles clients).faults, Ssh.ThirdParty raised)
    (remoteScripted : WinRm.Scripted (.fresh probes handshakes)) :
    let shell := (Ssh.setting homes shellConfig).after shellIncidents (.fresh keyFiles clients)
    let remote := (WinRm.setting remoteConfig).after remoteIncidents (.fresh probes handshakes)
    (((Ssh.transport homes shellConfig).use made shell).1 = .error fault ∧
        fault.ofConnection = false ↔
      Ssh.Escapes homes shellConfig shell made fault) ∧
    (((WinRm.transport remoteConfig).use made remote).1 = .error fault ∧
        fault.ofConnection = false ↔
      WinRm.Escapes remoteConfig remote made fault) := by
  intro shell remote
  have shellNow := Ssh.after_scripted homes shellConfig shellScripted shellIncidents
  have remoteNow : WinRm.Scripted remote := WinRm.after_scripted remoteScripted remoteIncidents
  exact ⟨Ssh.use_escapes_iff homes shellConfig shellNow made fault,
    WinRm.use_escapes_iff remoteConfig remoteNow made fault⟩

/-- A shell connection that is reset while a command is sent, and a remote management connection on
which the operation times out, let nothing leave as it came. -/
theorem interrupted_commands_told :
    let channel : Ssh.Channel := ⟨none, some (.foreign .reset "lost"), none, none, some 0, []⟩
    let client : Ssh.Client := ⟨none, none, .active, [channel]⟩
    let command : WinRm.Command :=
      ⟨none, some (.foreign .remoteOperationTimeout "late"), none, .absent, .absent, some 0⟩
    let handshake : WinRm.Handshake := ⟨none, none, none, .timely, .str "shell-1", [command]⟩
    (∀ raised ∈ (Ssh.State.fresh [] [client]).faults, Ssh.ThirdParty raised) ∧
    WinRm.Scripted (.fresh [] [handshake]) ∧
    ∀ fault,
      ¬ Ssh.Escapes ⟨"/root", []⟩ (.ofHost (.str "web") (.str "ops"))
          (.fresh [] [client]) (.execute "hostname") fault ∧
        ¬ WinRm.Escapes (.ofHost (.str "dc") (.str "ops") (.str "secret") .null)
          (.fresh [] [handshake]) (.execute "hostname") fault := by
  intro channel client command handshake
  have shellScripted : ∀ raised ∈ (Ssh.State.fresh [] [client]).faults, Ssh.ThirdParty raised := by
    intro raised member
    cases List.mem_singleton.mp member
    exact ⟨.reset, "lost", rfl, .inr rfl⟩
  have remoteScripted : WinRm.Scripted (.fresh [] [handshake]) := by
    refine ⟨fun raised member => (nomatch member), fun raised member => ?_, nofun⟩
    cases List.mem_singleton.mp member
    exact ⟨.remoteOperationTimeout, "late", rfl, .inr (.inl rfl)⟩
  refine ⟨shellScripted, remoteScripted, fun fault => ?_⟩
  have exactly := escapes_iff ⟨"/root", []⟩ (.ofHost (.str "web") (.str "ops")) [] [client] []
    (.ofHost (.str "dc") (.str "ops") (.str "secret") .null) [] [handshake] []
    (.execute "hostname") fault shellScripted remoteScripted
  constructor
  · intro escapes
    have ended := exactly.1.mpr escapes
    cases ended.1
    cases ended.2
  · intro escapes
    have ended := exactly.2.mpr escapes
    cases ended.1
    cases ended.2

/-- A client without a transport, and a reset while a command is run, leave as they came. -/
theorem raw_faults_escape :
    let command : WinRm.Command :=
      ⟨some (.foreign .reset "lost"), none, none, .absent, .absent, some 0⟩
    ((Ssh.transport ⟨"/root", []⟩ (.ofHost (.str "web") (.str "ops"))).use (.execute "uptime")
        (.fresh [] [⟨none, none, .absent, []⟩])).1 = .error .unsupportedOperation ∧
      ((WinRm.transport (.ofHost (.str "dc") (.str "ops") (.str "secret") .null)).use
        (.execute "hostname")
        (.fresh [] [⟨none, none, none, .timely, .str "shell-1", [command]⟩])).1 =
          .error (.foreign .reset "lost") :=
  ⟨rfl, rfl⟩

end FleetPatch
