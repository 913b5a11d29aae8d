import FleetPatch.Proofs.History
import FleetPatch.Proofs.RemoteCalls
import FleetPatch.Proofs.ShellCalls
import FleetPatch.Rehearsal

/-!
# Requests to restart that were never sent

A command connects on demand, and a request to restart is reported for every
connection and every command fault. A fault of getting to the host is therefore
reported as a request that reached it. Over every transport this is the only way
in which a request is reported that was not sent.
-/

namespace FleetPatch

set_option autoImplicit false

open Run

section Reports

variable {σ κ ρ β : Type} {log : σ → List κ} {item? : κ → Option ρ} {item : ρ}

/-- What is appended to a log between two states has one item, and no other. -/
def AppendsOne (log : σ → List κ) (item? : κ → Option ρ) (item : ρ) (now after : σ) : Prop :=
  ∃ entries, log after = log now ++ entries ∧ entries.filterMap item? = [item]

def ReportsSent (log : σ → List κ) (item? : κ → Option ρ) (item : ρ)
    (run : Run Fault σ RebootRequest) (now : σ) : Prop :=
  ∀ request, (run now).1 = .ok request → AppendsOne log item? item now (run now).2

theorem not_appendsOne (item : ρ) {run : Run Fault σ β}
    (quiet : LogsOnly log (fun entry => item? entry = none) run) (now : σ) :
    ¬ AppendsOne log item? item now (run now).2 := by
  rintro ⟨entries, appended, exactly⟩
  obtain ⟨silent, same, none⟩ := quiet now
  have agree : silent = entries := List.append_cancel_left (same.symm.trans appended)
  rw [← agree, List.filterMap_eq_nil_iff.mpr none] at exactly
  cases exactly

theorem appendsOne_bind {prepare : Run Fault σ β} {deliver : β → Run Fault σ Reply}
    (prepares : LogsOnly log (fun entry => item? entry = none) prepare)
    (delivers : ∀ value, LogsItems log item? [item] (deliver value)) {now after : σ} {value : β}
    (prepared : prepare now = (.ok value, after)) :
    AppendsOne log item? item now ((prepare >>= deliver) now).2 := by
  obtain ⟨earlier, appended, silent⟩ := prepares now
  obtain ⟨later, appendedLater, sent⟩ := delivers value after
  rw [prepared] at appended
  refine ⟨earlier ++ later, ?_, ?_⟩
  · rw [bind_apply_ok prepared, appendedLater, appended, List.append_assoc]
  · rw [List.filterMap_append, List.filterMap_eq_nil_iff.mpr silent, sent]
    rfl

theorem ofAnswer_error_of_restart {fault : Fault} (restart : fault.mayBeRestart = true)
    (label command : String) :
    RebootRequest.ofAnswer label command (.error fault) =
      .ok ⟨command, false, fault.describe⟩ := by
  simp only [RebootRequest.ofAnswer, restart, if_true]

theorem ofAnswer_error_of_raised {fault : Fault} (raised : fault.mayBeRestart = false)
    (label command : String) :
    RebootRequest.ofAnswer label command (.error fault) = .error fault := by
  simp only [RebootRequest.ofAnswer, raised, Bool.false_eq_true, if_false]

/-- A command may be executed in two steps of which only the second sends it, and does so whatever
comes of it. Then every reported request was sent exactly if what stops the first step is raised. -/
theorem reportsSent_iff {host : Transport σ} {label command : String}
    (prepare : Run Fault σ β) (deliver : β → Run Fault σ Reply)
    (split : host.execute command = prepare >>= deliver)
    (prepares : LogsOnly log (fun entry => item? entry = none) prepare)
    (delivers : ∀ value, LogsItems log item? [item] (deliver value)) (now : σ) :
    ReportsSent log item? item (host.requestReboot label command) now ↔
      ∀ fault, (prepare now).1 = .error fault → fault.mayBeRestart = false := by
  unfold ReportsSent
  rw [Transport.requestReboot_apply, split]
  rcases prepared : prepare now with ⟨outcome, after⟩
  cases outcome with
  | ok value =>
      have sent := appendsOne_bind prepares delivers prepared
      exact ⟨fun _ fault failed => (by cases failed), fun _ request _ => sent⟩
  | error cause =>
      have unsent : ¬ AppendsOne log item? item now after := by
        have still := not_appendsOne item prepares now
        rwa [prepared] at still
      rw [bind_apply_error prepared]
      -- Nothing was sent, so whether a request is reported depends on the fault alone.
      cases restart : cause.mayBeRestart with
      | true =>
          rw [ofAnswer_error_of_restart restart]
          constructor
          · intro reports
            exact absurd (reports _ rfl) unsent
          · intro raised
            rw [raised cause rfl] at restart
            cases restart
      | false =>
          rw [ofAnswer_error_of_raised restart]
          constructor
          · rintro _ fault failed
            cases failed
            exact restart
          · intro _ request reported
            cases reported

end Reports

def dispatched? : String × Exchange → Option (String × String)
  | (name, .execute command _) => some (name, command)
  | _ => none

def Ssh.acquire (homes : Path.Homes) (config : Ssh.Config) : Run Fault Ssh.State Ssh.Channel := do
  (Ssh.transport homes config).reach
  Ssh.openChannel config.hostname.text

def WinRm.acquire (config : WinRm.Config) : Run Fault WinRm.State WinRm.Shell := do
  (WinRm.transport config).reach
  WinRm.heldShell

section Sending

variable {σ : Type}

theorem logsOnly_reach {κ : Type} {log : σ → List κ} {P : κ → Prop} {host : Transport σ}
    (connects : LogsOnly log P host.connect) : LogsOnly log P host.reach := by
  apply logs_state_bind
  intro now
  cases host.connected now with
  | true => exact logsOnly_pure ()
  | false => exact connects

theorem recorded_reports_sent_iff (name label command : String) (host : Transport σ)
    (history : History) (now : σ) :
    ReportsSent Prod.fst dispatched? (name, command)
        ((host.recorded name).requestReboot label command) (history, now) ↔
      (host.connected now = false → ∀ fault, (host.connect now).1 = .error fault →
        fault.mayBeRestart = false) := by
  refine (reportsSent_iff (host.recorded name).reach
    (fun _ => (host.recorded name).dispatch command) rfl ?_ ?_ _).trans ?_
  · refine logsOnly_reach ((records_recording name .connect host.connect).mono ?_)
    intro entries outcome tells
    cases tells with
    | step => exact List.forall_mem_singleton.mpr rfl
  · intro value
    apply (records_recording name (.execute command) (host.dispatch command)).mono
    intro entries outcome tells
    cases tells with
    | step => rfl
  · constructor
    · intro raised missing fault failed
      exact raised fault (Transport.reach_eq_error.mpr ⟨missing, failed⟩)
    · intro raised fault failed
      obtain ⟨missing, failed⟩ := Transport.reach_eq_error.mp failed
      exact raised missing fault failed

theorem shell_reports_sent_iff (homes : Path.Homes) (config : Ssh.Config) (label command : String)
    (now : Ssh.State) :
    ReportsSent Ssh.State.calls Ssh.Call.sent? command
        ((Ssh.transport homes config).requestReboot label command) now ↔
      ∀ fault, (Ssh.acquire homes config now).1 = .error fault → fault.mayBeRestart = false := by
  refine reportsSent_iff (Ssh.acquire homes config) _ ?_ ?_
    (Ssh.deliver_sends config.hostname.text command) now
  · unfold Ssh.acquire Transport.execute
    rw [bind_assoc]
    rfl
  · exact LogsOnly.bind (logsOnly_reach (Ssh.connect_sends_nothing homes config)) fun _ =>
      Ssh.openChannel_sends_nothing config.hostname.text

theorem remote_reports_sent_iff (config : WinRm.Config) (label command : String)
    (now : WinRm.State) :
    ReportsSent WinRm.State.calls WinRm.Call.ran? (WinRm.invocation command)
        ((WinRm.transport config).requestReboot label command) now ↔
      ∀ fault, (WinRm.acquire config now).1 = .error fault → fault.mayBeRestart = false := by
  refine reportsSent_iff (WinRm.acquire config)
    (fun shell => orHandle (WinRm.converse shell command) fun fault =>
      fail (WinRm.commandFault config fault)) ?_ ?_ ?_ now
  · unfold WinRm.acquire Transport.execute
    rw [bind_assoc]
    rfl
  · exact LogsOnly.bind (logsOnly_reach (WinRm.connect_runs_nothing config)) fun _ =>
      WinRm.heldShell_runs_nothing
  · intro shell
    rw [orHandle_fail]
    exact LogsItems.mapFault _ (WinRm.converse_runs shell command)

theorem heldShell_fault {now : WinRm.State} {fault : Fault}
    (failed : (WinRm.heldShell now).1 = .error fault) : fault = .unsupportedOperation := by
  unfold WinRm.heldShell at failed
  rw [bind_apply_ok (state_apply now)] at failed
  cases held : now.held with
  | none =>
      simp only [held] at failed
      exact (Except.error.inj failed).symm
  | some shell =>
      simp only [held] at failed
      cases failed

/-- A shell that cannot be taken raises, so only connecting counts. -/
theorem acquire_raises_iff (config : WinRm.Config) (now : WinRm.State) :
    (∀ fault, (WinRm.acquire config now).1 = .error fault → fault.mayBeRestart = false) ↔
      (now.connected = false → ∀ fault, (WinRm.connect config now).1 = .error fault →
        fault.mayBeRestart = false) := by
  constructor
  · intro raised missing fault failed
    exact raised fault (bind_eq_error.mpr (.inl (Transport.reach_eq_error.mpr ⟨missing, failed⟩)))
  · intro raised fault failed
    rcases bind_eq_error.mp failed with failed | ⟨_, after, _, failed⟩
    · obtain ⟨missing, failed⟩ := Transport.reach_eq_error.mp failed
      exact raised missing fault failed
    · rw [heldShell_fault failed]
      rfl

end Sending

/-- Every reported request to restart was sent exactly if what stops the way to the host is raised:
over any transport the fault of connecting on demand, over a shell connection also that of opening
a channel. -/
theorem reboot_reports_sent_iff (ecosystem : Ecosystem) :
    (∀ (σ : Type) (host : Transport σ) (name : String) (history : History) (now : σ),
      ReportsSent Prod.fst dispatched? (name, ecosystem.restartCommand)
          (ecosystem.reboot (host.recorded name)) (history, now) ↔
        (host.connected now = false → ∀ fault, (host.connect now).1 = .error fault →
          fault.mayBeRestart = false)) ∧
    (∀ (homes : Path.Homes) (config : Ssh.Config) (now : Ssh.State),
      ReportsSent Ssh.State.calls Ssh.Call.sent? ecosystem.restartCommand
          (ecosystem.reboot (Ssh.transport homes config)) now ↔
        ∀ fault, (Ssh.acquire homes config now).1 = .error fault → fault.mayBeRestart = false) ∧
    (∀ (config : WinRm.Config) (now : WinRm.State),
      ReportsSent WinRm.State.calls WinRm.Call.ran? (WinRm.invocation ecosystem.restartCommand)
          (ecosystem.reboot (WinRm.transport config)) now ↔
        (now.connected = false → ∀ fault, (WinRm.connect config now).1 = .error fault →
          fault.mayBeRestart = false)) := by
  refine ⟨?_, ?_, ?_⟩
  · intro σ host name history now
    rw [Ecosystem.reboot_eq_requestReboot]
    exact recorded_reports_sent_iff name ecosystem.label ecosystem.restartCommand host history now
  · intro homes config now
    rw [Ecosystem.reboot_eq_requestReboot]
    exact shell_reports_sent_iff homes config ecosystem.label ecosystem.restartCommand now
  · intro config now
    rw [Ecosystem.reboot_eq_requestReboot, remote_reports_sent_iff]
    exact acquire_raises_iff config now

/-- A host that does not answer is reported to be restarting, and nothing was sent to it. -/
theorem unreached_host_reported :
    ¬ ReportsSent Prod.fst dispatched? ("web", (Ecosystem.packages .apt).restartCommand)
      ((Ecosystem.packages .apt).reboot ((Rehearsal.transport "web").recorded "web"))
      ([], [("web", ⟨[some (.connection (.reported "down"))], [], false⟩)]) := by
  intro reports
  obtain ⟨entries, appended, exactly⟩ := reports ⟨Manager.rebootCommand, false, "down"⟩ rfl
  cases appended
  cases exactly

end FleetPatch
