import FleetPatch.Proofs.RemoteEscapes
import FleetPatch.Proofs.ShellRefusals

/-!
# How connections are refused

A remote management connection does not come about if the port is not reached, if the
handshake fails, or if it outlasts its limit. With what refuses a shell connection this
is how connecting fails: told as refused credentials exactly where the client library
says so or a key cannot be used, told as a failed connection everywhere else, and
leaving what was held before.
-/

namespace FleetPatch

set_option autoImplicit false

open Run

namespace WinRm

def Fails (config : Config) (now : State) : Prop :=
  now.nextProbe.reaching ≠ none ∨ unorderedKind? config.connectTimeout ≠ none ∨
    now.nextHandshake.result config.connectTimeout ≠ .ok () ∨
    now.nextHandshake.outlasts config.connectTimeout = true

/-- Credentials that keep a connection from coming about: the handshake fails, while someone waits
for it, as the client library says that they were not accepted. -/
def Refused (config : Config) (now : State) : Prop :=
  now.nextProbe.reaching = none ∧ unorderedKind? config.connectTimeout = none ∧
    ∃ kind text, now.nextHandshake.result config.connectTimeout = .error (.foreign kind text) ∧
      kind.isRemoteAuthentication = true

theorem Refused.fails {config : Config} {now : State} (refused : Refused config now) :
    Fails config now := by
  obtain ⟨_, _, kind, text, failed, _⟩ := refused
  simp [Fails, failed]

/-- What can happen to a connection attempt: the system keeps the port from being reached, and
anything that is no finding of this library is raised in the handshake. -/
structure Listed (now : State) : Prop where
  reaching : ∀ fault, now.nextProbe.reaching = some fault → OfSystem fault
  building : ∀ fault, now.nextHandshake.building = some fault → fault.isOwn = false
  opening : ∀ fault, now.nextHandshake.opening = some fault → fault.isOwn = false

structure Undone (now last : State) : Prop where
  unconnected : last.connected = false
  kept : last.held = now.held

theorem Listed.result {now : State} (listed : Listed now) {limit : Json} {cause : Fault}
    (failed : now.nextHandshake.result limit = .error cause) : cause.isOwn = false := by
  unfold Handshake.result at failed
  cases building : now.nextHandshake.building with
  | some fault =>
      rw [building] at failed
      cases failed
      exact listed.building cause building
  | none =>
      rw [building] at failed
      have raised := failing_eq_error.mp failed
      split at raised
      · cases raised
      · exact listed.opening cause raised

theorem probeFault_connection (config : Config) {fault : Fault} (raised : OfSystem fault) :
    ∃ cause, probeFault config fault = .connection cause := by
  obtain ⟨kind, text, rfl, system⟩ := raised
  cases kind <;> first | exact ⟨_, rfl⟩ | cases system

theorem handshakeFault_classified (config : Config) {cause : Fault}
    (foreign : cause.isOwn = false) :
    (∃ kind text, cause = .foreign kind text ∧ kind.isRemoteAuthentication = true) ∧
        (∃ detail, handshakeFault config cause = .authentication detail) ∨
      (¬ ∃ kind text, cause = .foreign kind text ∧ kind.isRemoteAuthentication = true) ∧
        ∃ detail, handshakeFault config cause = .connection detail := by
  cases cause with
  | foreign kind text =>
      by_cases credentials : kind.isRemoteAuthentication = true
      · exact .inl ⟨⟨kind, text, rfl, credentials⟩, _, by simp [handshakeFault, credentials]; rfl⟩
      · refine .inr ⟨by simpa using credentials, ?_⟩
        simp only [handshakeFault, if_neg credentials]
        split
        · exact ⟨_, rfl⟩
        · exact ⟨_, rfl⟩
  | invalidValue | wrongType | unsupportedOperation | unknownName | tooLarge | tooDeep =>
      exact .inr ⟨by simp, _, rfl⟩
  | _ => cases foreign

variable {config : Config}

/-- Connecting fails as credentials are refused or as the connection fails, by the cause alone. -/
theorem Listed.classified {now : State} (listed : Listed now) (missing : now.connected = false)
    (closable : now.nextProbe.closing = none) :
    Classified (connect config now).1 (Refused config now) (Fails config now) := by
  obtain ⟨outcome, entries, after, connected, _, attempt⟩ := connect_attempt config now
  rw [connected]
  cases attempt with
  | stood stands =>
      rw [missing] at stands
      cases stands
  | unreached fault _ failed =>
      unfold Probe.result at failed
      cases reaching : now.nextProbe.reaching with
      | none =>
          rw [reaching, closable] at failed
          cases failed
      | some cause =>
          rw [reaching] at failed
          obtain ⟨detail, told⟩ := probeFault_connection config (listed.reaching cause reaching)
          simp only [Except.error.injEq] at failed
          rw [← failed, told]
          exact classified_connection detail (by simp [Fails, reaching])
            (by simp [Refused, reaching])
  | refused cause _ reached limit failed =>
      have fails : Fails config now := by simp [Fails, failed]
      have refused_iff : Refused config now ↔
          ∃ kind text, cause = .foreign kind text ∧ kind.isRemoteAuthentication = true := by
        simp [Refused, reached.reaching, limit, failed]
      rcases handshakeFault_classified config (listed.result failed) with
        ⟨credentials, detail, told⟩ | ⟨other, detail, told⟩
      · rw [told]
        exact classified_authentication detail (refused_iff.mpr credentials) fun _ => fails
      · rw [told]
        exact classified_connection detail fails fun refused => other (refused_iff.mp refused)
  | abandoned _ reached limit began late =>
      exact classified_connection _ (by simp [Fails, late]) (by simp [Refused, began])
  | opened _ reached limit succeeded early =>
      exact classified_ok (by simp [Fails, reached.reaching, limit, succeeded, early]) Refused.fails
  | unwaited kind _ reached unordered =>
      exact classified_connection _ (by simp [Fails, unordered]) (by simp [Refused, unordered])

/-- A connection that did not come about is left as it was, whatever stopped it. -/
theorem connect_undone {now : State} (missing : now.connected = false) {fault : Fault}
    (stopped : (connect config now).1 = .error fault) : Undone now (connect config now).2 := by
  obtain ⟨outcome, entries, after, connected, _, attempt⟩ := connect_attempt config now
  rw [connected] at stopped ⊢
  cases attempt with
  | stood | opened => cases stopped
  | unreached | refused | abandoned | unwaited => exact ⟨missing, rfl⟩

end WinRm

/-- Whatever is held and whatever goes wrong with a connection that does not stand: connecting fails
for refused credentials exactly if the client library says so or a key that is there cannot be used,
it fails as a connection for every other cause, and it leaves everything as it was. -/
theorem failing_connect_classified (homes : Path.Homes) (shellConfig : Ssh.Config)
    (shell : Ssh.State) (remoteConfig : WinRm.Config) (remote : WinRm.State)
    (shellListed : Ssh.Listed homes shellConfig shell) (remoteListed : WinRm.Listed remote)
    (shellMissing : shell.connected = false) (remoteMissing : remote.connected = false) :
    let shellEnd := Ssh.connect homes shellConfig shell
    let remoteEnd := WinRm.connect remoteConfig remote
    ((shell.nextClient.closing = none → Classified shellEnd.1
        (Ssh.Refused homes shellConfig shell) (Ssh.Fails homes shellConfig shell)) ∧
      ∀ fault, shellEnd.1 = .error fault → Ssh.Undone shell shellEnd.2) ∧
    (remote.nextProbe.closing = none → Classified remoteEnd.1
        (WinRm.Refused remoteConfig remote) (WinRm.Fails remoteConfig remote)) ∧
      ∀ fault, remoteEnd.1 = .error fault → WinRm.Undone remote remoteEnd.2 := by
  intro shellEnd remoteEnd
  refine ⟨⟨fun closable => ?_, fun fault stopped => ?_⟩, fun closable => ?_,
    fun fault stopped => ?_⟩
  · exact shellListed.classified shellMissing closable
  · exact shellListed.undone shellMissing stopped
  · exact remoteListed.classified remoteMissing closable
  · exact WinRm.connect_undone remoteMissing stopped

/-- A key that asks for a passphrase, with no password to use in its place, and a handshake whose
credentials are not accepted are both told as refused credentials. -/
theorem refused_credentials_told :
    let shellConfig : Ssh.Config :=
      { Ssh.Config.ofHost (.str "web") (.str "ops") with privateKeyPath := .str "/root/id" }
    let shell := Ssh.State.fresh [("/root/id", [(.rsa, .foreign .keyPassphrase "locked"),
      (.ed25519, .foreign .shell "unpack"), (.ecdsa, .foreign .directory "folder")])] []
    let remoteConfig : WinRm.Config := .ofHost (.str "dc") (.str "ops") (.str "secret") .null
    let remote := WinRm.State.fresh []
      [⟨none, some (.foreign .remoteCredentials "bad password"), none, .timely, .null, []⟩]
    Ssh.Listed ⟨"/root", []⟩ shellConfig shell ∧ WinRm.Listed remote ∧
      (∃ cause, (Ssh.connect ⟨"/root", []⟩ shellConfig shell).1 =
        .error (.authentication cause)) ∧
      ∃ cause, (WinRm.connect remoteConfig remote).1 = .error (.authentication cause) := by
  intro shellConfig shell remoteConfig remote
  have shellListed : Ssh.Listed ⟨"/root", []⟩ shellConfig shell := by
    refine ⟨⟨some "/root/id", rfl⟩, fun fault member => ?_, nofun⟩
    have raised : fault = .foreign .keyPassphrase "locked" ∨ fault = .foreign .shell "unpack" ∨
        fault = .foreign .directory "folder" := by
      simpa [shell, Ssh.State.fresh] using member
    rcases raised with rfl | rfl | rfl
    · exact ⟨_, _, rfl, .inl rfl⟩
    · exact ⟨_, _, rfl, .inl rfl⟩
    · exact ⟨_, _, rfl, .inr rfl⟩
  have remoteListed : WinRm.Listed remote := by
    refine ⟨nofun, nofun, fun fault raised => ?_⟩
    cases raised
    rfl
  have unusable : Ssh.UnusableKey ⟨"/root", []⟩ shellConfig shell := by
    refine ⟨"/root/id", _, rfl, rfl, fun loads => ?_, rfl⟩
    have others := ((Ssh.loadable_of_refused rfl).mp loads).2
    have last := ((Ssh.loadable_of_refused rfl).mp others).2
    cases ((Ssh.loadable_of_refused rfl).mp last).1
  have classified := failing_connect_classified ⟨"/root", []⟩ shellConfig shell remoteConfig remote
    shellListed remoteListed rfl rfl
  refine ⟨shellListed, remoteListed, ?_, ?_⟩
  · exact (classified.1.1 rfl).credentials.mpr (.inl unusable)
  · exact (classified.2.1 rfl).credentials.mpr ⟨rfl, rfl, _, _, rfl, rfl⟩

end FleetPatch
