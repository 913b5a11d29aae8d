import FleetPatch.Proofs.Restart
import FleetPatch.Proofs.Uses

/-!
# How a remote management connection connects

The steps of a remote management connection as equations: what each comes to and
which calls it makes. A connection that holds no shell probes the port, and makes a
handshake if the port answered; what comes of that is listed case by case.
-/

namespace FleetPatch.WinRm

set_option autoImplicit false

open Run

def State.recordAll (calls : List Call) (now : State) : State :=
  { now with calls := now.calls ++ calls }

theorem State.recordAll_append (first second : List Call) (now : State) :
    now.recordAll (first ++ second) = (now.recordAll first).recordAll second := by
  simp only [State.recordAll, List.append_assoc]

theorem callOr_apply (made : Call) (failure : Option Fault) (now : State) :
    callOr made failure now = (failing failure, now.recordAll [made]) := by
  cases failure <;> rfl

def State.nextProbe (now : State) : Probe := now.probes.headD .plain

def State.nextHandshake (now : State) : Handshake := now.upcoming.headD .plain

def State.probed (now : State) : State := { now with probes := now.probes.tail }

def State.begun (now : State) : State :=
  { now with upcoming := now.upcoming.tail, started := now.started + 1 }

structure Probe.Reached (probe : Probe) : Prop where
  reaching : probe.reaching = none
  closing : probe.closing = none

def Probe.result (config : Config) (probe : Probe) : Except Fault Unit :=
  match probe.reaching with
  | some fault => .error (probeFault config fault)
  | none => failing probe.closing

def Probe.calls (probe : Probe) : List Call :=
  .probe :: if probe.reaching.isSome then [] else [.closeSocket]

def Handshake.calls (number : Nat) (handshake : Handshake) : List Call :=
  .build number :: if handshake.building.isSome then [] else [.openShell number]

def Handshake.opened (number : Nat) (handshake : Handshake) : Shell :=
  ⟨number, handshake.shell, handshake.closing, handshake.commands, 0⟩

/-- What a handshake comes to at once: one that outlasts its limit comes to nothing yet. -/
def Handshake.result (limit : Json) (handshake : Handshake) : Except Fault Unit :=
  match handshake.building with
  | some fault => .error fault
  | none => failing (if handshake.outlasts limit then none else handshake.opening)

theorem probe_apply (config : Config) (now : State) :
    probe config now =
      (now.nextProbe.result config, now.probed.recordAll now.nextProbe.calls) := by
  unfold probe Probe.result Probe.calls
  rw [bind_apply_ok (state_apply now)]
  change (update State.probed >>= fun _ => (callOr .probe now.nextProbe.reaching).orHandle
    (fun fault => fail (probeFault config fault)) >>= fun _ =>
      callOr .closeSocket now.nextProbe.closing) now = _
  rw [bind_apply_ok (update_apply _ now)]
  have told := mapFault_apply (probeFault config) (callOr .probe now.nextProbe.reaching) now.probed
  rw [← orHandle_fail, callOr_apply] at told
  cases reaching : now.nextProbe.reaching with
  | some fault =>
      rw [reaching] at told
      exact bind_apply_error told
  | none =>
      rw [reaching] at told
      refine (bind_apply_ok told).trans ?_
      rw [callOr_apply, ← State.recordAll_append]
      rfl

theorem nextHandshake_apply (now : State) :
    nextHandshake now = (.ok (now.started, now.nextHandshake), now.begun) := by
  unfold nextHandshake State.nextHandshake State.begun
  cases now with
  | mk probes upcoming started held abandoned calls => cases upcoming <;> rfl

theorem openShell_apply (config : Config) (number : Nat) (handshake : Handshake) (now : State) :
    openShell config number handshake now =
      (handshake.result config.connectTimeout, now.recordAll (handshake.calls number)) := by
  unfold openShell Handshake.result Handshake.calls
  have built := callOr_apply (.build number) handshake.building now
  cases building : handshake.building with
  | some fault =>
      rw [building] at built
      exact bind_apply_error built
  | none =>
      rw [building] at built
      refine (bind_apply_ok built).trans ?_
      rw [callOr_apply, ← State.recordAll_append]
      rfl

theorem shakeHands_of_limit {config : Config} (limit : unorderedKind? config.connectTimeout = none)
    (now : State) :
    shakeHands config now =
      match now.nextHandshake.result config.connectTimeout with
      | .error fault =>
          (.error fault, now.begun.recordAll (now.nextHandshake.calls now.started))
      | .ok _ =>
          if now.nextHandshake.outlasts config.connectTimeout then
            (.error (outlasted config),
              { now.begun.recordAll (now.nextHandshake.calls now.started) with
                abandoned := now.abandoned ++ [(now.started, now.nextHandshake)] })
          else
            (.ok (now.nextHandshake.opened now.started),
              now.begun.recordAll (now.nextHandshake.calls now.started)) := by
  unfold shakeHands
  rw [bind_apply_ok (nextHandshake_apply now), limit]
  dsimp only
  have opened := openShell_apply config now.started now.nextHandshake now.begun
  cases came : now.nextHandshake.result config.connectTimeout with
  | error fault =>
      rw [came] at opened
      exact bind_apply_error opened
  | ok _ =>
      rw [came] at opened
      rw [bind_apply_ok opened]
      cases now.nextHandshake.outlasts config.connectTimeout <;> rfl

/-- What comes of a handshake that nobody can wait for. -/
theorem shakeHands_of_unordered {config : Config} {kind : String}
    (unordered : unorderedKind? config.connectTimeout = some kind) (now : State) :
    shakeHands config now =
      (.error (.connection (.unorderedLimit config.hostname.text kind)),
        now.begun.recordAll (now.nextHandshake.calls now.started)) := by
  unfold shakeHands
  rw [bind_apply_ok (nextHandshake_apply now), unordered]
  dsimp only
  have opened := openShell_apply config now.started now.nextHandshake now.begun
  have ended :
      (openShell config now.started now.nextHandshake).orHandle (fun _ => pure ()) now.begun =
      (.ok (), now.begun.recordAll (now.nextHandshake.calls now.started)) := by
    cases came : now.nextHandshake.result config.connectTimeout with
    | error fault =>
        rw [came] at opened
        exact orHandle_apply_error opened
    | ok _ =>
        rw [came] at opened
        exact orHandle_apply_ok opened
  rw [bind_apply_ok ended, fail_apply]

def State.attemptCalls (now : State) : List Call :=
  [.probe, .closeSocket] ++ now.nextHandshake.calls now.started

inductive Attempt (config : Config) (now : State) :
    Except Fault Unit → List Call → State → Prop where
  | stood (stands : now.connected = true) : Attempt config now (.ok ()) [] now
  | unreached (fault : Fault) (missing : now.connected = false)
      (failed : now.nextProbe.result config = .error fault) :
      Attempt config now (.error fault) now.nextProbe.calls now.probed
  | refused (cause : Fault) (missing : now.connected = false) (reached : now.nextProbe.Reached)
      (limit : unorderedKind? config.connectTimeout = none)
      (failed : now.nextHandshake.result config.connectTimeout = .error cause) :
      Attempt config now (.error (handshakeFault config cause))
        now.attemptCalls now.probed.begun
  | abandoned (missing : now.connected = false) (reached : now.nextProbe.Reached)
      (limit : unorderedKind? config.connectTimeout = none)
      (began : now.nextHandshake.result config.connectTimeout = .ok ())
      (late : now.nextHandshake.outlasts config.connectTimeout = true) :
      Attempt config now (.error (outlasted config))
        now.attemptCalls
        { now.probed.begun with
          abandoned := now.abandoned ++ [(now.started, now.nextHandshake)] }
  | opened (missing : now.connected = false) (reached : now.nextProbe.Reached)
      (limit : unorderedKind? config.connectTimeout = none)
      (succeeded : now.nextHandshake.result config.connectTimeout = .ok ())
      (early : now.nextHandshake.outlasts config.connectTimeout = false) :
      Attempt config now (.ok ())
        now.attemptCalls
        { now.probed.begun with held := some (now.nextHandshake.opened now.started) }
  | unwaited (kind : String) (missing : now.connected = false) (reached : now.nextProbe.Reached)
      (unordered : unorderedKind? config.connectTimeout = some kind) :
      Attempt config now (.error (.connection (.unorderedLimit config.hostname.text kind)))
        now.attemptCalls now.probed.begun

theorem Probe.reached_of_result {config : Config} {probe : Probe}
    (succeeded : probe.result config = .ok ()) : probe.Reached := by
  unfold Probe.result at succeeded
  cases reaching : probe.reaching with
  | some fault =>
      rw [reaching] at succeeded
      cases succeeded
  | none =>
      cases closing : probe.closing with
      | some fault =>
          rw [reaching, closing] at succeeded
          cases succeeded
      | none => exact ⟨reaching, closing⟩

theorem Probe.Reached.calls {probe : Probe} (reached : probe.Reached) :
    probe.calls = [.probe, .closeSocket] := by
  simp [Probe.calls, reached.reaching]

/-- A port that answered is followed by a handshake. -/
theorem connect_of_reached {config : Config} {now : State} (missing : now.connected = false)
    (answered : now.nextProbe.result config = .ok ()) :
    connect config now =
      ((shakeHands config).mapFault (handshakeFault config) >>= fun shell =>
        update fun now => { now with held := some shell })
        (now.probed.recordAll [.probe, .closeSocket]) := by
  have unconnected : ¬ (now.connected = true) := by
    rw [missing]
    exact Bool.false_ne_true
  have probed := probe_apply config now
  rw [answered, (Probe.reached_of_result answered).calls] at probed
  rw [connect, bind_apply_ok (state_apply now), if_neg unconnected, bind_apply_ok probed]
  simp only [orHandle_fail]

theorem connect_of_connected (config : Config) {now : State} (stands : now.connected = true) :
    connect config now = (.ok (), now) := by
  rw [connect, bind_apply_ok (state_apply now), if_pos stands, pure_apply]

theorem reach_eq_connect (config : Config) : (transport config).reach = connect config :=
  Transport.reach_eq_connect fun _ stands => connect_of_connected config stands

theorem connect_attempt (config : Config) (now : State) :
    ∃ outcome entries after, connect config now = (outcome, after.recordAll entries) ∧
      after.calls = now.calls ∧ Attempt config now outcome entries after := by
  cases stands : now.connected with
  | true =>
      refine ⟨.ok (), [], now, ?_, rfl, .stood stands⟩
      rw [connect_of_connected config stands]
      simp [State.recordAll]
  | false =>
      cases answered : now.nextProbe.result config with
      | error fault =>
          refine ⟨_, _, now.probed, ?_, rfl, .unreached fault stands answered⟩
          have probed := probe_apply config now
          rw [answered] at probed
          rw [connect, bind_apply_ok (state_apply now),
            if_neg (by rw [stands]; exact Bool.false_ne_true), bind_apply_error probed]
      | ok _ =>
          have reached := Probe.reached_of_result answered
          have told := mapFault_apply (handshakeFault config) (shakeHands config)
            (now.probed.recordAll [.probe, .closeSocket])
          rw [connect_of_reached stands answered]
          cases limit : unorderedKind? config.connectTimeout with
          | some kind =>
              rw [shakeHands_of_unordered limit] at told
              refine ⟨_, _, now.probed.begun, ?_, rfl, .unwaited kind stands reached limit⟩
              rw [bind_apply_error told, State.attemptCalls, State.recordAll_append]
              rfl
          | none =>
              have same : (now.probed.recordAll [.probe, .closeSocket]).nextHandshake =
                  now.nextHandshake := rfl
              rw [shakeHands_of_limit limit, same] at told
              cases began : now.nextHandshake.result config.connectTimeout with
              | error cause =>
                  rw [began] at told
                  refine ⟨_, _, now.probed.begun, ?_, rfl,
                    .refused cause stands reached limit began⟩
                  rw [bind_apply_error told, State.attemptCalls, State.recordAll_append]
                  rfl
              | ok _ =>
                  rw [began] at told
                  cases late : now.nextHandshake.outlasts config.connectTimeout with
                  | true =>
                      rw [late] at told
                      refine ⟨_, _, { now.probed.begun with
                        abandoned := now.abandoned ++ [(now.started, now.nextHandshake)] },
                        ?_, rfl, .abandoned stands reached limit began late⟩
                      rw [bind_apply_error told, State.attemptCalls, State.recordAll_append]
                      rfl
                  | false =>
                      rw [late] at told
                      refine ⟨_, _, { now.probed.begun with
                        held := some (now.nextHandshake.opened now.started) },
                        ?_, rfl, .opened stands reached limit began late⟩
                      rw [bind_apply_ok told, update_apply, State.attemptCalls,
                        State.recordAll_append]
                      rfl

end FleetPatch.WinRm
