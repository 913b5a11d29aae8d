import FleetPatch.Proofs.Restart
import FleetPatch.Proofs.Uses

/-!
# What comes of a channel

The steps of a shell connection as equations: what each comes to and which calls
it makes. A command comes to what its channel answers, unless the channel cannot
be opened or cannot be closed.
-/

namespace FleetPatch.Ssh

set_option autoImplicit false

open Run

theorem call_apply (made : Call) (now : State) :
    call made now = (.ok (), now.recordAll [made]) := rfl

theorem callOr_apply (made : Call) (failure : Option Fault) (now : State) :
    callOr made failure now = (failing failure, now.recordAll [made]) := by
  cases failure <;> rfl

theorem reads_apply (ways : List ChannelRead) (now : State) :
    (ways.forM fun way => call (.read way)) now = (.ok (), now.recordAll (ways.map .read)) := by
  induction ways generalizing now with
  | nil => rw [List.map_nil, State.recordAll_nil]; rfl
  | cons way rest ih =>
      change (call (.read way) >>= fun _ => rest.forM fun way => call (.read way)) now = _
      rw [bind_apply_ok (call_apply _ now), ih, ← State.recordAll_append]
      rfl

def channelFault (cause : String → CommandCause) (fault : Fault) : Fault :=
  if isChannelFault fault then .command (cause fault.describe) else fault

theorem tellingChannelFaults_eq {α : Type} (cause : String → CommandCause)
    (run : Run Fault State α) :
    tellingChannelFaults cause run = run.mapFault (channelFault cause) :=
  orHandle_fail run (channelFault cause)

def Channel.received (channel : Channel) : Except Fault Reply :=
  match channel.transcript.broken.or channel.ending with
  | some fault => .error fault
  | none => .ok ⟨some (Text.Utf8.decodeIgnoring channel.transcript.stdout),
      some (Text.Utf8.decodeIgnoring channel.transcript.stderr), channel.exitCode⟩

def Channel.answer (host : String) (channel : Channel) : Except Fault Reply :=
  ((failing channel.sending).bind fun _ => channel.received).mapError
    (channelFault (.interrupted host))

def Channel.calls (command : String) (channel : Channel) : List Call :=
  .send command :: if channel.sending.isSome then [] else channel.transcript.reads.map .read

theorem receive_apply (channel : Channel) (now : State) :
    receive channel now =
      (channel.received, now.recordAll (channel.transcript.reads.map .read)) := by
  unfold receive
  rw [bind_apply_ok (reads_apply _ now)]
  unfold Channel.received
  cases channel.transcript.broken.or channel.ending <;> rfl

theorem converse_apply (host command : String) (channel : Channel) (now : State) :
    converse host command channel now =
      (channel.answer host, now.recordAll (channel.calls command)) := by
  unfold converse
  rw [tellingChannelFaults_eq, mapFault_apply]
  unfold Channel.answer Channel.calls
  have sent := callOr_apply (.send command) channel.sending now
  cases sending : channel.sending with
  | some fault =>
      rw [sending] at sent
      rw [bind_apply_error sent]
      rfl
  | none =>
      rw [sending] at sent
      rw [bind_apply_ok sent, receive_apply, ← State.recordAll_append]
      rfl

/-- What is done with an open channel: a fault of closing it replaces what the command came to. -/
theorem deliver_apply (host command : String) (channel : Channel) (now : State) :
    ((converse host command channel).ensuring (callOr .closeChannel channel.closing)) now =
      ((failing channel.closing).bind fun _ => channel.answer host,
        now.recordAll (channel.calls command ++ [.closeChannel])) := by
  simp only [Run.ensuring, converse_apply, callOr_apply, ← State.recordAll_append]
  cases channel.closing <;> rfl

def Client.nextChannel (client : Client) : Channel := client.channels.headD .silent

def State.askedForChannel (number : Nat) (client : Client) (now : State) : State :=
  { now with
    current := some (number, { client with channels := client.channels.tail })
    calls := now.calls ++ [.openChannel number] }

/-- Opening a channel takes a client that has a transport; that is then asked for
its next channel. -/
theorem openChannel_apply (host : String) (now : State) :
    openChannel host now =
      match now.current with
      | none => (.error .unsupportedOperation, now)
      | some (number, client) =>
          if client.link = .absent then (.error .unsupportedOperation, now)
          else
            (((failing client.nextChannel.opening).mapError
                (channelFault (.noChannel host))).map fun _ => client.nextChannel,
              now.askedForChannel number client) := by
  unfold openChannel
  rw [bind_apply_ok (state_apply now)]
  rcases held : now.current with _ | ⟨number, client⟩
  · rfl
  · dsimp only
    by_cases absent : client.link = .absent
    · rw [if_pos absent, if_pos absent]
      rfl
    · rw [if_neg absent, if_neg absent, tellingChannelFaults_eq]
      rw [bind_apply_ok (update_apply _ now)]
      unfold Client.nextChannel
      have asked := mapFault_apply (channelFault (.noChannel host))
        (callOr (.openChannel number) (client.channels.headD .silent).opening)
        { now with current := some (number, { client with channels := client.channels.tail }) }
      rw [callOr_apply] at asked
      cases opening : (client.channels.headD .silent).opening with
      | none =>
          rw [opening] at asked
          rw [bind_apply_ok asked]
          rfl
      | some fault =>
          rw [opening] at asked
          rw [bind_apply_error asked]
          rfl

theorem execute_eq_acquire_bind (homes : Path.Homes) (config : Config) (command : String) :
    (transport homes config).execute command = acquire homes config >>= fun channel =>
      (converse config.hostname.text command channel).ensuring
        (callOr .closeChannel channel.closing) := by
  unfold acquire Transport.execute
  rw [bind_assoc]
  rfl

end FleetPatch.Ssh
