import FleetPatch.Proofs.Connecting

/-!
# Faults that leave a shell connection as they came

A connection tells the faults of the client library and of the system in words of its
own. What it does not tell are the faults of closing, which replace what is being told,
and the want of a transport.
-/

namespace FleetPatch

set_option autoImplicit false

/-- Whether a fault tells what went wrong in the words of a connection. -/
def Fault.ofConnection : Fault → Bool
  | .authentication _ | .connection _ | .command _ | .notAuthorized _ => true
  | _ => false

namespace Ssh

open Run

def ChannelEvent.fault? : ChannelEvent → Option Fault
  | .failure _ fault => some fault
  | _ => none

def Channel.faults (channel : Channel) : List Fault :=
  channel.opening.toList ++ channel.sending.toList ++ channel.ending.toList ++
    channel.closing.toList ++ channel.events.filterMap ChannelEvent.fault?

def Client.faults (client : Client) : List Fault :=
  client.connecting.toList ++ client.closing.toList ++ client.channels.flatMap Channel.faults

def State.faults (now : State) : List Fault :=
  now.keyFiles.flatMap (fun file => file.2.map Prod.snd) ++ now.upcoming.flatMap Client.faults ++
    (now.current.map fun held => held.2.faults).getD []

section Connecting

variable (homes : Path.Homes) (config : Config)

theorem isKeyFault_of_thirdParty {fault : Fault} (third : ThirdParty fault) :
    isKeyFault fault = true := by
  obtain ⟨kind, text, rfl, family⟩ := third
  exact Bool.or_eq_true_iff.mpr family

theorem ofConnection_of_thirdParty {fault : Fault} (third : ThirdParty fault) :
    fault.ofConnection = false := by
  obtain ⟨kind, text, rfl, _⟩ := third
  rfl

theorem keyPath_fault {fault : Fault} (failed : config.keyPath homes = .error fault) :
    fault.ofConnection = false := by
  unfold Config.keyPath at failed
  split at failed
  · split at failed
    · next path _ =>
        have raised := map_eq_error.mp failed
        unfold Path.expandHome at raised
        split at raised
        · dsimp only at raised
          split at raised
          · cases raised
            rfl
          · split at raised <;> cases raised
        · cases raised
    · cases failed
      rfl
  · cases failed

theorem loadKey_fault (passphrase : Json) (path : String) {faults : List (KeyKind × Fault)}
    (third : ∀ fault ∈ faults.map Prod.snd, ThirdParty fault) (kinds : List KeyKind) {now : State}
    {fault : Fault} (failed : (loadKey passphrase path faults kinds now).1 = .error fault) :
    ThirdParty fault := by
  induction kinds generalizing now with
  | nil =>
      cases failed
      exact ⟨.shell, _, rfl, .inl rfl⟩
  | cons kind rest ih =>
      unfold loadKey at failed
      rw [bind_apply_ok (call_apply _ now)] at failed
      cases found : faults.lookup kind with
      | none =>
          rw [found] at failed
          cases failed
      | some cause =>
          have member : cause ∈ faults.map Prod.snd := List.mem_map_of_mem (mem_of_lookup found)
          obtain ⟨shape, text, rfl, family⟩ := third cause member
          rw [found] at failed
          dsimp only at failed
          cases shell : shape.isShell with
          | true =>
              rw [shell, if_pos rfl] at failed
              exact ih failed
          | false =>
              rw [shell, if_neg Bool.false_ne_true] at failed
              cases failed
              exact ⟨shape, text, rfl, family⟩

/-- Choosing a secret tells every fault but that of a path that cannot be expanded. -/
theorem chooseSecret_fault {now : State}
    (third : ∀ fault ∈ now.keyFiles.flatMap (fun file => file.2.map Prod.snd), ThirdParty fault)
    {fault : Fault} (failed : (chooseSecret homes config now).1 = .error fault) :
    config.keyPath homes = .error fault ∨ fault.ofConnection = true := by
  unfold chooseSecret at failed
  rw [bind_apply_ok (state_apply now)] at failed
  rcases bind_eq_error.mp failed with unexpanded | ⟨path, after, taken, failed⟩
  · exact .inl unexpanded
  · obtain rfl : now = after := congrArg Prod.snd taken
    cases path with
    | none => cases failed
    | some path =>
        dsimp only at failed
        cases found : now.keyFiles.lookup path with
        | none =>
            rw [found] at failed
            cases failed
        | some faults =>
            rw [found] at failed
            dsimp only at failed
            have thirdHere : ∀ fault ∈ faults.map Prod.snd, ThirdParty fault := by
              intro fault member
              apply third fault
              exact List.mem_flatMap.mpr ⟨(path, faults), mem_of_lookup found, member⟩
            rcases loaded : (loadKey config.privateKeyPassphrase path faults keyKinds >>=
              fun kind =>
              pure (Secret.key kind)) now with ⟨outcome, last⟩
            cases outcome with
            | ok secret =>
                rw [orHandle_apply_ok loaded] at failed
                cases failed
            | error cause =>
                rw [orHandle_apply_error loaded] at failed
                have raised := congrArg Prod.fst loaded
                have causeThird : ThirdParty cause := by
                  rcases bind_eq_error.mp raised with stopped | ⟨_, _, _, stopped⟩
                  · exact loadKey_fault _ path thirdHere keyKinds stopped
                  · cases stopped
                rw [isKeyFault_of_thirdParty causeThird, if_pos rfl] at failed
                split at failed
                · cases failed
                · cases failed
                  exact .inr rfl

theorem connectFault?_ofConnection {cause told : Fault}
    (recognised : connectFault? config cause = some told) : told.ofConnection = true := by
  unfold connectFault? at recognised
  cases cause with
  | foreign kind text =>
      dsimp only at recognised
      split at recognised
      · cases recognised; rfl
      · split at recognised
        · cases recognised; rfl
        · split at recognised
          · cases recognised; rfl
          · split at recognised <;> cases recognised
            rfl
  | _ => cases recognised

/-- How a fault leaves the connecting of a client as it came: the path of the key cannot be
expanded, or a client that could not connect cannot be closed either. -/
inductive ConnectEscapes (now : State) (fault : Fault) : Prop where
  | unexpanded (missing : now.connected = false) (failed : config.keyPath homes = .error fault)
  | closing (secret : Secret) (cause : Fault) (missing : now.connected = false)
      (chosen : (chooseSecret homes config now).1 = .ok secret)
      (refused : now.nextClient.connecting = some cause)
      (failed : now.nextClient.closing = some fault)

theorem nextClient_faults (now : State) :
    ∀ fault ∈ now.nextClient.faults, fault ∈ now.faults := by
  intro fault member
  unfold State.nextClient at member
  cases coming : now.upcoming with
  | nil =>
      rw [coming] at member
      cases member
  | cons client rest =>
      rw [coming] at member
      have amongst : fault ∈ now.upcoming.flatMap Client.faults := by
        rw [coming]
        exact List.mem_flatMap.mpr ⟨client, List.mem_cons_self, member⟩
      exact List.mem_append_left _ (List.mem_append_right _ amongst)

theorem keys_third {now : State} (scripted : ∀ fault ∈ now.faults, ThirdParty fault) :
    ∀ fault ∈ now.keyFiles.flatMap (fun file => file.2.map Prod.snd), ThirdParty fault :=
  fun fault member => scripted fault (List.mem_append_left _ (List.mem_append_left _ member))

theorem nextClient_third {now : State} (scripted : ∀ fault ∈ now.faults, ThirdParty fault)
    {fault : Fault} (member : fault ∈ now.nextClient.faults) : ThirdParty fault :=
  scripted fault (nextClient_faults now fault member)

theorem refusal_told {now : State} (scripted : ∀ fault ∈ now.faults, ThirdParty fault)
    {cause : Fault} (refused : now.nextClient.connecting = some cause) :
    connectFault? config cause ≠ none := by
  have third : ThirdParty cause :=
    nextClient_third scripted (by simp [Client.faults, refused])
  obtain ⟨told, recognised⟩ := connectFault?_of_thirdParty config third
  rw [recognised]
  exact Option.some_ne_none told

theorem connect_escapes {now : State} (scripted : ∀ fault ∈ now.faults, ThirdParty fault)
    {fault : Fault} (failed : (connect homes config now).1 = .error fault)
    (untold : fault.ofConnection = false) : ConnectEscapes homes config now fault := by
  -- Connecting stands, has no secret or tries a client; only closing that client is not told.
  have attempt := connect_attempt homes config now
  generalize (connect homes config now).1 = outcome at attempt failed
  generalize (connect homes config now).2 = last at attempt
  cases attempt with
  | stood stands => cases failed
  | unready cause loads missing only stopped =>
      cases failed
      rcases chooseSecret_fault homes config (keys_third scripted) stopped with unexpanded | told
      · exact .unexpanded missing unexpanded
      · rw [untold] at told
        cases told
  | tried secret loads outcome last missing only chosen tries =>
      cases tries with
      | held => cases failed
      | closed cause told refused recognised =>
          change (failing now.nextClient.closing).bind _ = _ at failed
          cases closing : now.nextClient.closing with
          | some stop =>
              rw [closing] at failed
              cases failed
              exact .closing secret cause missing chosen refused closing
          | none =>
              rw [closing] at failed
              cases failed
              rw [connectFault?_ofConnection config recognised] at untold
              cases untold
      | forsaken cause refused unknown =>
          exact absurd unknown (refusal_told config scripted refused)

theorem ConnectEscapes.raised {now : State} (scripted : ∀ fault ∈ now.faults, ThirdParty fault)
    {fault : Fault} (escapes : ConnectEscapes homes config now fault) :
    (connect homes config now).1 = .error fault ∧ fault.ofConnection = false := by
  have attempt := connect_attempt homes config now
  generalize (connect homes config now).1 = outcome at attempt ⊢
  generalize (connect homes config now).2 = last at attempt
  cases escapes with
  | unexpanded missing failed =>
      have stopped : (chooseSecret homes config now).1 = .error fault := by
        unfold chooseSecret
        rw [bind_apply_ok (state_apply now)]
        exact bind_eq_error.mpr (.inl failed)
      refine ⟨?_, keyPath_fault homes config failed⟩
      cases attempt with
      | stood stands => rw [missing] at stands; cases stands
      | unready cause loads _ only raised => cases raised.symm.trans stopped; rfl
      | tried secret loads outcome last _ only chosen => rw [stopped] at chosen; cases chosen
  | closing secret cause missing chosen refused failed =>
      have third : ThirdParty fault :=
        nextClient_third scripted (by simp [Client.faults, failed])
      refine ⟨?_, ofConnection_of_thirdParty third⟩
      cases attempt with
      | stood stands => rw [missing] at stands; cases stands
      | unready cause loads _ only stopped => rw [chosen] at stopped; cases stopped
      | tried secret loads outcome last _ only _ tries =>
          cases tries with
          | held succeeded =>
              have connected : now.nextClient.connecting = none := succeeded
              rw [refused] at connected
              cases connected
          | closed cause told =>
              change (failing now.nextClient.closing).bind _ = _
              rw [failed]
              rfl
          | forsaken cause raised unknown =>
              exact absurd unknown (refusal_told config scripted raised)

end Connecting

section Dispatching

variable (homes : Path.Homes) (config : Config)

theorem dispatch_outcome (command : String) (now : State) :
    (dispatch config command now).1 =
      match now.current with
      | none => .error .unsupportedOperation
      | some (_, client) =>
          if client.link = .absent then .error .unsupportedOperation
          else
            match client.nextChannel.opening with
            | some fault => .error (channelFault (.noChannel config.hostname.text) fault)
            | none =>
                (failing client.nextChannel.closing).bind fun _ =>
                  client.nextChannel.answer config.hostname.text := by
  unfold dispatch
  have opened := openChannel_apply config.hostname.text now
  rcases held : now.current with _ | ⟨number, client⟩
  · rw [held] at opened
    rw [bind_apply_error opened]
  · rw [held] at opened
    dsimp only at opened ⊢
    by_cases absent : client.link = .absent
    · rw [if_pos absent] at opened
      rw [bind_apply_error opened, if_pos absent]
    · rw [if_neg absent] at opened
      rw [if_neg absent]
      cases opening : client.nextChannel.opening with
      | some fault =>
          rw [opening] at opened
          rw [bind_apply_error opened]
      | none =>
          rw [opening] at opened
          rw [bind_apply_ok opened, deliver_apply]

theorem broken_mem {events : List ChannelEvent} {fault : Fault} (exited : Bool)
    (broken : (Transcript.ofEvents exited events).broken = some fault) :
    fault ∈ events.filterMap ChannelEvent.fault? := by
  induction events generalizing exited with
  | nil => cases broken
  | cons first rest ih =>
      cases first with
      | output bytes => exact ih exited broken
      | errors bytes => exact ih exited broken
      | pause =>
          cases exited with
          | true => cases broken
          | false => exact ih false broken
      | exitStatus => exact ih true broken
      | failure way cause =>
          unfold Transcript.ofEvents at broken
          split at broken
          · cases broken
          · cases broken
            exact List.mem_cons_self

theorem channelFault_ofConnection (cause : String → CommandCause) {fault : Fault}
    (third : ThirdParty fault) : (channelFault cause fault).ofConnection = true := by
  have known : isChannelFault fault = true := by
    obtain ⟨kind, text, rfl, family⟩ := third
    simp only [isChannelFault, Bool.or_eq_true]
    exact .inl family
  rw [channelFault, if_pos known]
  rfl

/-- Whatever fails on an open channel is told. -/
theorem answer_fault {channel : Channel} (third : ∀ fault ∈ channel.faults, ThirdParty fault)
    {host : String} {fault : Fault} (failed : channel.answer host = .error fault) :
    fault.ofConnection = true := by
  obtain ⟨cause, raised, rfl⟩ := mapError_eq_error.mp failed
  apply channelFault_ofConnection
  apply third
  cases sending : channel.sending with
  | some stop =>
      rw [sending] at raised
      cases raised
      simp [Channel.faults, sending]
  | none =>
      rw [sending] at raised
      change channel.received = .error cause at raised
      unfold Channel.received at raised
      cases broken : channel.transcript.broken with
      | some stop =>
          rw [broken] at raised
          cases raised
          exact List.mem_append_right _ (broken_mem false broken)
      | none =>
          rw [broken, Option.none_or] at raised
          cases ending : channel.ending with
          | some stop =>
              rw [ending] at raised
              cases raised
              simp [Channel.faults, ending]
          | none =>
              rw [ending] at raised
              cases raised

theorem Client.nextChannel_faults (client : Client) :
    ∀ fault ∈ client.nextChannel.faults, fault ∈ client.faults := by
  intro fault member
  unfold Client.nextChannel at member
  cases coming : client.channels with
  | nil =>
      rw [coming] at member
      cases member
  | cons channel rest =>
      rw [coming] at member
      simp only [Client.faults, coming, List.flatMap_cons]
      exact List.mem_append_right _ (List.mem_append_left _ member)

/-- What leaves the dispatching of a command as it came: the want of a transport, and the fault of
closing the channel. -/
theorem dispatch_escapes_iff (command : String) {now : State} {number : Nat} {client : Client}
    (held : now.current = some (number, client)) (third : ∀ fault ∈ client.faults, ThirdParty fault)
    (fault : Fault) :
    (dispatch config command now).1 = .error fault ∧ fault.ofConnection = false ↔
      client.link = .absent ∧ fault = .unsupportedOperation ∨
        client.link ≠ .absent ∧ client.nextChannel.opening = none ∧
          client.nextChannel.closing = some fault := by
  have channelThird : ∀ fault ∈ client.nextChannel.faults, ThirdParty fault :=
    fun fault member => third fault (client.nextChannel_faults fault member)
  rw [dispatch_outcome, held]
  dsimp only
  by_cases absent : client.link = .absent
  · rw [if_pos absent]
    constructor
    · intro ended
      cases ended.1
      exact .inl ⟨absent, rfl⟩
    · intro escapes
      rcases escapes with ⟨_, rfl⟩ | ⟨present, _⟩
      · exact ⟨rfl, rfl⟩
      · exact absurd absent present
  · rw [if_neg absent]
    cases opening : client.nextChannel.opening with
    | some cause =>
        have causeThird : ThirdParty cause :=
          channelThird cause (by simp [Channel.faults, opening])
        refine iff_of_false (fun ended => ?_) (fun escapes => ?_)
        · obtain ⟨failed, untold⟩ := ended
          cases failed
          rw [channelFault_ofConnection _ causeThird] at untold
          cases untold
        · rcases escapes with ⟨present, _⟩ | ⟨_, none, _⟩
          · exact absent present
          · cases none
    | none =>
        cases closing : client.nextChannel.closing with
        | some stop =>
            have stopThird : ThirdParty stop :=
              channelThird stop (by simp [Channel.faults, closing])
            constructor
            · intro ended
              cases ended.1
              exact .inr ⟨absent, rfl, rfl⟩
            · intro escapes
              rcases escapes with ⟨present, _⟩ | ⟨_, _, same⟩
              · exact absurd present absent
              · cases same
                exact ⟨rfl, ofConnection_of_thirdParty stopThird⟩
        | none =>
            refine iff_of_false (fun ended => ?_) (fun escapes => ?_)
            · obtain ⟨failed, untold⟩ := ended
              rw [answer_fault channelThird failed] at untold
              cases untold
            · rcases escapes with ⟨present, _⟩ | ⟨_, _, same⟩
              · exact absent present
              · cases same

end Dispatching

section Keeping

variable (homes : Path.Homes) (config : Config)

theorem mem_faults {now : State} {fault : Fault} :
    fault ∈ now.faults ↔
      fault ∈ now.keyFiles.flatMap (fun file => file.2.map Prod.snd) ∨
        fault ∈ now.upcoming.flatMap Client.faults ∨
        ∃ number client, now.current = some (number, client) ∧ fault ∈ client.faults := by
  unfold State.faults
  rw [List.mem_append, List.mem_append, or_assoc]
  rcases now.current with _ | ⟨number, client⟩
  · simp
  · refine or_congr Iff.rfl (or_congr Iff.rfl ⟨fun raised => ⟨number, client, rfl, raised⟩, ?_⟩)
    intro found
    obtain ⟨_, _, same, raised⟩ := found
    cases same
    exact raised

theorem tail_faults {clients : List Client} {fault : Fault}
    (member : fault ∈ clients.tail.flatMap Client.faults) :
    fault ∈ clients.flatMap Client.faults := by
  obtain ⟨client, amongst, raised⟩ := List.mem_flatMap.mp member
  exact List.mem_flatMap.mpr ⟨client, List.mem_of_mem_tail amongst, raised⟩

theorem tries_faults {secret : Secret} {now last : State} {outcome : Except Fault Unit}
    (tries : Tries config secret now outcome last) :
    ∀ fault ∈ last.faults, fault ∈ now.faults := by
  have kept (last : State) (keys : last.keyFiles = now.keyFiles)
      (coming : last.upcoming = now.upcoming.tail)
      (held : last.current = now.current ∨
        last.current = some (now.created, now.nextClient)) :
      ∀ fault ∈ last.faults, fault ∈ now.faults := by
    intro fault member
    rcases mem_faults.mp member with key | later | ⟨number, client, same, raised⟩
    · exact mem_faults.mpr (.inl (keys ▸ key))
    · exact mem_faults.mpr (.inr (.inl (tail_faults (coming ▸ later))))
    · rcases held with before | tried
      · exact mem_faults.mpr (.inr (.inr ⟨number, client, before ▸ same, raised⟩))
      · rw [tried] at same
        cases same
        exact nextClient_faults now fault raised
  cases tries with
  | held => exact kept _ rfl rfl (.inr rfl)
  | closed => exact kept _ rfl rfl (.inl rfl)
  | forsaken => exact kept _ rfl rfl (.inl rfl)

theorem connect_faults (now : State) :
    ∀ fault ∈ (connect homes config now).2.faults, fault ∈ now.faults := by
  have attempt := connect_attempt homes config now
  generalize (connect homes config now).1 = outcome at attempt
  generalize (connect homes config now).2 = last at attempt ⊢
  cases attempt with
  | stood => exact fun fault member => member
  | unready => exact fun fault member => member
  | tried secret loads outcome last missing only chosen tries =>
      have left := tries_faults config tries
      exact left

theorem openChannel_faults (host : String) (now : State) :
    ∀ fault ∈ (openChannel host now).2.faults, fault ∈ now.faults := by
  intro fault member
  rw [openChannel_apply] at member
  rcases held : now.current with _ | ⟨number, client⟩
  · rw [held] at member
    exact member
  · rw [held] at member
    dsimp only at member
    split at member
    · exact member
    · rcases mem_faults.mp member with key | later | ⟨other, asked, same, raised⟩
      · exact mem_faults.mpr (.inl key)
      · exact mem_faults.mpr (.inr (.inl later))
      · cases same
        refine mem_faults.mpr (.inr (.inr ⟨number, client, held, ?_⟩))
        rcases List.mem_append.mp raised with own | onChannel
        · exact List.mem_append_left _ own
        · obtain ⟨channel, amongst, carried⟩ := List.mem_flatMap.mp onChannel
          exact List.mem_append_right _
            (List.mem_flatMap.mpr ⟨channel, List.mem_of_mem_tail amongst, carried⟩)

theorem dispatch_faults (command : String) (now : State) :
    ∀ fault ∈ (dispatch config command now).2.faults, fault ∈ now.faults := by
  have opening := openChannel_faults config.hostname.text now
  unfold dispatch
  rcases opened : openChannel config.hostname.text now with ⟨outcome, after⟩
  rw [opened] at opening
  cases outcome with
  | error fault =>
      rw [bind_apply_error opened]
      exact opening
  | ok channel =>
      rw [bind_apply_ok opened, deliver_apply]
      exact opening

theorem close_apply (now : State) :
    close now =
      match now.current with
      | none => (.ok (), now)
      | some (number, client) =>
          (failing client.closing,
            { now with current := none }.recordAll [.closeClient number]) := by
  unfold close
  rw [bind_apply_ok (state_apply now)]
  rcases now.current with _ | ⟨number, client⟩
  · rfl
  · dsimp only
    rw [bind_apply_ok (update_apply _ now), callOr_apply]

theorem execute_faults (command : String) (now : State) :
    ∀ fault ∈ ((transport homes config).execute command now).2.faults, fault ∈ now.faults := by
  have connecting := connect_faults homes config now
  rw [Transport.execute, reach_eq_connect]
  rcases connected : connect homes config now with ⟨outcome, after⟩
  rw [connected] at connecting
  cases outcome with
  | error fault =>
      rw [bind_apply_error connected]
      exact connecting
  | ok _ =>
      rw [bind_apply_ok connected]
      exact fun fault member => connecting fault (dispatch_faults config command after fault member)

theorem step_faults (now : State) (incident : Incident Link) :
    ∀ fault ∈ ((setting homes config).step now incident).faults, fault ∈ now.faults := by
  cases incident with
  | use made =>
      cases made with
      | connect => exact connect_faults homes config now
      | execute command =>
          rw [Setting.step_execute]
          exact execute_faults homes config command now
      | close =>
          intro fault member
          change fault ∈ (close now).2.faults at member
          rw [close_apply] at member
          rcases held : now.current with _ | ⟨number, client⟩
          · rw [held] at member
            exact member
          · rw [held] at member
            rcases mem_faults.mp member with key | later | ⟨_, _, same, _⟩
            · exact mem_faults.mpr (.inl key)
            · exact mem_faults.mpr (.inr (.inl later))
            · cases same
  | event link =>
      intro fault member
      rcases mem_faults.mp member with key | later | ⟨number, linked, same, raised⟩
      · exact mem_faults.mpr (.inl key)
      · exact mem_faults.mpr (.inr (.inl later))
      · obtain ⟨⟨_, client⟩, held, changed⟩ := Option.map_eq_some_iff.mp same
        cases changed
        exact mem_faults.mpr (.inr (.inr ⟨number, client, held, raised⟩))

end Keeping

inductive Escapes (homes : Path.Homes) (config : Config) (now : State) : Use → Fault → Prop where
  | connecting (made : Use) (fault : Fault) (reaches : made.reaches = true)
      (escapes : ConnectEscapes homes config now fault) : Escapes homes config now made fault
  | noTransport (command : String) (number : Nat) (client : Client)
      (connected : (connect homes config now).1 = .ok ())
      (held : (connect homes config now).2.current = some (number, client))
      (absent : client.link = .absent) :
      Escapes homes config now (.execute command) .unsupportedOperation
  | channelClosing (command : String) (fault : Fault) (number : Nat) (client : Client)
      (connected : (connect homes config now).1 = .ok ())
      (held : (connect homes config now).2.current = some (number, client))
      (present : client.link ≠ .absent) (opened : client.nextChannel.opening = none)
      (failed : client.nextChannel.closing = some fault) :
      Escapes homes config now (.execute command) fault
  | clientClosing (fault : Fault) (number : Nat) (client : Client)
      (held : now.current = some (number, client)) (failed : client.closing = some fault) :
      Escapes homes config now .close fault

section Uses

variable (homes : Path.Homes) (config : Config)

theorem held_of_connect {now : State} (connected : (connect homes config now).1 = .ok ()) :
    ∃ number client, (connect homes config now).2.current = some (number, client) := by
  have attempt := connect_attempt homes config now
  generalize (connect homes config now).1 = outcome at attempt connected
  generalize (connect homes config now).2 = last at attempt ⊢
  cases attempt with
  | stood stands =>
      unfold State.connected at stands
      rcases held : now.current with _ | ⟨number, client⟩
      · rw [held] at stands
        cases stands
      · exact ⟨number, client, rfl⟩
  | unready => cases connected
  | tried secret loads outcome last missing only chosen tries =>
      cases tries with
      | held => exact ⟨_, _, rfl⟩
      | closed cause told =>
          change (failing now.nextClient.closing).bind _ = _ at connected
          cases closing : now.nextClient.closing <;> rw [closing] at connected <;> cases connected
      | forsaken => cases connected

/-- The faults of the client that is held after connecting are those of a script. -/
theorem connect_client_third {now : State} (scripted : ∀ fault ∈ now.faults, ThirdParty fault)
    {number : Nat} {client : Client}
    (held : (connect homes config now).2.current = some (number, client)) :
    ∀ fault ∈ client.faults, ThirdParty fault := by
  intro fault member
  apply scripted fault
  apply connect_faults homes config now fault
  exact mem_faults.mpr (.inr (.inr ⟨number, client, held, member⟩))

theorem execute_escapes_iff (command : String) {now : State}
    (scripted : ∀ fault ∈ now.faults, ThirdParty fault) (fault : Fault) :
    ((transport homes config).execute command now).1 = .error fault ∧ fault.ofConnection = false ↔
      Escapes homes config now (.execute command) fault := by
  rw [Transport.execute, reach_eq_connect]
  constructor
  · intro ended
    obtain ⟨failed, untold⟩ := ended
    rcases bind_eq_error.mp failed with stopped | ⟨_, after, connected, stopped⟩
    · exact .connecting _ _ rfl (connect_escapes homes config scripted stopped untold)
    · have succeeded : (connect homes config now).1 = .ok () := congrArg Prod.fst connected
      obtain ⟨number, client, held⟩ := held_of_connect homes config succeeded
      have third := connect_client_third homes config scripted held
      have heldAfter : after.current = some (number, client) := by
        rw [← held, connected]
      rcases (dispatch_escapes_iff config command heldAfter third fault).mp ⟨stopped, untold⟩ with
        ⟨absent, rfl⟩ | ⟨present, opened, closing⟩
      · exact .noTransport command number client succeeded held absent
      · exact .channelClosing command fault number client succeeded held present opened closing
  · intro escapes
    cases escapes with
    | connecting _ _ _ escapes =>
        have raised := escapes.raised homes config scripted
        exact ⟨bind_eq_error.mpr (.inl raised.1), raised.2⟩
    | noTransport _ number client succeeded held absent =>
        have third := connect_client_third homes config scripted held
        have dispatched := (dispatch_escapes_iff config command held third _).mpr
          (.inl ⟨absent, rfl⟩)
        exact ⟨bind_eq_error.mpr (.inr ⟨(), _, Prod.ext succeeded rfl, dispatched.1⟩),
          dispatched.2⟩
    | channelClosing _ _ number client succeeded held present opened closing =>
        have third := connect_client_third homes config scripted held
        have dispatched := (dispatch_escapes_iff config command held third fault).mpr
          (.inr ⟨present, opened, closing⟩)
        exact ⟨bind_eq_error.mpr (.inr ⟨(), _, Prod.ext succeeded rfl, dispatched.1⟩),
          dispatched.2⟩

theorem close_escapes_iff {now : State} (scripted : ∀ fault ∈ now.faults, ThirdParty fault)
    (fault : Fault) :
    (close now).1 = .error fault ∧ fault.ofConnection = false ↔
      Escapes homes config now .close fault := by
  rw [close_apply]
  constructor
  · intro ended
    rcases held : now.current with _ | ⟨number, client⟩
    · rw [held] at ended
      cases ended.1
    · rw [held] at ended
      exact .clientClosing fault number client held (failing_eq_error.mp ended.1)
  · intro escapes
    cases escapes with
    | connecting _ _ reaches => cases reaches
    | clientClosing _ number client held failed =>
        have third : ThirdParty fault := by
          apply scripted fault
          refine mem_faults.mpr (.inr (.inr ⟨number, client, held, ?_⟩))
          simp [Client.faults, failed]
        rw [held]
        exact ⟨failing_eq_error.mpr failed, ofConnection_of_thirdParty third⟩

theorem use_escapes_iff {now : State} (scripted : ∀ fault ∈ now.faults, ThirdParty fault)
    (made : Use) (fault : Fault) :
    ((transport homes config).use made now).1 = .error fault ∧ fault.ofConnection = false ↔
      Escapes homes config now made fault := by
  cases made with
  | connect =>
      constructor
      · intro ended
        exact .connecting _ _ rfl (connect_escapes homes config scripted ended.1 ended.2)
      · intro escapes
        cases escapes with
        | connecting _ _ _ escapes => exact escapes.raised homes config scripted
  | execute command =>
      rw [Transport.use_execute_apply, map_eq_error]
      exact execute_escapes_iff homes config command scripted fault
  | close => exact close_escapes_iff homes config scripted fault

/-- The faults of a script are those of the client library and of the system, whatever has befallen
the connection. -/
theorem after_scripted {start : State} (scripted : ∀ fault ∈ start.faults, ThirdParty fault)
    (incidents : List (Incident Link)) :
    ∀ fault ∈ ((setting homes config).after incidents start).faults, ThirdParty fault := by
  have keeps (now : State) (incident : Incident Link)
      (kept : ∀ fault ∈ now.faults, ThirdParty fault) :
      ∀ fault ∈ ((setting homes config).step now incident).faults, ThirdParty fault :=
    fun fault member => kept fault (step_faults homes config now incident fault member)
  exact Setting.after_keeps keeps incidents scripted

end Uses

end Ssh

end FleetPatch
