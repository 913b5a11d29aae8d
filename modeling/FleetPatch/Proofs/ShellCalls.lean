import FleetPatch.Proofs.Logs
import FleetPatch.Ssh.Connection

/-!
# Calls of shell connections

Which calls to the client library the steps of a shell connection make. Choosing
a secret does nothing but load keys. Nothing that comes before an open channel
sends a command, and what is done with an open channel sends its command once.
-/

namespace FleetPatch.Ssh

set_option autoImplicit false

open Run

def State.recordAll (calls : List Call) (now : State) : State :=
  { now with calls := now.calls ++ calls }

theorem State.recordAll_nil (now : State) : now.recordAll [] = now := by
  simp only [State.recordAll, List.append_nil]

theorem State.recordAll_append (first second : List Call) (now : State) :
    now.recordAll (first ++ second) = (now.recordAll first).recordAll second := by
  simp only [State.recordAll, List.append_assoc]

def Call.LoadsKey (made : Call) : Prop :=
  ∃ kind path passphrase, made = .loadKey kind path passphrase

def OnlyLoadsKeys {α : Type} (run : Run Fault State α) : Prop :=
  ∀ now, ∃ loads : List Call, (∀ made ∈ loads, made.LoadsKey) ∧ (run now).2 = now.recordAll loads

section LoadingKeys

variable {α β : Type}

theorem onlyLoadsKeys_lift (outcome : Except Fault α) : OnlyLoadsKeys (lift outcome) :=
  fun now => ⟨[], nofun, (State.recordAll_nil now).symm⟩

theorem onlyLoadsKeys_pure (value : α) : OnlyLoadsKeys (pure value : Run Fault State α) :=
  onlyLoadsKeys_lift (.ok value)

theorem onlyLoadsKeys_fail (fault : Fault) : OnlyLoadsKeys (fail fault : Run Fault State α) :=
  onlyLoadsKeys_lift (.error fault)

theorem OnlyLoadsKeys.andThen {now after : State} {loads : List Call} {run : Run Fault State α}
    (first : ∀ made ∈ loads, made.LoadsKey) (reached : after = now.recordAll loads)
    (rest : OnlyLoadsKeys run) :
    ∃ loads : List Call, (∀ made ∈ loads, made.LoadsKey) ∧ (run after).2 = now.recordAll loads := by
  obtain ⟨later, second, last⟩ := rest after
  refine ⟨loads ++ later, List.forall_mem_append.mpr ⟨first, second⟩, ?_⟩
  rw [last, reached, State.recordAll_append]

theorem OnlyLoadsKeys.bind {run : Run Fault State α} {next : α → Run Fault State β}
    (first : OnlyLoadsKeys run) (rest : ∀ value, OnlyLoadsKeys (next value)) :
    OnlyLoadsKeys (run >>= next) := by
  intro now
  obtain ⟨loads, only, reached⟩ := first now
  rcases taken : run now with ⟨outcome, after⟩
  rw [taken] at reached
  cases outcome with
  | error fault =>
      rw [bind_apply_error taken]
      exact ⟨loads, only, reached⟩
  | ok value =>
      rw [bind_apply_ok taken]
      exact (rest value).andThen only reached

theorem OnlyLoadsKeys.orHandle {run : Run Fault State α} {handle : Fault → Run Fault State α}
    (first : OnlyLoadsKeys run) (rest : ∀ fault, OnlyLoadsKeys (handle fault)) :
    OnlyLoadsKeys (run.orHandle handle) := by
  intro now
  obtain ⟨loads, only, reached⟩ := first now
  rcases taken : run now with ⟨outcome, after⟩
  rw [taken] at reached
  cases outcome with
  | error fault =>
      simp only [Run.orHandle, taken]
      exact (rest fault).andThen only reached
  | ok value =>
      simp only [Run.orHandle, taken]
      exact ⟨loads, only, reached⟩

theorem loadKey_onlyLoadsKeys (passphrase : Json) (path : String)
    (faults : List (KeyKind × Fault)) (kinds : List KeyKind) :
    OnlyLoadsKeys (loadKey passphrase path faults kinds) := by
  induction kinds with
  | nil => exact onlyLoadsKeys_fail _
  | cons kind rest ih =>
      have loading : OnlyLoadsKeys (call (.loadKey kind path passphrase)) :=
        fun now => ⟨[_], List.forall_mem_singleton.mpr ⟨kind, path, passphrase, rfl⟩, rfl⟩
      apply loading.bind
      intro _
      cases faults.lookup kind with
      | none => exact onlyLoadsKeys_pure kind
      | some fault =>
          cases fault with
          | foreign cause text =>
              change OnlyLoadsKeys (if cause.isShell then _ else _)
              split
              · exact ih
              · exact onlyLoadsKeys_fail _
          | _ => exact onlyLoadsKeys_fail _

theorem chooseSecret_onlyLoadsKeys (homes : Path.Homes) (config : Config) :
    OnlyLoadsKeys (chooseSecret homes config) := by
  intro start
  refine OnlyLoadsKeys.bind (onlyLoadsKeys_lift _) (fun path => ?_) start
  cases path with
  | none => exact onlyLoadsKeys_pure _
  | some path =>
      dsimp only
      cases start.keyFiles.lookup path with
      | none => exact onlyLoadsKeys_pure _
      | some faults =>
          have loading := loadKey_onlyLoadsKeys config.privateKeyPassphrase path faults keyKinds
          apply (loading.bind fun kind => onlyLoadsKeys_pure _).orHandle
          intro fault
          split
          · split
            · exact onlyLoadsKeys_pure _
            · exact onlyLoadsKeys_fail _
          · exact onlyLoadsKeys_fail fault

end LoadingKeys

def Call.sent? : Call → Option String
  | .send command => some command
  | _ => none

abbrev SendsNothing {α : Type} (run : Run Fault State α) : Prop :=
  LogsOnly State.calls (fun made => made.sent? = none) run

variable {P : Call → Prop}

theorem logs_call (made : Call) :
    Logs State.calls (call made) fun entries outcome => entries = [made] ∧ outcome = .ok () := by
  intro now
  exact ⟨[made], rfl, rfl, rfl⟩

theorem logs_callOr (made : Call) (failure : Option Fault) :
    Logs State.calls (callOr made failure) fun entries _ => entries = [made] := by
  cases failure with
  | none =>
      intro now
      exact ⟨[made], rfl, rfl⟩
  | some fault =>
      intro now
      exact ⟨[made], rfl, rfl⟩

theorem logsOnly_call {made : Call} (holds : P made) : LogsOnly State.calls P (call made) := by
  apply (logs_call made).mono
  rintro entries outcome ⟨rfl, _⟩
  exact List.forall_mem_singleton.mpr holds

theorem logsOnly_callOr {made : Call} {failure : Option Fault} (holds : P made) :
    LogsOnly State.calls P (callOr made failure) := by
  apply (logs_callOr made failure).mono
  rintro entries outcome rfl
  exact List.forall_mem_singleton.mpr holds

theorem OnlyLoadsKeys.sends_nothing {α : Type} {run : Run Fault State α}
    (loading : OnlyLoadsKeys run) : SendsNothing run := by
  intro now
  obtain ⟨loads, only, reached⟩ := loading now
  refine ⟨loads, congrArg State.calls reached, fun made member => ?_⟩
  obtain ⟨kind, path, passphrase, rfl⟩ := only made member
  rfl

theorem chooseSecret_sends_nothing (homes : Path.Homes) (config : Config) :
    SendsNothing (chooseSecret homes config) :=
  (chooseSecret_onlyLoadsKeys homes config).sends_nothing

theorem nextClient_sends_nothing : SendsNothing nextClient := by
  intro now
  refine ⟨[], ?_, fun _ member => nomatch member⟩
  rw [List.append_nil]
  unfold nextClient
  cases now.upcoming <;> rfl

theorem connectClient_sends_nothing (config : Config) (secret : Secret) :
    SendsNothing (connectClient config secret) := by
  apply LogsOnly.bind nextClient_sends_nothing
  intro (number, client)
  refine LogsOnly.bind (logsOnly_call rfl) fun _ => ?_
  refine LogsOnly.bind (logsOnly_call rfl) fun _ => ?_
  refine LogsOnly.bind (LogsOnly.orHandle (logsOnly_callOr rfl) fun fault => ?_) fun _ =>
    logsOnly_update fun _ => rfl
  unfold giveUp
  split
  · exact LogsOnly.bind (logsOnly_callOr rfl) fun _ => logsOnly_fail _
  · exact logsOnly_fail fault

theorem connect_sends_nothing (homes : Path.Homes) (config : Config) :
    SendsNothing (connect homes config) := by
  apply logs_state_bind
  intro now
  cases now.connected with
  | true => exact logsOnly_pure ()
  | false =>
      exact LogsOnly.bind (chooseSecret_sends_nothing homes config) fun secret =>
        connectClient_sends_nothing config secret

theorem openChannel_sends_nothing (host : String) : SendsNothing (openChannel host) := by
  apply logs_state_bind
  intro now
  rcases now.current with _ | ⟨number, client⟩
  · exact logsOnly_fail _
  · change SendsNothing (if client.link = .absent then _ else _)
    split
    · exact logsOnly_fail _
    · refine LogsOnly.bind (logsOnly_update fun _ => rfl) fun _ => ?_
      refine LogsOnly.bind ?_ fun _ => logsOnly_pure _
      exact LogsOnly.orHandle (logsOnly_callOr rfl) fun fault => logsOnly_fail _

theorem receive_sends_nothing (channel : Channel) : SendsNothing (receive channel) := by
  refine LogsOnly.bind (logsOnly_forM (fun way => ?_) _) fun _ => ?_
  · have reading : (Call.read way).sent? = none := rfl
    exact logsOnly_call reading
  · cases channel.transcript.broken.or channel.ending with
    | some fault => exact logsOnly_fail fault
    | none => exact logsOnly_pure _

theorem converse_sends (host command : String) (channel : Channel) :
    LogsItems State.calls Call.sent? [command] (converse host command channel) := by
  unfold converse tellingChannelFaults
  rw [orHandle_fail]
  refine LogsItems.mapFault _ (LogsItems.bind ?_ fun _ => receive_sends_nothing channel)
  apply (logs_callOr (.send command) channel.sending).mono
  rintro entries outcome rfl
  rfl

/-- What is done with an open channel sends its command once and no other. -/
theorem deliver_sends (host command : String) (channel : Channel) :
    LogsItems State.calls Call.sent? [command]
      ((converse host command channel).ensuring (callOr .closeChannel channel.closing)) :=
  LogsItems.ensuring (converse_sends host command channel) (logsOnly_callOr rfl)

end FleetPatch.Ssh
