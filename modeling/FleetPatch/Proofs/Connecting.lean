import FleetPatch.Proofs.Channels

/-!
# How a shell connection connects

All that connecting can do, by what comes of it: the connection stands, no secret
is found, or a new client is tried.
-/

namespace FleetPatch.Ssh

set_option autoImplicit false

open Run

/-- A shell connection whose transport may change between its uses. -/
def setting (homes : Path.Homes) (config : Config) : Setting State Link :=
  ⟨transport homes config, State.setLink⟩

def State.nextClient (now : State) : Client := now.upcoming.headD .plain

def State.tried (secret : Secret) (now : State) : State :=
  { now with
    upcoming := now.upcoming.tail
    created := now.created + 1
    calls := now.calls ++
      [.create now.created, .trustUnknownHosts now.created, .connect now.created secret] }

def ThirdParty (fault : Fault) : Prop :=
  ∃ kind text, fault = .foreign kind text ∧ (kind.isShell = true ∨ kind.isSystem = true)

theorem connectFault?_of_thirdParty (config : Config) {fault : Fault} (third : ThirdParty fault) :
    ∃ told, connectFault? config fault = some told := by
  obtain ⟨kind, text, rfl, family⟩ := third
  have described : (kind.isSystem || kind.isShell) = true := by
    rw [Bool.or_eq_true]
    exact family.symm
  simp only [connectFault?, described, if_true]
  split
  · exact ⟨_, rfl⟩
  · split
    · exact ⟨_, rfl⟩
    · split <;> exact ⟨_, rfl⟩

inductive Tries (config : Config) (secret : Secret) (now : State) :
    Except Fault Unit → State → Prop where
  | held (succeeded : now.nextClient.connecting = none) :
      Tries config secret now (.ok ())
        { now.tried secret with current := some (now.created, now.nextClient) }
  | closed (cause told : Fault) (failed : now.nextClient.connecting = some cause)
      (known : connectFault? config cause = some told) :
      Tries config secret now ((failing now.nextClient.closing).bind fun _ => .error told)
        ((now.tried secret).recordAll [.closeClient now.created])
  | forsaken (cause : Fault) (failed : now.nextClient.connecting = some cause)
      (unknown : connectFault? config cause = none) :
      Tries config secret now (.error cause) (now.tried secret)

theorem nextClient_apply (now : State) :
    nextClient now = (.ok (now.created, now.nextClient),
      { now with upcoming := now.upcoming.tail, created := now.created + 1 }) := by
  unfold nextClient State.nextClient
  cases now with
  | mk keyFiles upcoming created current calls => cases upcoming <;> rfl

theorem connect_apply_tried (secret : Secret) (now : State) :
    callOr (.connect now.created secret) now.nextClient.connecting
        (({ now with upcoming := now.upcoming.tail, created := now.created + 1 }.recordAll
          [.create now.created]).recordAll [.trustUnknownHosts now.created]) =
      (failing now.nextClient.connecting, now.tried secret) := by
  rw [callOr_apply, ← State.recordAll_append, ← State.recordAll_append]
  rfl

theorem giveUp_of_known {config : Config} {cause told : Fault}
    (known : connectFault? config cause = some told) (number : Nat) (client : Client)
    (now : State) :
    giveUp config number client cause now =
      ((failing client.closing).bind fun _ => .error told,
        now.recordAll [.closeClient number]) := by
  simp only [giveUp, known]
  have closed := callOr_apply (.closeClient number) client.closing now
  cases stopped : client.closing with
  | none =>
      rw [stopped] at closed
      exact bind_apply_ok closed
  | some fault =>
      rw [stopped] at closed
      exact bind_apply_error closed

theorem giveUp_of_unknown {config : Config} {cause : Fault}
    (unknown : connectFault? config cause = none) (number : Nat) (client : Client) (now : State) :
    giveUp config number client cause now = (.error cause, now) := by
  simp only [giveUp, unknown, fail_apply]

/-- Giving a client up never succeeds, so the client that could not connect is not held. -/
theorem giveUp_fails (config : Config) (number : Nat) (client : Client) (cause : Fault)
    (now : State) : ∃ fault, (giveUp config number client cause now).1 = .error fault := by
  cases known : connectFault? config cause with
  | none =>
      rw [giveUp_of_unknown known]
      exact ⟨cause, rfl⟩
  | some told =>
      rw [giveUp_of_known known]
      cases client.closing with
      | none => exact ⟨told, rfl⟩
      | some fault => exact ⟨fault, rfl⟩

theorem connectClient_tries (config : Config) (secret : Secret) (now : State) :
    Tries config secret now (connectClient config secret now).1
      (connectClient config secret now).2 := by
  rcases ended : connectClient config secret now with ⟨outcome, last⟩
  unfold connectClient at ended
  rw [bind_apply_ok (nextClient_apply now)] at ended
  dsimp only at ended
  rw [bind_apply_ok (call_apply _ _), bind_apply_ok (call_apply _ _)] at ended
  have connected := connect_apply_tried secret now
  cases failed : now.nextClient.connecting with
  | none =>
      rw [congrArg failing failed] at connected
      rw [bind_apply_ok (orHandle_apply_ok connected)] at ended
      cases ended
      exact .held failed
  | some cause =>
      rw [congrArg failing failed] at connected
      obtain ⟨fault, stopped⟩ := giveUp_fails config now.created now.nextClient cause
        (now.tried secret)
      have handled : giveUp config now.created now.nextClient cause (now.tried secret) =
          (.error fault, (giveUp config now.created now.nextClient cause (now.tried secret)).2) :=
        Prod.ext stopped rfl
      rw [bind_apply_error ((orHandle_apply_error connected).trans handled)] at ended
      cases ended
      rw [← stopped]
      cases known : connectFault? config cause with
      | none =>
          rw [giveUp_of_unknown known]
          exact .forsaken cause failed known
      | some told =>
          rw [giveUp_of_known known]
          exact .closed cause told failed known

inductive Attempt (homes : Path.Homes) (config : Config) (now : State) :
    Except Fault Unit → State → Prop where
  | stood (stands : now.connected = true) : Attempt homes config now (.ok ()) now
  | unready (fault : Fault) (loads : List Call) (missing : now.connected = false)
      (only : ∀ made ∈ loads, made.LoadsKey)
      (failed : (chooseSecret homes config now).1 = .error fault) :
      Attempt homes config now (.error fault) (now.recordAll loads)
  | tried (secret : Secret) (loads : List Call) (outcome : Except Fault Unit) (last : State)
      (missing : now.connected = false) (only : ∀ made ∈ loads, made.LoadsKey)
      (chosen : (chooseSecret homes config now).1 = .ok secret)
      (tries : Tries config secret (now.recordAll loads) outcome last) :
      Attempt homes config now outcome last

theorem connect_of_connected (homes : Path.Homes) (config : Config) {now : State}
    (stands : now.connected = true) : connect homes config now = (.ok (), now) := by
  rw [connect, bind_apply_ok (state_apply now), if_pos stands, pure_apply]

theorem reach_eq_connect (homes : Path.Homes) (config : Config) :
    (transport homes config).reach = connect homes config :=
  Transport.reach_eq_connect fun _ stands => connect_of_connected homes config stands

theorem connect_attempt (homes : Path.Homes) (config : Config) (now : State) :
    Attempt homes config now (connect homes config now).1 (connect homes config now).2 := by
  cases stands : now.connected with
  | true =>
      rw [connect_of_connected homes config stands]
      exact .stood stands
  | false =>
      have began : connect homes config now =
          (chooseSecret homes config >>= connectClient config) now := by
        rw [connect, bind_apply_ok (state_apply now),
          if_neg (by rw [stands]; exact Bool.false_ne_true)]
      obtain ⟨loads, only, reached⟩ := chooseSecret_onlyLoadsKeys homes config now
      rcases chosen : chooseSecret homes config now with ⟨outcome, after⟩
      rw [chosen] at reached
      dsimp only at reached
      subst reached
      cases outcome with
      | error fault =>
          rw [began, bind_apply_error chosen]
          exact .unready fault loads stands only (congrArg Prod.fst chosen)
      | ok secret =>
          rw [began, bind_apply_ok chosen]
          exact .tried secret loads _ _ stands only (congrArg Prod.fst chosen)
            (connectClient_tries config secret _)

end FleetPatch.Ssh
