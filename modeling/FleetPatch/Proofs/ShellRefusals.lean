import FleetPatch.Proofs.Clients
import FleetPatch.Proofs.ShellEscapes

/-!
# How a shell connection is refused

A connection that does not come about has a cause: a key that is there and cannot be
loaded, or a client that could not connect. Only credentials that are not accepted are
told as such, anything else is told as a failure of the connection. Nothing that was
held before is given up, and a client that could not connect is closed.
-/

namespace FleetPatch

set_option autoImplicit false

/-- Outcomes of connecting told by their causes: credentials are refused, the connection fails for
another cause, or nothing fails. -/
structure Classified (outcome : Except Fault Unit) (refused failed : Prop) : Prop where
  credentials : (∃ cause, outcome = .error (.authentication cause)) ↔ refused
  connection : (∃ cause, outcome = .error (.connection cause)) ↔ failed ∧ ¬ refused
  connected : outcome = .ok () ↔ ¬ failed

theorem classified_ok {refused failed : Prop} (none : ¬ failed) (follows : refused → failed) :
    Classified (.ok ()) refused failed where
  credentials := iff_of_false nofun fun holds => none (follows holds)
  connection := iff_of_false nofun fun holds => none holds.1
  connected := iff_of_true rfl none

theorem classified_authentication {refused failed : Prop} (cause : AuthenticationCause)
    (holds : refused) (follows : refused → failed) :
    Classified (.error (.authentication cause)) refused failed where
  credentials := iff_of_true ⟨cause, rfl⟩ holds
  connection := iff_of_false nofun fun other => other.2 holds
  connected := iff_of_false nofun fun none => none (follows holds)

theorem classified_connection {refused failed : Prop} (cause : ConnectionCause) (holds : failed)
    (other : ¬ refused) : Classified (.error (.connection cause)) refused failed where
  credentials := iff_of_false nofun other
  connection := iff_of_true ⟨cause, rfl⟩ ⟨holds, other⟩
  connected := iff_of_false nofun fun none => none holds

namespace Ssh

open Run

/-- A key loads as one of some kinds if the client library gives up every kind before it. -/
def Loadable (faults : List (KeyKind × Fault)) (kinds : List KeyKind) : Prop :=
  ∃ earlier kind later, kinds = earlier ++ kind :: later ∧ faults.lookup kind = none ∧
    ∀ other ∈ earlier, ∃ cause text,
      faults.lookup other = some (.foreign cause text) ∧ cause.isShell = true

theorem loadable_nil (faults : List (KeyKind × Fault)) : ¬ Loadable faults [] := by
  intro loads
  obtain ⟨earlier, kind, later, split, _⟩ := loads
  simp at split

theorem loadable_of_none {faults : List (KeyKind × Fault)} {kind : KeyKind} (rest : List KeyKind)
    (accepted : faults.lookup kind = none) : Loadable faults (kind :: rest) :=
  ⟨[], kind, rest, rfl, accepted, by simp⟩

theorem loadable_of_refused {faults : List (KeyKind × Fault)} {kind : KeyKind} {rest : List KeyKind}
    {cause : ForeignKind} {text : String}
    (refused : faults.lookup kind = some (.foreign cause text)) :
    Loadable faults (kind :: rest) ↔ cause.isShell = true ∧ Loadable faults rest := by
  constructor
  · intro loads
    obtain ⟨earlier, found, later, split, accepted, passed⟩ := loads
    cases earlier with
    | nil =>
        obtain ⟨rfl, rfl⟩ := List.cons.inj split
        simp [refused] at accepted
    | cons head earlier =>
        obtain ⟨rfl, rfl⟩ := List.cons.inj split
        obtain ⟨raised, detail, looked, shell⟩ := passed kind (by simp)
        rw [refused] at looked
        simp only [Option.some.injEq, Fault.foreign.injEq] at looked
        refine ⟨by rw [looked.1]; exact shell, earlier, found, later, rfl, accepted, ?_⟩
        intro other member
        exact passed other (by simp [member])
  · intro loads
    obtain ⟨shell, earlier, found, later, rfl, accepted, passed⟩ := loads
    refine ⟨kind :: earlier, found, later, rfl, accepted, ?_⟩
    intro other member
    by_cases same : other = kind
    · subst same
      exact ⟨cause, text, refused, shell⟩
    · exact passed other (by simpa [same] using member)

section Keys

variable (homes : Path.Homes) (config : Config)

theorem loadKey_ok_iff (passphrase : Json) (path : String) {faults : List (KeyKind × Fault)}
    (third : ∀ fault ∈ faults.map Prod.snd, ThirdParty fault) (kinds : List KeyKind) (now : State) :
    (∃ kind, (loadKey passphrase path faults kinds now).1 = .ok kind) ↔ Loadable faults kinds := by
  induction kinds generalizing now with
  | nil => exact iff_of_false nofun (loadable_nil faults)
  | cons kind rest ih =>
      unfold loadKey
      rw [bind_apply_ok (call_apply _ now)]
      cases found : faults.lookup kind with
      | none => exact iff_of_true ⟨kind, rfl⟩ (loadable_of_none rest found)
      | some fault =>
          have member : fault ∈ faults.map Prod.snd := List.mem_map_of_mem (mem_of_lookup found)
          obtain ⟨cause, text, rfl, _⟩ := third fault member
          rw [loadable_of_refused found]
          dsimp only
          by_cases shell : cause.isShell = true
          · rw [if_pos shell, ih]
            simp [shell]
          · rw [if_neg shell]
            refine iff_of_false ?_ fun loads => shell loads.1
            rintro ⟨_, loaded⟩
            cases loaded

/-- A key file that is there and cannot be loaded, with no password to use in its place. -/
def UnusableKey (now : State) : Prop :=
  ∃ path faults, config.keyPath homes = .ok (some path) ∧ now.keyFiles.lookup path = some faults ∧
    ¬ Loadable faults keyKinds ∧ config.password.isPresent = false

/-- The faults of loading keys are those of the client library and of the system. -/
def KeysThird (now : State) : Prop :=
  ∀ fault ∈ now.keyFiles.flatMap (fun file => file.2.map Prod.snd), ThirdParty fault

theorem unusableKey_iff {now : State} {path : String} {faults : List (KeyKind × Fault)}
    (expanded : config.keyPath homes = .ok (some path))
    (found : now.keyFiles.lookup path = some faults) :
    UnusableKey homes config now ↔
      ¬ Loadable faults keyKinds ∧ config.password.isPresent = false := by
  unfold UnusableKey
  rw [expanded]
  simp [found]

/-- Where there is a key file, a secret is found unless the key cannot be used. -/
theorem chooseSecret_of_file {now : State} (third : KeysThird now) {path : String}
    {faults : List (KeyKind × Fault)} (expanded : config.keyPath homes = .ok (some path))
    (found : now.keyFiles.lookup path = some faults) :
    UnusableKey homes config now ∧
        (∃ cause, (chooseSecret homes config now).1 = .error (.authentication cause)) ∨
      ¬ UnusableKey homes config now ∧
        ∃ secret, (chooseSecret homes config now).1 = .ok secret := by
  have thirdHere : ∀ fault ∈ faults.map Prod.snd, ThirdParty fault := by
    intro fault member
    apply third fault
    exact List.mem_flatMap.mpr ⟨(path, faults), mem_of_lookup found, member⟩
  have taken : lift (config.keyPath homes) now = (.ok (some path), now) := by rw [expanded]; rfl
  have loads := loadKey_ok_iff config.privateKeyPassphrase path thirdHere keyKinds now
  rw [unusableKey_iff homes config expanded found, ← loads]
  unfold chooseSecret
  rw [bind_apply_ok (state_apply now), bind_apply_ok taken]
  dsimp only
  rw [found]
  dsimp only
  rcases loaded : loadKey config.privateKeyPassphrase path faults keyKinds now with ⟨outcome, last⟩
  cases outcome with
  | ok kind =>
      have keyed : (loadKey config.privateKeyPassphrase path faults keyKinds >>=
          fun kind => pure (Secret.key kind)) now = (.ok (.key kind), last) :=
        bind_apply_ok loaded
      refine .inr ⟨fun unusable => unusable.1 ⟨kind, rfl⟩, .key kind, ?_⟩
      rw [orHandle_apply_ok keyed]
  | error cause =>
      have keyed : (loadKey config.privateKeyPassphrase path faults keyKinds >>=
          fun kind => pure (Secret.key kind)) now = (.error cause, last) :=
        bind_apply_error loaded
      have raised : ThirdParty cause :=
        loadKey_fault _ path thirdHere keyKinds (congrArg Prod.fst loaded)
      rw [orHandle_apply_error keyed, isKeyFault_of_thirdParty raised, if_pos rfl]
      cases given : config.password.isPresent with
      | true => exact .inr ⟨by simp, _, rfl⟩
      | false => exact .inl ⟨by simp, _, rfl⟩

theorem chooseSecret_without_file {now : State} {path : Option String}
    (expanded : config.keyPath homes = .ok path)
    (missing : ∀ name, path = some name → now.keyFiles.lookup name = none) :
    (chooseSecret homes config now).1 = .ok (passwordSecret config) := by
  have taken : lift (config.keyPath homes) now = (.ok path, now) := by rw [expanded]; rfl
  unfold chooseSecret
  rw [bind_apply_ok (state_apply now), bind_apply_ok taken]
  cases path with
  | none => rfl
  | some name =>
      dsimp only
      rw [missing name rfl]
      rfl

theorem chooseSecret_cases {now : State} (third : KeysThird now)
    (expands : ∃ path, config.keyPath homes = .ok path) :
    UnusableKey homes config now ∧
        (∃ cause, (chooseSecret homes config now).1 = .error (.authentication cause)) ∨
      ¬ UnusableKey homes config now ∧
        ∃ secret, (chooseSecret homes config now).1 = .ok secret := by
  obtain ⟨path, expanded⟩ := expands
  by_cases file : ∃ name faults, path = some name ∧ now.keyFiles.lookup name = some faults
  · obtain ⟨name, faults, rfl, found⟩ := file
    exact chooseSecret_of_file homes config third expanded found
  · have missing : ∀ name, path = some name → now.keyFiles.lookup name = none := by
      intro name same
      cases found : now.keyFiles.lookup name with
      | none => rfl
      | some faults => exact absurd ⟨name, faults, same, found⟩ file
    refine .inr ⟨?_, _, chooseSecret_without_file homes config expanded missing⟩
    rintro ⟨name, faults, told, found, _⟩
    exact file ⟨name, faults, Except.ok.inj (expanded.symm.trans told), found⟩

end Keys

def Client.Rejected (client : Client) : Prop :=
  ∃ kind text, client.connecting = some (.foreign kind text) ∧ kind.isShellAuthentication = true

section Attempts

variable (homes : Path.Homes) (config : Config)

def Fails (now : State) : Prop :=
  UnusableKey homes config now ∨ now.nextClient.connecting ≠ none

def Refused (now : State) : Prop := UnusableKey homes config now ∨ now.nextClient.Rejected

theorem Refused.fails {now : State} (refused : Refused homes config now) :
    Fails homes config now := by
  refine refused.imp_right fun rejected => ?_
  obtain ⟨kind, text, failed, _⟩ := rejected
  simp [failed]

theorem connectFault?_classified {cause told : Fault} (third : ThirdParty cause)
    (known : connectFault? config cause = some told) :
    (∃ kind text, cause = .foreign kind text ∧ kind.isShellAuthentication = true) ∧
        (∃ detail, told = .authentication detail) ∨
      (¬ ∃ kind text, cause = .foreign kind text ∧ kind.isShellAuthentication = true) ∧
        ∃ detail, told = .connection detail := by
  obtain ⟨kind, text, rfl, _⟩ := third
  unfold connectFault? at known
  dsimp only at known
  by_cases credentials : kind.isShellAuthentication = true
  · rw [if_pos credentials, Option.some.injEq] at known
    exact .inl ⟨⟨kind, text, rfl, credentials⟩, _, known.symm⟩
  · rw [if_neg credentials] at known
    refine .inr ⟨by simpa using credentials, ?_⟩
    split at known
    · exact ⟨_, (Option.some.inj known).symm⟩
    · split at known
      · exact ⟨_, (Option.some.inj known).symm⟩
      · split at known
        · exact ⟨_, (Option.some.inj known).symm⟩
        · cases known

/-- What a connection that did not come about leaves: it holds what it held, and a client that could
not connect was closed once. -/
structure Undone (now last : State) : Prop where
  unconnected : last.connected = false
  kept : last.current = now.current
  closed : ∃ made, last.calls = now.calls ++ made ∧
    ∀ number secret, Call.connect number secret ∈ made →
      (made.filterMap Call.closed?).count number = 1

/-- What the client library and the system can do to a connection attempt: they keep keys from being
loaded and the next client from connecting. -/
structure Listed (now : State) : Prop where
  expands : ∃ path, config.keyPath homes = .ok path
  keys : KeysThird now
  connecting : ∀ fault, now.nextClient.connecting = some fault → ThirdParty fault

variable {homes config}

theorem Listed.tries {now : State} (listed : Listed homes config now)
    (missing : now.connected = false) :
    (UnusableKey homes config now ∧ ∃ cause loads, (∀ made ∈ loads, made.LoadsKey) ∧
        connect homes config now = (.error (.authentication cause), now.recordAll loads)) ∨
      ¬ UnusableKey homes config now ∧ ∃ secret loads, (∀ made ∈ loads, made.LoadsKey) ∧
        Tries config secret (now.recordAll loads) (connect homes config now).1
          (connect homes config now).2 := by
  have attempt := connect_attempt homes config now
  have chosen := chooseSecret_cases homes config listed.keys listed.expands
  generalize ended : connect homes config now = result at attempt ⊢
  obtain ⟨outcome, last⟩ := result
  cases attempt with
  | stood stands =>
      rw [missing] at stands
      cases stands
  | unready fault loads _ only failed =>
      rcases chosen with ⟨unusable, cause, refused⟩ | ⟨_, secret, found⟩
      · rw [failed] at refused
        cases refused
        exact .inl ⟨unusable, cause, loads, only, rfl⟩
      · rw [failed] at found
        cases found
  | tried secret loads outcome last _ only found tries =>
      rcases chosen with ⟨_, cause, refused⟩ | ⟨usable, _⟩
      · rw [found] at refused
        cases refused
      · exact .inr ⟨usable, secret, loads, only, tries⟩

theorem Listed.classified {now : State} (listed : Listed homes config now)
    (missing : now.connected = false) (closable : now.nextClient.closing = none) :
    Classified (connect homes config now).1 (Refused homes config now)
      (Fails homes config now) := by
  rcases listed.tries missing with ⟨unusable, cause, loads, _, ended⟩ |
    ⟨usable, secret, loads, _, tries⟩
  · rw [ended]
    exact classified_authentication cause (.inl unusable) (Refused.fails homes config)
  · generalize (connect homes config now).1 = outcome at tries ⊢
    generalize (connect homes config now).2 = last at tries
    cases tries with
    | held succeeded =>
        have connects : now.nextClient.connecting = none := succeeded
        exact classified_ok (by simp [Fails, usable, connects]) (Refused.fails homes config)
    | closed cause told failed known =>
        have stopped : now.nextClient.connecting = some cause := failed
        have fails : Fails homes config now := .inr (by simp [stopped])
        have closes : (now.recordAll loads).nextClient.closing = none := closable
        have refused_iff : Refused homes config now ↔
            ∃ kind text, cause = .foreign kind text ∧ kind.isShellAuthentication = true := by
          simp [Refused, usable, Client.Rejected, stopped]
        rw [closes]
        rcases connectFault?_classified config (listed.connecting cause stopped) known with
          ⟨credentials, detail, rfl⟩ | ⟨other, detail, rfl⟩
        · exact classified_authentication detail (refused_iff.mpr credentials) fun _ => fails
        · exact classified_connection detail fails fun refused => other (refused_iff.mp refused)
    | forsaken cause failed unknown =>
        obtain ⟨told, known⟩ := connectFault?_of_thirdParty config (listed.connecting cause failed)
        rw [unknown] at known
        cases known

/-- A connection that did not come about is left as it was, also if a client cannot be closed. -/
theorem Listed.undone {now : State} (listed : Listed homes config now)
    (missing : now.connected = false) {fault : Fault}
    (stopped : (connect homes config now).1 = .error fault) :
    Undone now (connect homes config now).2 := by
  have connects_nothing {loads : List Call} (only : ∀ made ∈ loads, made.LoadsKey) (number : Nat)
      (secret : Secret) : Call.connect number secret ∉ loads := by
    intro member
    obtain ⟨_, _, _, same⟩ := only _ member
    cases same
  have closes_nothing {loads : List Call} (only : ∀ made ∈ loads, made.LoadsKey) :
      loads.filterMap Call.closed? = [] := by
    apply List.filterMap_eq_nil_iff.mpr
    intro made member
    obtain ⟨_, _, _, rfl⟩ := only made member
    rfl
  rcases listed.tries missing with ⟨_, cause, loads, only, ended⟩ | ⟨_, secret, loads, only, tries⟩
  · rw [ended]
    refine ⟨missing, rfl, loads, rfl, fun number secret member => ?_⟩
    exact absurd member (connects_nothing only number secret)
  · generalize (connect homes config now).1 = outcome at tries stopped
    generalize (connect homes config now).2 = last at tries ⊢
    cases tries with
    | held => cases stopped
    | closed cause told failed known =>
        let made := loads ++ [.create now.created, .trustUnknownHosts now.created,
          .connect now.created secret, .closeClient now.created]
        refine ⟨missing, rfl, made, ?_, fun number other member => ?_⟩
        · simp [made, State.recordAll, State.tried]
        · have same : number = now.created := by
            rcases List.mem_append.mp member with amongst | last
            · exact absurd amongst (connects_nothing only number other)
            · have found : number = now.created ∧ other = secret := by simpa using last
              exact found.1
          simp [made, same, closes_nothing only, Call.closed?, List.filterMap_cons]
    | forsaken cause failed unknown =>
        obtain ⟨told, known⟩ := connectFault?_of_thirdParty config (listed.connecting cause failed)
        rw [unknown] at known
        cases known

end Attempts

end Ssh

end FleetPatch
