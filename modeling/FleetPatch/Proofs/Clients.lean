import FleetPatch.Proofs.Connecting

/-!
# What becomes of clients

A shell connection creates clients, holds one at a time and closes them. The
clients that it ever created are the one that is held, those that were closed, and
those that were left behind: a held client whose transport is not active goes
without being closed when a new client connects in its place.
-/

namespace FleetPatch.Ssh

set_option autoImplicit false

open Run

def Call.created? : Call → Option Nat
  | .create client => some client
  | _ => none

def Call.closed? : Call → Option Nat
  | .closeClient client => some client
  | _ => none

/-- The clients of a connection: those to come, the number of the next, which is held, and which
were created and closed. -/
structure Clients where
  upcoming : List Client
  next : Nat
  held : List Nat
  created : List Nat
  closed : List Nat

def State.clients (now : State) : Clients where
  upcoming := now.upcoming
  next := now.created
  held := (now.current.map Prod.fst).toList
  created := now.calls.filterMap Call.created?
  closed := now.calls.filterMap Call.closed?

/-- What a use does to the clients, and which it leaves behind. -/
inductive Turnover (now : Clients) : List Nat → Clients → Prop where
  | kept : Turnover now [] now
  | refused :
      Turnover now []
        { now with
          upcoming := now.upcoming.tail
          next := now.next + 1
          created := now.created ++ [now.next]
          closed := now.closed ++ [now.next] }
  | replaced :
      Turnover now now.held
        { now with
          upcoming := now.upcoming.tail
          next := now.next + 1
          held := [now.next]
          created := now.created ++ [now.next] }
  | released : Turnover now [] { now with held := [], closed := now.closed ++ now.held }

/-- The books of the clients balance: what was created is held, closed or left behind. -/
structure Books (left : List Nat) (clients : Clients) : Prop where
  numbered : clients.created = List.range clients.next
  balanced : clients.created.Perm (clients.held ++ clients.closed ++ left)

theorem Books.turnover {left more : List Nat} {now last : Clients} (books : Books left now)
    (turns : Turnover now more last) : Books (left ++ more) last := by
  have balance := List.perm_iff_count.mp books.balanced
  -- One case for each kind of turnover: a number is created where it is held or closed.
  cases turns with
  | kept => exact ⟨books.numbered, by simpa using books.balanced⟩
  | refused =>
      refine ⟨by simp [books.numbered, List.range_succ], List.perm_iff_count.mpr fun number => ?_⟩
      have before := balance number
      simp only [List.count_append, List.append_nil] at before ⊢
      omega
  | replaced =>
      refine ⟨by simp [books.numbered, List.range_succ], List.perm_iff_count.mpr fun number => ?_⟩
      have before := balance number
      simp only [List.count_append] at before ⊢
      omega
  | released =>
      refine ⟨books.numbered, List.perm_iff_count.mpr fun number => ?_⟩
      have before := balance number
      simp only [List.count_append, List.append_nil, List.count_nil] at before ⊢
      omega

section Steps

variable (homes : Path.Homes) (config : Config)

theorem recordAll_clients {calls : List Call} (now : State)
    (noneCreated : calls.filterMap Call.created? = [])
    (noneClosed : calls.filterMap Call.closed? = []) :
    (now.recordAll calls).clients = now.clients := by
  simp [State.clients, State.recordAll, List.filterMap_append, noneCreated, noneClosed]

theorem loads_clients {loads : List Call} (only : ∀ made ∈ loads, made.LoadsKey) (now : State) :
    (now.recordAll loads).clients = now.clients := by
  apply recordAll_clients
  · apply List.filterMap_eq_nil_iff.mpr
    intro made member
    obtain ⟨kind, path, passphrase, rfl⟩ := only made member
    rfl
  · apply List.filterMap_eq_nil_iff.mpr
    intro made member
    obtain ⟨kind, path, passphrase, rfl⟩ := only made member
    rfl

theorem channelCalls_clients (command : String) (channel : Channel) (now : State) :
    (now.recordAll (channel.calls command ++ [.closeChannel])).clients = now.clients := by
  apply recordAll_clients <;> unfold Channel.calls <;> split <;>
    simp [Call.created?, Call.closed?, List.filterMap_cons]

theorem openChannel_clients (host : String) (now : State) :
    (openChannel host now).2.clients = now.clients := by
  rw [openChannel_apply]
  rcases held : now.current with _ | ⟨number, client⟩
  · rfl
  · dsimp only
    split
    · rfl
    · simp [State.clients, State.askedForChannel, held, Call.created?, Call.closed?]

theorem dispatch_clients (command : String) (now : State) :
    (dispatch config command now).2.clients = now.clients := by
  have opening := openChannel_clients config.hostname.text now
  unfold dispatch
  rcases opened : openChannel config.hostname.text now with ⟨outcome, after⟩
  rw [opened] at opening
  cases outcome with
  | error fault =>
      rw [bind_apply_error opened]
      exact opening
  | ok channel =>
      rw [bind_apply_ok opened, deliver_apply, channelCalls_clients]
      exact opening

theorem close_clients (now : State) :
    (close now).2.clients =
      { now.clients with held := [], closed := now.clients.closed ++ now.clients.held } := by
  unfold close
  rw [bind_apply_ok (state_apply now)]
  rcases held : now.current with _ | ⟨number, client⟩
  · simp [State.clients, held]
  · dsimp only
    rw [bind_apply_ok (update_apply _ now), callOr_apply]
    simp [State.clients, State.recordAll, held, Call.created?, Call.closed?]

/-- A client that could not connect fails in a way that the client library or the system does. -/
def Clients.FailKnown (clients : Clients) : Prop :=
  ∀ client ∈ clients.upcoming, ∀ fault, client.connecting = some fault → ThirdParty fault

theorem Clients.FailKnown.turnover {left : List Nat} {now last : Clients} (known : now.FailKnown)
    (turns : Turnover now left last) : last.FailKnown := by
  cases turns with
  | kept => exact known
  | refused => exact fun client member => known client (List.mem_of_mem_tail member)
  | replaced => exact fun client member => known client (List.mem_of_mem_tail member)
  | released => exact known

theorem Clients.FailKnown.next {now : State} (known : now.clients.FailKnown) {cause : Fault}
    (failed : now.nextClient.connecting = some cause) : ThirdParty cause := by
  unfold State.nextClient at failed
  cases coming : now.upcoming with
  | nil =>
      rw [coming] at failed
      cases failed
  | cons client rest =>
      rw [coming] at failed
      have member : client ∈ now.clients.upcoming := by
        change client ∈ now.upcoming
        rw [coming]
        exact List.mem_cons_self
      exact known client member cause failed

theorem tries_turnover {secret : Secret} {now last : State} {outcome : Except Fault Unit}
    (known : now.clients.FailKnown) (tries : Tries config secret now outcome last) :
    Turnover now.clients (if outcome.isOk then now.clients.held else []) last.clients := by
  cases tries with
  | held succeeded =>
      have turned : ({ now.tried secret with
          current := some (now.created, now.nextClient) } : State).clients =
          { now.clients with
            upcoming := now.clients.upcoming.tail
            next := now.clients.next + 1
            held := [now.clients.next]
            created := now.clients.created ++ [now.clients.next] } := by
        simp [State.clients, State.tried, Call.created?, Call.closed?]
      rw [turned]
      exact .replaced
  | closed cause told failed recognised =>
      have stopped : ((failing now.nextClient.closing).bind fun _ =>
          (.error told : Except Fault Unit)).isOk = false := by
        cases now.nextClient.closing <;> rfl
      have turned : ((now.tried secret).recordAll [.closeClient now.created]).clients =
          { now.clients with
            upcoming := now.clients.upcoming.tail
            next := now.clients.next + 1
            created := now.clients.created ++ [now.clients.next]
            closed := now.clients.closed ++ [now.clients.next] } := by
        simp [State.clients, State.tried, State.recordAll, Call.created?, Call.closed?,
          List.filterMap_cons]
      rw [stopped, turned]
      exact .refused
  | forsaken cause failed unknown =>
      obtain ⟨told, recognised⟩ := connectFault?_of_thirdParty config (known.next failed)
      rw [unknown] at recognised
      cases recognised

/-- The clients that a use leaves behind: the held one, if its transport is not active when a new
client connects. -/
def leftBehind (now : State) : Incident Link → List Nat
  | .use made =>
      if made.reaches && !now.connected && (connect homes config now).1.isOk then now.clients.held
      else []
  | .event _ => []

theorem connect_turnover {now : State} (known : now.clients.FailKnown) :
    Turnover now.clients (leftBehind homes config now (.use .connect))
      (connect homes config now).2.clients := by
  have attempt := connect_attempt homes config now
  unfold leftBehind
  generalize (connect homes config now).1 = outcome at attempt ⊢
  generalize (connect homes config now).2 = last at attempt ⊢
  cases attempt with
  | stood stands =>
      rw [stands]
      exact .kept
  | unready fault loads missing only failed =>
      rw [missing, loads_clients only]
      exact .kept
  | tried secret loads outcome last missing only chosen tries =>
      have same := loads_clients only now
      rw [missing]
      rw [← same] at known ⊢
      exact tries_turnover config known tries

theorem execute_clients (command : String) (now : State) :
    ((transport homes config).execute command now).2.clients =
      (connect homes config now).2.clients := by
  unfold Transport.execute
  rw [reach_eq_connect]
  rcases connected : connect homes config now with ⟨outcome, after⟩
  cases outcome with
  | error fault => rw [bind_apply_error connected]
  | ok _ =>
      rw [bind_apply_ok connected]
      exact dispatch_clients config command after

theorem step_turnover {now : State} (known : now.clients.FailKnown) (incident : Incident Link) :
    Turnover now.clients (leftBehind homes config now incident)
      ((setting homes config).step now incident).clients := by
  cases incident with
  | use made =>
      cases made with
      | connect => exact connect_turnover homes config known
      | execute command =>
          have executed := execute_clients homes config command now
          rw [Setting.step_execute]
          change Turnover _ _ ((transport homes config).execute command now).2.clients
          rw [executed]
          exact connect_turnover homes config known
      | close =>
          have closed : ((setting homes config).step now (.use .close)).clients =
              { now.clients with held := [], closed := now.clients.closed ++ now.clients.held } :=
            close_clients now
          rw [closed]
          exact .released
  | event link =>
      have same : ((setting homes config).step now (.event link)).clients = now.clients := by
        change (now.setLink link).clients = now.clients
        cases held : now.current <;> simp [State.clients, State.setLink, held]
      rw [same]
      exact .kept

def leavings : List (Incident Link) → State → List Nat
  | [], _ => []
  | first :: later, now =>
      leftBehind homes config now first ++ leavings later ((setting homes config).step now first)

theorem after_books {start : State} {left : List Nat} (known : start.clients.FailKnown)
    (books : Books left start.clients) (incidents : List (Incident Link)) :
    Books (left ++ leavings homes config incidents start)
      ((setting homes config).after incidents start).clients := by
  induction incidents generalizing start left with
  | nil => simpa [leavings, Setting.after] using books
  | cons first later ih =>
      have turns := step_turnover homes config known first
      have balanced := ih (known.turnover turns) (books.turnover turns)
      rw [List.append_assoc] at balanced
      exact balanced

def LeftBehind (incidents : List (Incident Link)) (start : State) (number : Nat) : Prop :=
  ∃ earlier made later, incidents = earlier ++ made :: later ∧
    number ∈ leftBehind homes config ((setting homes config).after earlier start) made

theorem mem_leavings_iff (incidents : List (Incident Link)) (start : State) (number : Nat) :
    number ∈ leavings homes config incidents start ↔
      LeftBehind homes config incidents start number := by
  induction incidents generalizing start with
  | nil =>
      refine iff_of_false List.not_mem_nil fun behind => ?_
      obtain ⟨earlier, made, later, split, _⟩ := behind
      cases earlier <;> cases split
  | cons first later ih =>
      rw [leavings, List.mem_append, ih]
      constructor
      · intro behind
        rcases behind with now | ⟨earlier, made, last, split, member⟩
        · exact ⟨[], first, later, rfl, now⟩
        · exact ⟨first :: earlier, made, last, congrArg (first :: ·) split, member⟩
      · intro behind
        obtain ⟨earlier, made, last, split, member⟩ := behind
        cases earlier with
        | nil =>
            cases split
            exact .inl member
        | cons head earlier =>
            cases split
            exact .inr ⟨earlier, made, last, rfl, member⟩

end Steps

/-- After a connection is closed, each client that it ever created was closed once, or was left
behind and never closed. -/
theorem closed_once_iff (homes : Path.Homes) (config : Config) (keyFiles : KeyFiles)
    (upcoming : List Client) (incidents : List (Incident Link))
    (known : ∀ client ∈ upcoming, ∀ fault, client.connecting = some fault → ThirdParty fault) :
    let start := State.fresh keyFiles upcoming
    let befallen := incidents ++ [.use .close]
    let last := ((setting homes config).after befallen start).clients
    ∀ number ∈ last.created,
      last.closed.count number ≤ 1 ∧
        (last.closed.count number = 1 ↔ ¬ LeftBehind homes config befallen start number) := by
  intro start befallen last number created
  have opened : Books [] start.clients := ⟨rfl, List.Perm.refl []⟩
  have knownAtFirst : start.clients.FailKnown := known
  have books := after_books homes config knownAtFirst opened befallen
  rw [List.nil_append] at books
  have nothingHeld : last.held = [] := by
    simp only [last, befallen, Setting.after_concat]
    exact congrArg Clients.held (close_clients _)
  -- A created client occurs once in the books, and nothing is held after the connection is closed.
  have balance := books.balanced.count_eq number
  have once : last.created.count number = 1 := by
    have distinct : last.created.Nodup := by
      rw [books.numbered]
      exact List.nodup_range
    have atMost := List.nodup_iff_count.mp distinct number
    have atLeast := List.count_pos_iff.mpr created
    omega
  rw [← mem_leavings_iff]
  change last.created.count number = (last.held ++ last.closed ++ _).count number at balance
  rw [once, nothingHeld, List.nil_append, List.count_append] at balance
  constructor
  · omega
  · rw [← List.count_eq_zero]
    omega

/-- A client that timed out is closed once, and so is the one after it, which lost its transport. -/
theorem refused_client_closed :
    let homes : Path.Homes := ⟨"/root", []⟩
    let config := Config.ofHost (.str "web") (.str "ops")
    let upcoming := [⟨some (.foreign .timeout "slow"), none, .active, []⟩, Client.plain]
    let start := State.fresh [] upcoming
    let incidents := [.use .connect, .use (.execute "uptime"), .event .inactive]
    (∀ client ∈ upcoming, ∀ fault, client.connecting = some fault → ThirdParty fault) ∧
      ((setting homes config).after (incidents ++ [.use .close]) start).clients.closed = [0, 1] ∧
      ¬ LeftBehind homes config (incidents ++ [.use .close]) start 1 := by
  intro homes config upcoming start incidents
  have known : ∀ client ∈ upcoming, ∀ fault, client.connecting = some fault → ThirdParty fault := by
    intro client member fault failed
    rcases List.mem_cons.mp member with rfl | plain
    · cases failed
      exact ⟨.timeout, "slow", rfl, .inr rfl⟩
    · rw [List.mem_singleton.mp plain] at failed
      cases failed
  have accounted := closed_once_iff homes config [] upcoming incidents known 1 (by decide)
  exact ⟨known, by decide, accounted.2.mp (by decide)⟩

/-- A held client whose transport is not active goes without being closed when another one connects
in its place. -/
theorem inactive_client_left_behind :
    let config := Config.ofHost (.str "web") (.str "ops")
    let start := State.fresh [] [⟨none, none, .inactive, []⟩, .plain]
    let last := ((setting ⟨"/root", []⟩ config).after
      [.use .connect, .use .connect, .use .close] start).clients
    0 ∈ last.created ∧ last.closed.count 0 = 0 := by
  decide

end FleetPatch.Ssh
