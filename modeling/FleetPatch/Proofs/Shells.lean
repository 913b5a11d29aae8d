import FleetPatch.Proofs.Sessions

/-!
# What becomes of shells

A remote management connection asks for a shell only when it holds none and the port
has answered, runs each command in the shell that it holds and cleans up each command
that was run. Every shell that was opened is held or was closed once, also one that was
opened when nobody waited for it any more. Only a handshake whose worker is not told in
time that the caller has left opens a shell that nobody closes.
-/

namespace FleetPatch.WinRm

set_option autoImplicit false

open Run

def Call.attempted? : Call → Option Nat
  | .openShell handshake => some handshake
  | _ => none

def Call.closed? : Call → Option Nat
  | .closeShell handshake _ => some handshake
  | _ => none

def Call.isOfCommand : Call → Bool
  | .run .. | .output .. | .cleanUp .. => true
  | _ => false

/-- The handshakes of a connection: the number of the next, those that asked for a shell, the one
whose shell is held, those that were abandoned and go on, and those whose shell was closed. -/
structure Shells where
  next : Nat
  attempted : List Nat
  held : List Nat
  pending : List Nat
  closed : List Nat

def State.shells (now : State) : Shells where
  next := now.started
  attempted := now.calls.filterMap Call.attempted?
  held := (now.held.map Shell.handshake).toList
  pending := now.abandoned.map Prod.fst
  closed := now.calls.filterMap Call.closed?

/-- A handshake gets a shell that is somebody's: the caller could wait, and takes the shell or gives
up before the worker looks for that. -/
structure Owned (config : Config) (script : Nat → Handshake) (number : Nat) : Prop where
  opening : (script number).opening = none
  waited : unorderedKind? config.connectTimeout = none
  noticed : (script number).paceUnder config.connectTimeout ≠ .crossed

/-- What an incident does to the shells, given which handshakes get one that is somebody's. -/
inductive Turnover (owned : Nat → Prop) (now : Shells) : Shells → Prop where
  | kept : Turnover owned now now
  | unbuilt : Turnover owned now { now with next := now.next + 1 }
  | lost (unowned : ¬ owned now.next) :
      Turnover owned now
        { now with next := now.next + 1, attempted := now.attempted ++ [now.next] }
  | abandoned :
      Turnover owned now
        { now with
          next := now.next + 1
          attempted := now.attempted ++ [now.next]
          pending := now.pending ++ [now.next] }
  | opened (free : now.held = []) (taken : owned now.next) :
      Turnover owned now
        { now with
          next := now.next + 1
          attempted := now.attempted ++ [now.next]
          held := [now.next] }
  | released : Turnover owned now { now with held := [], closed := now.closed ++ now.held }
  | vain (number : Nat) (member : number ∈ now.pending) (unowned : ¬ owned number) :
      Turnover owned now { now with pending := now.pending.filter (· != number) }
  | late (number : Nat) (member : number ∈ now.pending) (taken : owned number) :
      Turnover owned now
        { now with
          pending := now.pending.filter (· != number)
          closed := now.closed ++ [number] }

/-- The books of the shells balance: each handshake that asked for a shell has its shell held or
closed, goes on, or left nobody a shell. -/
structure Books (owned : Nat → Prop) (shells : Shells) : Prop where
  fresh : ∀ number ∈ shells.attempted, number < shells.next
  distinct : shells.attempted.Nodup
  opened : ∀ number ∈ shells.held ++ shells.closed, owned number
  balanced : ∃ lost, (∀ number ∈ lost, ¬ owned number) ∧
    shells.attempted.Perm (shells.held ++ shells.pending ++ shells.closed ++ lost)

section Books

variable {owned : Nat → Prop} {now last : Shells}

theorem Books.pending_nodup (books : Books owned now) : now.pending.Nodup := by
  obtain ⟨lost, _, balanced⟩ := books.balanced
  have whole := balanced.nodup_iff.mp books.distinct
  exact ((whole.sublist (List.sublist_append_left _ _)).sublist
    (List.sublist_append_left _ _)).sublist (List.sublist_append_right _ _)

theorem Books.next_fresh (books : Books owned now) :
    (∀ number ∈ now.attempted ++ [now.next], number < now.next + 1) ∧
      (now.attempted ++ [now.next]).Nodup := by
  constructor
  · intro number member
    rcases List.mem_append.mp member with earlier | latest
    · have below := books.fresh number earlier
      omega
    · rw [List.mem_singleton.mp latest]
      omega
  · apply List.nodup_append.mpr
    refine ⟨books.distinct, by simp, fun first earlier second latest same => ?_⟩
    have below := books.fresh first earlier
    rw [same, List.mem_singleton.mp latest] at below
    omega

theorem count_filter_ne {numbers : List Nat} (distinct : numbers.Nodup) {number : Nat}
    (member : number ∈ numbers) (other : Nat) :
    (numbers.filter (· != number)).count other + [number].count other = numbers.count other := by
  by_cases same : other = number
  · subst same
    have once := List.nodup_iff_count.mp distinct other
    have present := List.count_pos_iff.mpr member
    have gone : (numbers.filter (· != other)).count other = 0 := by
      apply List.count_eq_zero.mpr
      simp
    rw [gone, List.count_singleton_self]
    omega
  · have apart : [number].count other = 0 := by
      apply List.count_eq_zero.mpr
      simpa using same
    rw [apart, List.count_filter (by simpa using same)]
    omega

theorem Books.turnover (books : Books owned now) (turns : Turnover owned now last) :
    Books owned last := by
  obtain ⟨lost, unowned, balanced⟩ := books.balanced
  obtain ⟨heldOpened, closedOpened⟩ := List.forall_mem_append.mp books.opened
  have balance := List.perm_iff_count.mp balanced
  -- Only what is pending loses a member in the middle, so only there distinctness counts.
  cases turns with
  | kept => exact books
  | unbuilt =>
      have fresh : ∀ number ∈ now.attempted, number < now.next + 1 :=
        fun number member => Nat.lt_succ_of_lt (books.fresh number member)
      exact ⟨fresh, books.distinct, books.opened, books.balanced⟩
  | lost latest =>
      obtain ⟨fresh, distinct⟩ := books.next_fresh
      have unownedToo := List.forall_mem_append.mpr ⟨unowned, List.forall_mem_singleton.mpr latest⟩
      refine ⟨fresh, distinct, books.opened, lost ++ [now.next], unownedToo, ?_⟩
      rw [← List.append_assoc]
      exact balanced.append_right _
  | abandoned =>
      obtain ⟨fresh, distinct⟩ := books.next_fresh
      refine ⟨fresh, distinct, books.opened, lost, unowned, List.perm_iff_count.mpr ?_⟩
      intro number
      have before := balance number
      simp only [List.count_append] at before ⊢
      omega
  | opened free taken =>
      obtain ⟨fresh, distinct⟩ := books.next_fresh
      have opened : ∀ number ∈ [now.next] ++ now.closed, owned number :=
        List.forall_mem_append.mpr ⟨List.forall_mem_singleton.mpr taken, closedOpened⟩
      refine ⟨fresh, distinct, opened, lost, unowned, List.perm_iff_count.mpr ?_⟩
      intro number
      have before := balance number
      simp only [List.count_append, free, List.count_nil] at before ⊢
      omega
  | released =>
      have opened : ∀ number ∈ now.closed ++ now.held, owned number :=
        List.forall_mem_append.mpr ⟨closedOpened, heldOpened⟩
      refine ⟨books.fresh, books.distinct, opened, lost, unowned, List.perm_iff_count.mpr ?_⟩
      intro number
      have before := balance number
      simp only [List.count_append, List.count_nil] at before ⊢
      omega
  | vain number member latest =>
      have unownedToo := List.forall_mem_append.mpr ⟨unowned, List.forall_mem_singleton.mpr latest⟩
      refine ⟨books.fresh, books.distinct, books.opened, lost ++ [number], unownedToo,
        List.perm_iff_count.mpr ?_⟩
      intro other
      have before := balance other
      have removed := count_filter_ne books.pending_nodup member other
      simp only [List.count_append] at before ⊢
      omega
  | late number member taken =>
      have closed : ∀ other ∈ now.closed ++ [number], owned other :=
        List.forall_mem_append.mpr ⟨closedOpened, List.forall_mem_singleton.mpr taken⟩
      have opened := List.forall_mem_append.mpr ⟨heldOpened, closed⟩
      refine ⟨books.fresh, books.distinct, opened, lost, unowned, List.perm_iff_count.mpr ?_⟩
      intro other
      have before := balance other
      have removed := count_filter_ne books.pending_nodup member other
      simp only [List.count_append] at before ⊢
      omega

/-- When no shell is held, a handshake that asked for one has had it closed once if it was
somebody's. -/
theorem Books.closed_once (books : Books owned now) (unheld : now.held = []) {number : Nat}
    (attempted : number ∈ now.attempted) :
    (owned number ∧ number ∉ now.pending → now.closed.count number = 1) ∧
      (¬ (owned number ∧ number ∉ now.pending) →
        now.closed.count number = 0) := by
  obtain ⟨lost, unowned, balanced⟩ := books.balanced
  have balance := balanced.count_eq number
  have atMost := List.nodup_iff_count.mp books.distinct number
  have atLeast := List.count_pos_iff.mpr attempted
  simp only [unheld, List.count_append, List.count_nil] at balance
  constructor
  · intro opened
    have unlost : lost.count number = 0 :=
      List.count_eq_zero.mpr fun member => unowned number member opened.1
    have ended : now.pending.count number = 0 := List.count_eq_zero.mpr opened.2
    omega
  · intro unopened
    by_cases pending : number ∈ now.pending
    · have going := List.count_pos_iff.mpr pending
      omega
    · apply List.count_eq_zero.mpr
      intro closed
      exact unopened ⟨books.opened number (List.mem_append_right _ closed), pending⟩

end Books

/-- What a connection knows of its handshakes is what becomes of them, and the handshakes that it
abandoned are those that outlast their limit. -/
structure Faithful (config : Config) (script : Nat → Handshake) (now : State) : Prop where
  coming : ∀ ahead, now.upcoming.getD ahead .plain = script (now.started + ahead)
  held : ∀ shell, now.held = some shell →
    shell.id = (script shell.handshake).shell ∧
      (script shell.handshake).outlasts config.connectTimeout = false
  abandoned : ∀ number handshake, (number, handshake) ∈ now.abandoned →
    handshake = script number ∧ handshake.outlasts config.connectTimeout = true ∧
      unorderedKind? config.connectTimeout = none

/-- An incident is orderly: a shell is asked for only when none is held and behind a probe that
succeeded; the calls of commands are those of one command in the shell that is held, or none; a
shell is closed alone, the held one by closing the connection and one of an abandoned handshake by
its end; and no shell is held of a handshake that outlasts its limit. -/
structure Orderly (config : Config) (script : Nat → Handshake) (now : State)
    (incident : Incident Nat) (entries : List Call) (last : State) : Prop where
  opens : ∀ number, .openShell number ∈ entries →
    now.held = none ∧ now.nextProbe.Reached ∧
      [.probe, .closeSocket, .build number, .openShell number] <+: entries
  serves : entries.filter Call.isOfCommand = [] ∨
    ∃ text shell, incident = .use (.execute text) ∧
      entries.filter Call.isOfCommand = shell.calls text ∧ last.held = some shell.served ∧
      (now.held = some shell ∨ now.held = none)
  closes : ∀ number id, .closeShell number id ∈ entries →
    entries = [.closeShell number id] ∧ id = (script number).shell ∧
      (incident = .use .close ∧ now.shells.held = [number] ∨
        incident = .event number ∧ number ∈ now.shells.pending)
  holds : ∀ shell, last.held = some shell →
    shell.id = (script shell.handshake).shell ∧
      (script shell.handshake).outlasts config.connectTimeout = false

section Steps

variable {script : Nat → Handshake} {config : Config} {now : State}

theorem Faithful.next (faithful : Faithful config script now) :
    now.nextHandshake = script now.started := by
  have first := faithful.coming 0
  rw [Nat.add_zero] at first
  rw [← first]
  unfold State.nextHandshake
  cases now.upcoming <;> rfl

theorem Faithful.begun (faithful : Faithful config script now) (ahead : Nat) :
    now.probed.begun.upcoming.getD ahead .plain = script (now.started + 1 + ahead) := by
  have later := faithful.coming (ahead + 1)
  rw [show now.started + 1 + ahead = now.started + (ahead + 1) by omega, ← later]
  change now.upcoming.tail.getD ahead .plain = _
  cases now.upcoming <;> rfl

/-- A connection that holds a shell stands, since the shell has an identifier. -/
theorem Faithful.connected (faithful : Faithful config script now)
    (named : ∀ number, (script number).shell ≠ .null) {shell : Shell}
    (held : now.held = some shell) : now.connected = true := by
  have id := (faithful.held shell held).1
  have given := named shell.handshake
  rw [← id] at given
  unfold State.connected
  rw [held]
  dsimp only
  split
  · next null => exact absurd null given
  · rfl

theorem Faithful.free (faithful : Faithful config script now)
    (named : ∀ number, (script number).shell ≠ .null) (missing : now.connected = false) :
    now.held = none := by
  cases held : now.held with
  | none => rfl
  | some shell =>
      rw [faithful.connected named held] at missing
      cases missing

theorem Faithful.attempt {outcome : Except Fault Unit} {entries : List Call} {after : State}
    (faithful : Faithful config script now) (attempt : Attempt config now outcome entries after) :
    Faithful config script after := by
  cases attempt with
  | stood => exact faithful
  | unreached => exact ⟨faithful.coming, faithful.held, faithful.abandoned⟩
  | refused => exact ⟨faithful.begun, faithful.held, faithful.abandoned⟩
  | unwaited => exact ⟨faithful.begun, faithful.held, faithful.abandoned⟩
  | abandoned missing reached limit began late =>
      refine ⟨faithful.begun, faithful.held, fun number handshake member => ?_⟩
      rcases List.mem_append.mp member with earlier | latest
      · exact faithful.abandoned number handshake earlier
      · cases List.mem_singleton.mp latest
        exact ⟨faithful.next, late, limit⟩
  | opened missing reached limit succeeded early =>
      refine ⟨faithful.begun, fun shell held => ?_, faithful.abandoned⟩
      cases held
      have next := faithful.next
      refine ⟨congrArg Handshake.shell next, ?_⟩
      change (script now.started).outlasts config.connectTimeout = false
      rw [← next]
      exact early

structure Asking (now : State) (entries : List Call) : Prop where
  opens : ∀ number, .openShell number ∈ entries →
    now.connected = false ∧ now.nextProbe.Reached ∧
      [.probe, .closeSocket, .build number, .openShell number] <+: entries
  runsNothing : entries.filter Call.isOfCommand = []
  closesNothing : ∀ number id, .closeShell number id ∉ entries

theorem handshake_asking (missing : now.connected = false) (reached : now.nextProbe.Reached) :
    Asking now now.attemptCalls := by
  unfold State.attemptCalls Handshake.calls
  cases now.nextHandshake.building with
  | some fault => constructor <;> simp [Call.isOfCommand]
  | none => constructor <;> simp [Call.isOfCommand, missing, reached]

theorem Attempt.asking {outcome : Except Fault Unit} {entries : List Call} {after : State}
    (attempt : Attempt config now outcome entries after) : Asking now entries := by
  cases attempt with
  | stood => constructor <;> simp
  | unreached fault =>
      unfold Probe.calls
      split <;> constructor <;> simp [Call.isOfCommand]
  | refused cause missing reached => exact handshake_asking missing reached
  | abandoned missing reached => exact handshake_asking missing reached
  | opened missing reached => exact handshake_asking missing reached
  | unwaited kind missing reached => exact handshake_asking missing reached

/-- The shell of a connection that stands, or stands again, was held before or none was. -/
theorem Attempt.held_before {entries : List Call} {after : State} {shell : Shell}
    (faithful : Faithful config script now) (named : ∀ number, (script number).shell ≠ .null)
    (attempt : Attempt config now (.ok ()) entries after) (held : after.held = some shell) :
    now.held = some shell ∨ now.held = none := by
  cases attempt with
  | stood => exact .inl held
  | opened missing => exact .inr (faithful.free named missing)

theorem Shell.calls_ofCommand (shell : Shell) (text : String) :
    (shell.calls text).filter Call.isOfCommand = shell.calls text := by
  unfold Shell.calls
  split <;> simp [Call.isOfCommand]

theorem orderly_nothing {incident : Incident Nat} {last : State}
    (holds : ∀ shell, last.held = some shell →
      shell.id = (script shell.handshake).shell ∧
        (script shell.handshake).outlasts config.connectTimeout = false) :
    Orderly config script now incident [] last where
  opens := nofun
  serves := .inl rfl
  closes := nofun
  holds := holds

theorem Asking.opens_orderly {entries : List Call} (asking : Asking now entries)
    (faithful : Faithful config script now) (named : ∀ number, (script number).shell ≠ .null)
    (number : Nat) (member : .openShell number ∈ entries) :
    now.held = none ∧ now.nextProbe.Reached ∧
      [.probe, .closeSocket, .build number, .openShell number] <+: entries := by
  obtain ⟨missing, reached, order⟩ := asking.opens number member
  exact ⟨faithful.free named missing, reached, order⟩

theorem Asking.orderly {incident : Incident Nat} {entries : List Call} {last : State}
    (asking : Asking now entries) (faithful : Faithful config script now)
    (named : ∀ number, (script number).shell ≠ .null)
    (holds : ∀ shell, last.held = some shell →
      shell.id = (script shell.handshake).shell ∧
        (script shell.handshake).outlasts config.connectTimeout = false) :
    Orderly config script now incident entries last where
  opens := asking.opens_orderly faithful named
  serves := .inl asking.runsNothing
  closes := fun number id member => absurd member (asking.closesNothing number id)
  holds := holds

theorem Shell.calls_keep (shell : Shell) (text : String) :
    (∀ number, .openShell number ∉ shell.calls text) ∧
      ∀ number id, .closeShell number id ∉ shell.calls text := by
  unfold Shell.calls
  split <;> simp

theorem Happens.orderly {incident : Incident Nat} {entries : List Call} {after : State}
    (happens : Happens config now incident entries after) (faithful : Faithful config script now)
    (named : ∀ number, (script number).shell ≠ .null)
    (faithfulAfter : Faithful config script after) :
    Orderly config script now incident entries after := by
  have holds := faithfulAfter.held
  cases happens with
  | attempted outcome _ _ attempt => exact attempt.asking.orderly faithful named holds
  | unserved text fault _ _ attempt => exact attempt.asking.orderly faithful named holds
  | served text earlier before shell attempt held =>
      have asking := attempt.asking
      obtain ⟨opensNothing, closesNothing⟩ := shell.calls_keep text
      refine ⟨fun number member => ?_, .inr ⟨text, shell, rfl, ?_, rfl, ?_⟩,
        fun number id member => ?_, holds⟩
      · have early := (List.mem_append.mp member).resolve_right (opensNothing number)
        obtain ⟨free, reached, order⟩ := asking.opens_orderly faithful named number early
        exact ⟨free, reached, order.trans (List.prefix_append _ _)⟩
      · rw [List.filter_append, asking.runsNothing, Shell.calls_ofCommand, List.nil_append]
      · exact attempt.held_before faithful named held
      · have early := (List.mem_append.mp member).resolve_right (closesNothing number id)
        exact absurd early (asking.closesNothing number id)
  | dropped shell held unnamed =>
      rw [(faithful.held shell held).1] at unnamed
      exact absurd unnamed (named shell.handshake)
  | closed shell held =>
      refine ⟨fun number member => ?_, .inl rfl, fun number id member => ?_, holds⟩
      · cases List.mem_singleton.mp member
      · cases List.mem_singleton.mp member
        refine ⟨rfl, (faithful.held shell held).1, .inl ⟨rfl, ?_⟩⟩
        simp [State.shells, held]
  | idle missing => exact orderly_nothing holds
  | ended number handshake found =>
      have member : (number, handshake) ∈ now.abandoned := mem_of_lookup found
      unfold Handshake.lateCalls
      split
      · refine ⟨fun number member => ?_, .inl rfl, fun other id closed => ?_, holds⟩
        · cases List.mem_singleton.mp member
        · cases List.mem_singleton.mp closed
          have known := (faithful.abandoned number handshake member).1
          exact ⟨rfl, congrArg Handshake.shell known, .inr ⟨rfl, List.mem_map_of_mem member⟩⟩
      · exact orderly_nothing holds
  | unknown number missing => exact orderly_nothing holds

theorem Happens.faithful {incident : Incident Nat} {entries : List Call} {after : State}
    (happens : Happens config now incident entries after) (faithful : Faithful config script now) :
    Faithful config script after := by
  cases happens with
  | attempted outcome _ _ attempt => exact faithful.attempt attempt
  | unserved text fault _ _ attempt => exact faithful.attempt attempt
  | served text earlier before shell attempt held =>
      have later := faithful.attempt attempt
      refine ⟨later.coming, fun other same => ?_, later.abandoned⟩
      cases same
      exact later.held shell held
  | closed shell held => exact ⟨faithful.coming, nofun, faithful.abandoned⟩
  | dropped shell held => exact ⟨faithful.coming, nofun, faithful.abandoned⟩
  | idle missing => exact faithful
  | ended number handshake found =>
      refine ⟨faithful.coming, faithful.held, fun other script member => ?_⟩
      exact faithful.abandoned other script (List.mem_filter.mp member).1
  | unknown number missing => exact faithful

theorem recordAll_shells (entries : List Call) {after : State} (same : after.calls = now.calls) :
    (after.recordAll entries).shells =
      { after.shells with
        attempted := now.shells.attempted ++ entries.filterMap Call.attempted?
        closed := now.shells.closed ++ entries.filterMap Call.closed? } := by
  simp [State.shells, State.recordAll, same]

theorem attemptCalls_shells (now : State) :
    now.attemptCalls.filterMap Call.attempted? =
        (if now.nextHandshake.building.isSome then [] else [now.started]) ∧
      now.attemptCalls.filterMap Call.closed? = [] := by
  unfold State.attemptCalls Handshake.calls
  split <;> simp [Call.attempted?, Call.closed?, List.filterMap_cons]

theorem Handshake.timely_of_early {limit : Json} {handshake : Handshake}
    (early : handshake.outlasts limit = false) : handshake.paceUnder limit = .timely := by
  simpa [outlasts] using early

theorem Handshake.paceUnder_of_late {limit : Json} {handshake : Handshake}
    (late : handshake.outlasts limit = true) : handshake.paceUnder limit = handshake.pace := by
  cases limit with
  | null => cases late
  | _ => rfl

theorem Handshake.result_eq_ok {limit : Json} {handshake : Handshake}
    (succeeded : handshake.result limit = .ok ()) :
    handshake.building = none ∧ (handshake.outlasts limit = false → handshake.opening = none) := by
  unfold Handshake.result at succeeded
  cases building : handshake.building with
  | some fault =>
      rw [building] at succeeded
      cases succeeded
  | none =>
      refine ⟨rfl, fun early => ?_⟩
      cases opening : handshake.opening with
      | none => rfl
      | some fault =>
          rw [building, early, opening] at succeeded
          cases succeeded

theorem Handshake.result_eq_error {limit : Json} {handshake : Handshake} {cause : Fault}
    (failed : handshake.result limit = .error cause) :
    handshake.building.isSome = true ∨ handshake.building = none ∧ handshake.opening ≠ none := by
  unfold Handshake.result at failed
  cases building : handshake.building with
  | some fault => exact .inl rfl
  | none =>
      refine .inr ⟨rfl, fun opening => ?_⟩
      rw [building, opening, ite_self] at failed
      cases failed

theorem lost_turnover
    (unowned : now.nextHandshake.building = none → ¬ Owned config script now.started) :
    Turnover (Owned config script) now.shells
      { now.shells with
        next := now.started + 1
        attempted := now.shells.attempted ++ now.attemptCalls.filterMap Call.attempted? } := by
  rw [(attemptCalls_shells now).1]
  cases building : now.nextHandshake.building with
  | some fault =>
      rw [Option.isSome_some, if_pos rfl, List.append_nil]
      exact .unbuilt
  | none => exact .lost (unowned building)

theorem Attempt.turnover {outcome : Except Fault Unit} {entries : List Call} {after : State}
    (attempt : Attempt config now outcome entries after) (faithful : Faithful config script now)
    (named : ∀ number, (script number).shell ≠ .null) (same : after.calls = now.calls) :
    Turnover (Owned config script) now.shells (after.recordAll entries).shells := by
  rw [recordAll_shells entries same]
  obtain ⟨attempts, closes⟩ := attemptCalls_shells now
  have next : now.nextHandshake = script now.shells.next := faithful.next
  cases attempt with
  | stood stands =>
      simp only [List.filterMap_nil, List.append_nil]
      exact .kept
  | unreached fault missing failed =>
      have quiet : now.nextProbe.calls.filterMap Call.attempted? = [] ∧
          now.nextProbe.calls.filterMap Call.closed? = [] := by
        unfold Probe.calls
        split <;> simp [Call.attempted?, Call.closed?, List.filterMap_cons]
      rw [quiet.1, quiet.2, List.append_nil, List.append_nil]
      exact .kept
  | refused cause missing reached limit failed =>
      rw [closes, List.append_nil]
      refine lost_turnover fun built owned => ?_
      rcases Handshake.result_eq_error failed with unbuilt | ⟨_, refused⟩
      · simp [built] at unbuilt
      · exact refused (next ▸ owned.opening)
  | abandoned missing reached limit began late =>
      rw [attempts, closes, (Handshake.result_eq_ok began).1, List.append_nil]
      change Turnover (Owned config script) now.shells
        { now.shells with
          next := now.shells.next + 1
          attempted := now.shells.attempted ++ [now.shells.next]
          pending := (now.abandoned ++ [(now.started, now.nextHandshake)]).map Prod.fst }
      rw [List.map_append]
      exact .abandoned
  | opened missing reached limit succeeded early =>
      obtain ⟨built, opening⟩ := Handshake.result_eq_ok succeeded
      rw [attempts, closes, built, List.append_nil]
      have free : now.shells.held = [] := by
        simp [State.shells, faithful.free named missing]
      have timely := Handshake.timely_of_early early
      rw [next] at early opening timely
      exact .opened free ⟨opening early, limit, by rw [timely]; decide⟩
  | unwaited kind missing reached unordered =>
      rw [closes, List.append_nil]
      refine lost_turnover fun _ owned => ?_
      rw [owned.waited] at unordered
      cases unordered

theorem served_shells (text : String) (entries : List Call) {after : State} {shell : Shell}
    (held : after.held = some shell) :
    ({ after with held := some shell.served }.recordAll (entries ++ shell.calls text)).shells =
      (after.recordAll entries).shells := by
  have quiet : (shell.calls text).filterMap Call.attempted? = [] ∧
      (shell.calls text).filterMap Call.closed? = [] := by
    unfold Shell.calls
    split <;> simp [Call.attempted?, Call.closed?, List.filterMap_cons]
  simp [State.shells, State.recordAll, held, quiet.1, quiet.2, Shell.served]

/-- The end of an abandoned handshake takes it from what is pending, and closes its shell if the
worker has noticed that nobody waits. -/
theorem ended_turnover {number : Nat} {handshake : Handshake}
    (faithful : Faithful config script now)
    (member : (number, handshake) ∈ now.abandoned) :
    Turnover (Owned config script) now.shells
      ({ now with abandoned := now.abandoned.filter (·.1 != number) }.recordAll
        (handshake.lateCalls number)).shells := by
  obtain ⟨rfl, late, limit⟩ := faithful.abandoned number handshake member
  have pending : number ∈ now.shells.pending := List.mem_map_of_mem member
  have left : (now.abandoned.filter (·.1 != number)).map Prod.fst =
      now.shells.pending.filter (· != number) := by
    simp only [State.shells, List.filter_map]
    rfl
  have pace := Handshake.paceUnder_of_late late
  rw [recordAll_shells _ rfl]
  unfold Handshake.lateCalls
  split
  · next noticed =>
      change Turnover (Owned config script) now.shells
        { now.shells with
          attempted := now.shells.attempted ++ []
          pending := (now.abandoned.filter (·.1 != number)).map Prod.fst
          closed := now.shells.closed ++ [number] }
      rw [left, List.append_nil]
      exact .late number pending ⟨noticed.1, limit, pace ▸ noticed.2⟩
  · next unnoticed =>
      change Turnover (Owned config script) now.shells
        { now.shells with
          attempted := now.shells.attempted ++ []
          pending := (now.abandoned.filter (·.1 != number)).map Prod.fst
          closed := now.shells.closed ++ [] }
      rw [left, List.append_nil, List.append_nil]
      exact .vain number pending fun owned => unnoticed ⟨owned.opening, pace ▸ owned.noticed⟩

theorem Happens.turnover {incident : Incident Nat} {entries : List Call} {after : State}
    (happens : Happens config now incident entries after) (faithful : Faithful config script now)
    (named : ∀ number, (script number).shell ≠ .null) (same : after.calls = now.calls) :
    Turnover (Owned config script) now.shells (after.recordAll entries).shells := by
  cases happens with
  | attempted outcome _ _ attempt => exact attempt.turnover faithful named same
  | unserved text fault _ _ attempt => exact attempt.turnover faithful named same
  | served text earlier before shell attempt held =>
      rw [served_shells text earlier held]
      exact attempt.turnover faithful named same
  | dropped shell held unnamed =>
      rw [(faithful.held shell held).1] at unnamed
      exact absurd unnamed (named shell.handshake)
  | closed shell held =>
      have turned : ({ now with held := none }.recordAll
          [.closeShell shell.handshake shell.id]).shells =
          { now.shells with held := [], closed := now.shells.closed ++ now.shells.held } := by
        simp [State.shells, State.recordAll, held, Call.attempted?, Call.closed?]
      rw [turned]
      exact .released
  | idle missing =>
      simp only [State.recordAll, List.append_nil]
      exact .kept
  | ended number handshake found => exact ended_turnover faithful (mem_of_lookup found)
  | unknown number missing =>
      simp only [State.recordAll, List.append_nil]
      exact .kept

end Steps

section Runs

variable {script : Nat → Handshake} {config : Config}

structure Kept (config : Config) (script : Nat → Handshake) (now : State) : Prop where
  faithful : Faithful config script now
  books : Books (Owned config script) now.shells

theorem fresh_kept (config : Config) (probes : List Probe) (coming : List Handshake) :
    Kept config (fun number => coming.getD number .plain) (.fresh probes coming) where
  faithful := by
    refine ⟨fun ahead => ?_, fun shell held => ?_, fun number handshake member => ?_⟩
    · exact congrArg (coming.getD · .plain) (Nat.zero_add ahead).symm
    · cases held
    · exact absurd member List.not_mem_nil
  books := by
    refine ⟨fun number member => ?_, List.nodup_nil, fun number member => ?_, [], ?_, ?_⟩
    · exact absurd member List.not_mem_nil
    · exact absurd member List.not_mem_nil
    · exact fun number member => absurd member List.not_mem_nil
    · exact List.Perm.refl []

theorem Kept.named {now : State} (kept : Kept config script now)
    (named : ∀ number, (script number).shell ≠ .null) (shell : Shell)
    (held : now.held = some shell) : shell.id ≠ .null := by
  rw [(kept.faithful.held shell held).1]
  exact named shell.handshake

theorem step_kept {now : State} (kept : Kept config script now)
    (named : ∀ number, (script number).shell ≠ .null) (incident : Incident Nat) :
    Kept config script ((setting config).step now incident) ∧
      ∃ entries, ((setting config).step now incident).calls = now.calls ++ entries ∧
        Orderly config script now incident entries ((setting config).step now incident) := by
  obtain ⟨entries, after, stepped, same, happens⟩ := step_happens config now incident
  have later := happens.faithful kept.faithful
  have orderly := happens.orderly kept.faithful named later
  rw [stepped]
  refine ⟨⟨⟨later.coming, later.held, later.abandoned⟩, ?_⟩, entries, ?_, ?_⟩
  · exact kept.books.turnover (happens.turnover kept.faithful named same)
  · rw [← same]
    rfl
  · exact ⟨orderly.opens, orderly.serves, orderly.closes, orderly.holds⟩

theorem after_kept {start : State} (begins : Kept config script start)
    (named : ∀ number, (script number).shell ≠ .null) (incidents : List (Incident Nat)) :
    Kept config script ((setting config).after incidents start) := by
  have keeps (now : State) (incident : Incident Nat) (kept : Kept config script now) :
      Kept config script ((setting config).step now incident) :=
    (step_kept kept named incident).1
  exact Setting.after_keeps keeps incidents begins

theorem closed_held {now : State} (kept : Kept config script now)
    (named : ∀ number, (script number).shell ≠ .null) :
    ((setting config).step now (.use .close)).held = none := by
  change (close now).2.held = none
  cases held : now.held with
  | none =>
      rw [close_of_none held]
      exact held
  | some shell =>
      rw [close_of_held held (kept.named named shell held)]
      rfl

end Runs

/-- Over all uses of a connection, whatever becomes of its probes, handshakes and commands: each
incident is orderly, and after the connection is closed, each handshake that asked for a shell and
has come to its end has had it closed once if it got one that was somebody's, and never otherwise.
The connection is then unconnected, and closing it again makes no call. -/
theorem shells_closed_unless_lost (config : Config) (probes : List Probe) (coming : List Handshake)
    (incidents : List (Incident Nat)) (named : ∀ handshake ∈ coming, handshake.shell ≠ .null) :
    let script := fun number => coming.getD number Handshake.plain
    let start := State.fresh probes coming
    let befallen := incidents ++ [.use .close]
    let last := (setting config).after befallen start
    (∀ earlier made later, befallen = earlier ++ made :: later →
      ∃ entries,
        ((setting config).after (earlier ++ [made]) start).calls =
          ((setting config).after earlier start).calls ++ entries ∧
        Orderly config script ((setting config).after earlier start) made entries
          ((setting config).after (earlier ++ [made]) start)) ∧
    last.shells.attempted.Nodup ∧
    (∀ number ∈ last.shells.attempted,
      (Owned config script number ∧ number ∉ last.shells.pending →
        last.shells.closed.count number = 1) ∧
      (¬ (Owned config script number ∧ number ∉ last.shells.pending) →
        last.shells.closed.count number = 0)) ∧
    last.connected = false ∧ close last = (.ok (), last) := by
  intro script start befallen last
  have allNamed (number : Nat) : (script number).shell ≠ .null := by
    simp only [script, List.getD_eq_getElem?_getD]
    cases found : coming[number]? with
    | none => exact nofun
    | some handshake => exact named handshake (List.mem_of_getElem? found)
  have kept (incidents : List (Incident Nat)) :
      Kept config script ((setting config).after incidents start) :=
    after_kept (fresh_kept config probes coming) allNamed incidents
  have unheld : last.held = none := by
    simp only [last, befallen, Setting.after_concat]
    exact closed_held (kept incidents) allNamed
  have nothingHeld : last.shells.held = [] := by
    simp only [State.shells, unheld]
    rfl
  refine ⟨fun earlier made later split => ?_, (kept befallen).books.distinct,
    fun number attempted => (kept befallen).books.closed_once nothingHeld attempted, ?_,
    close_of_none unheld⟩
  · rw [Setting.after_concat]
    exact (step_kept (kept earlier) allNamed made).2
  · simp only [State.connected, unheld]

/-- A shell that is opened after its handshake was abandoned is closed, and so is the one that is
held in the meantime. -/
theorem abandoned_shell_closed :
    let config := Config.ofHost (.str "dc") (.str "ops") (.str "secret") .null
    let coming : List Handshake :=
      [⟨none, none, none, .late, .str "late", []⟩, ⟨none, none, none, .timely, .str "held", []⟩]
    let incidents : List (Incident Nat) := [.use .connect, .use (.execute "hostname"), .event 0]
    let last := (setting config).after (incidents ++ [.use .close]) (.fresh [] coming)
    (∀ handshake ∈ coming, handshake.shell ≠ .null) ∧
      last.shells.closed.count 0 = 1 ∧ last.shells.closed.count 1 = 1 := by
  intro config coming incidents last
  have named : ∀ handshake ∈ coming, handshake.shell ≠ .null := by
    intro handshake member
    rcases List.mem_cons.mp member with rfl | member
    · exact nofun
    · rw [List.mem_singleton.mp member]
      exact nofun
  obtain ⟨_, _, closings, _⟩ := shells_closed_unless_lost config [] coming incidents named
  exact ⟨named, (closings 0 (by decide)).1 ⟨⟨rfl, rfl, nofun⟩, by decide⟩,
    (closings 1 (by decide)).1 ⟨⟨rfl, rfl, nofun⟩, by decide⟩⟩

/-- A shell that is handed over behind a caller that has given up is never closed: connecting fails,
the worker comes to its end, and closing the connection makes no call. -/
theorem crossed_shell_unclosed :
    let config := Config.ofHost (.str "dc") (.str "ops") (.str "secret") .null
    let start : State := .fresh [] [⟨none, none, none, .crossed, .str "shell-1", []⟩]
    let last := (setting config).after [.use .connect, .event 0, .use .close] start
    (connect config start).1 = .error (outlasted config) ∧
      last.shells.pending = [] ∧ last.calls = [.probe, .closeSocket, .build 0, .openShell 0] := by
  intro config start last
  exact ⟨rfl, rfl, rfl⟩

end FleetPatch.WinRm
