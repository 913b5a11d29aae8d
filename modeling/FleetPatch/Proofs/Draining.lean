import FleetPatch.Proofs.Listening

/-!
# The loop that reads a channel

A channel is read in turns. A turn looks at the output and then at the error output, and receives
one portion at most from each. If it received any, there is another turn. Else the loop ends if the
exit status is there, and waits if it is not. Every turn but the last leaves less to come, so the
loop ends, and what it collected is the transcript of the channel.
-/

namespace FleetPatch.Ssh

set_option autoImplicit false

open Run

/-- How many turns an event is good for at most. -/
def ChannelEvent.weight : ChannelEvent → Nat
  | .output bytes => bytes.length + 1
  | .errors bytes => bytes.length + 1
  | _ => 1

def weight : List ChannelEvent → Nat
  | [] => 0
  | first :: rest => first.weight + weight rest

/-- Whether the exit status is there and what is to come, when all that arrives next is noticed. -/
def arrivals (exited : Bool) : List ChannelEvent → Bool × List ChannelEvent
  | .exitStatus :: rest => arrivals true rest
  | events => (exited, events)

def withoutPortion (event : List UInt8 → ChannelEvent) (bytes : List UInt8)
    (rest : List ChannelEvent) : List ChannelEvent :=
  if bytes.length ≤ readLimit then rest else event (bytes.drop readLimit) :: rest

/-- What there is to read in a way: a fault, or a portion, with what is to come behind it. -/
def offered? (way : ChannelRead) :
    List ChannelEvent → Option (Except Fault (List UInt8 × List ChannelEvent))
  | .output bytes :: rest =>
      if way = .output then
        some (.ok (bytes.take readLimit, withoutPortion .output bytes rest))
      else none
  | .errors bytes :: rest =>
      if way = .errors then
        some (.ok (bytes.take readLimit, withoutPortion .errors bytes rest))
      else none
  | .failure failing fault :: _ => if way = failing then some (.error fault) else none
  | _ => none

def Idle : List ChannelEvent → Prop
  | [] => True
  | .pause :: _ => True
  | .failure .wait _ :: _ => True
  | _ => False

instance decidableIdle : (events : List ChannelEvent) → Decidable (Idle events)
  | [] => .isTrue trivial
  | .pause :: _ => .isTrue trivial
  | .failure .wait _ :: _ => .isTrue trivial
  | .failure .output _ :: _ => .isFalse id
  | .failure .errors _ :: _ => .isFalse id
  | .output _ :: _ => .isFalse id
  | .errors _ :: _ => .isFalse id
  | .exitStatus :: _ => .isFalse id

def pieces (way stream : ChannelRead) (portion : List UInt8) : List (List UInt8) :=
  if way = stream then [portion] else []

/-- A reading under way: whether the exit status is there, what is to come, what was received of
each stream in its pieces, and in what ways the channel was read. -/
structure Reading where
  exited : Bool
  coming : List ChannelEvent
  stdout : List (List UInt8)
  stderr : List (List UInt8)
  reads : List ChannelRead

namespace Reading

def start (events : List ChannelEvent) : Reading := ⟨false, events, [], [], []⟩

def arrived (now : Reading) : Reading :=
  { now with
    exited := (arrivals now.exited now.coming).1
    coming := (arrivals now.exited now.coming).2 }

def noting (way : ChannelRead) (now : Reading) : Reading :=
  { now with reads := now.reads ++ [way] }

def received (way : ChannelRead) (portion : List UInt8) (rest : List ChannelEvent)
    (now : Reading) : Reading :=
  { now with
    coming := rest
    stdout := now.stdout ++ pieces way .output portion
    stderr := now.stderr ++ pieces way .errors portion
    reads := now.reads ++ [way] }

def poll (way : ChannelRead) : Run Fault Reading Bool := fun before =>
  let now := before.arrived
  match offered? way now.coming with
  | none => (.ok false, now)
  | some (.error fault) => (.error fault, now.noting way)
  | some (.ok (portion, rest)) => (.ok true, now.received way portion rest)

def wait : Run Fault Reading Unit := fun now =>
  match now.coming with
  | .pause :: rest => (.ok (), noting .wait { now with coming := rest })
  | .failure .wait fault :: _ => (.error fault, now.noting .wait)
  | _ => (.ok (), now.noting .wait)

def settle : Run Fault Reading Bool := do
  let now ← Run.state
  if now.exited || now.coming.isEmpty then pure false
  else
    wait
    pure true

def turn : Run Fault Reading Bool := do
  let output ← poll .output
  let errors ← poll .errors
  if output || errors then pure true else settle

/-- A limited number of turns, and whether the loop ended within them. -/
def drain : Nat → Run Fault Reading Bool
  | 0 => pure false
  | limit + 1 => do
      let again ← turn
      if again then drain limit else pure true

def soFar (now : Reading) (broken : Option Fault) : Transcript :=
  ⟨now.stdout.flatten, now.stderr.flatten, now.reads, broken⟩

def outlook (now : Reading) : Transcript :=
  let later := Transcript.ofEvents now.exited now.coming
  ⟨now.stdout.flatten ++ later.stdout, now.stderr.flatten ++ later.stderr,
    now.reads ++ later.reads, later.broken⟩

end Reading

section Arriving

variable (exited : Bool) (events : List ChannelEvent)

theorem ofEvents_arrivals :
    Transcript.ofEvents (arrivals exited events).1 (arrivals exited events).2 =
      Transcript.ofEvents exited events := by
  fun_induction arrivals exited events with
  | case1 exited rest induction => exact induction
  | case2 exited events other => rfl

theorem weight_arrivals_le : weight (arrivals exited events).2 ≤ weight events := by
  fun_induction arrivals exited events with
  | case1 exited rest induction =>
      simp only [weight] at induction ⊢
      omega
  | case2 exited events other => exact Nat.le_refl _

theorem arrivals_arrivals :
    arrivals (arrivals exited events).1 (arrivals exited events).2 = arrivals exited events := by
  fun_induction arrivals exited events with
  | case1 exited rest induction => exact induction
  | case2 exited events other => simp [arrivals]

theorem arrivals_ne_exitStatus (rest : List ChannelEvent) :
    (arrivals exited events).2 ≠ .exitStatus :: rest := by
  fun_induction arrivals exited events with
  | case1 exited events induction => exact induction
  | case2 exited events other => exact other rest

end Arriving

section Idling

variable {coming : List ChannelEvent}

/-- What offers nothing on either stream when the exit status has been noticed is idle. -/
theorem idle_of_not_offered (noticed : ∀ rest, coming ≠ .exitStatus :: rest)
    (noOutput : offered? .output coming = none) (noErrors : offered? .errors coming = none) :
    Idle coming := by
  cases coming with
  | nil => trivial
  | cons first rest =>
      cases first with
      | output bytes => cases noOutput
      | errors bytes => cases noErrors
      | pause => trivial
      | exitStatus => exact absurd rfl (noticed rest)
      | failure way fault =>
          cases way with
          | output => cases noOutput
          | errors => cases noErrors
          | wait => trivial

theorem cases_of_idle (idle : Idle coming) :
    coming = [] ∨ (∃ rest, coming = .pause :: rest) ∨
      ∃ fault rest, coming = .failure .wait fault :: rest := by
  cases coming with
  | nil => exact .inl rfl
  | cons first rest =>
      cases first with
      | pause => exact .inr (.inl ⟨rest, rfl⟩)
      | failure way fault =>
          cases way with
          | wait => exact .inr (.inr ⟨fault, rest, rfl⟩)
          | output => cases idle
          | errors => cases idle
      | output bytes => cases idle
      | errors bytes => cases idle
      | exitStatus => cases idle

/-- Once the exit status is there, neither a pause nor a fault of waiting matters. -/
theorem ofEvents_of_idle {exited : Bool} (idle : Idle coming)
    (ready : exited = true ∨ coming = []) :
    Transcript.ofEvents exited coming = Transcript.empty := by
  rcases cases_of_idle idle with rfl | ⟨rest, rfl⟩ | ⟨fault, rest, rfl⟩
  · rfl
  · rw [ready.resolve_right (by simp)]
    rfl
  · rw [ready.resolve_right (by simp)]
    rfl

end Idling

section Receiving

theorem portions_short {bytes : List UInt8} (short : bytes.length ≤ readLimit) :
    portions bytes = [bytes.take readLimit] := by
  rw [portions, if_pos short, List.take_of_length_le short]

theorem portions_long {bytes : List UInt8} (long : ¬ bytes.length ≤ readLimit) :
    portions bytes = bytes.take readLimit :: portions (bytes.drop readLimit) := by
  rw [portions, if_neg long]

def Transcript.after (way : ChannelRead) (portion : List UInt8) (later : Transcript) : Transcript :=
  ⟨(pieces way .output portion).flatten ++ later.stdout,
    (pieces way .errors portion).flatten ++ later.stderr, way :: later.reads, later.broken⟩

variable {way : ChannelRead} {portion : List UInt8} {coming rest : List ChannelEvent}

theorem cases_of_offered (offered : offered? way coming = some (.ok (portion, rest))) :
    ∃ event bytes later, coming = event bytes :: later ∧ portion = bytes.take readLimit ∧
      rest = withoutPortion event bytes later ∧
      (way = .output ∧ event = .output ∨ way = .errors ∧ event = .errors) := by
  revert offered
  fun_cases offered? way coming with
  | case1 bytes later same =>
      intro offered
      cases offered
      exact ⟨.output, bytes, later, rfl, rfl, rfl, .inl ⟨same, rfl⟩⟩
  | case3 bytes later same =>
      intro offered
      cases offered
      exact ⟨.errors, bytes, later, rfl, rfl, rfl, .inr ⟨same, rfl⟩⟩
  | _ =>
      intro offered
      cases offered

theorem fault_of_offered {fault : Fault} (offered : offered? way coming = some (.error fault)) :
    ∃ later, coming = .failure way fault :: later := by
  revert offered
  fun_cases offered? way coming with
  | case5 failing later =>
      intro offered
      cases offered
      exact ⟨later, rfl⟩
  | _ =>
      intro offered
      cases offered

theorem weight_of_offered (offered : offered? way coming = some (.ok (portion, rest))) :
    weight rest < weight coming := by
  obtain ⟨event, bytes, later, rfl, _, rfl, stream⟩ := cases_of_offered offered
  have weighs (bytes : List UInt8) : (event bytes).weight = bytes.length + 1 := by
    rcases stream with ⟨_, rfl⟩ | ⟨_, rfl⟩ <;> rfl
  simp only [withoutPortion]
  split
  · simp only [weight, weighs]
    omega
  · simp only [weight, weighs, List.length_drop, readLimit]
    omega

/-- Receiving a portion takes it off the front of what will be read. -/
theorem ofEvents_of_offered (offered : offered? way coming = some (.ok (portion, rest)))
    (exited : Bool) :
    Transcript.ofEvents exited coming = (Transcript.ofEvents exited rest).after way portion := by
  obtain ⟨event, bytes, later, rfl, rfl, rfl, stream⟩ := cases_of_offered offered
  by_cases short : bytes.length ≤ readLimit
  · rw [withoutPortion, if_pos short]
    rcases stream with ⟨rfl, rfl⟩ | ⟨rfl, rfl⟩
    · simp [Transcript.ofEvents, Transcript.withOutput, Transcript.after, pieces,
        portions_short short]
    · simp [Transcript.ofEvents, Transcript.withErrors, Transcript.after, pieces,
        portions_short short]
  · rw [withoutPortion, if_neg short]
    rcases stream with ⟨rfl, rfl⟩ | ⟨rfl, rfl⟩
    · simp [Transcript.ofEvents, Transcript.withOutput, Transcript.after, pieces,
        portions_long short]
    · simp [Transcript.ofEvents, Transcript.withErrors, Transcript.after, pieces,
        portions_long short]

end Receiving

namespace Reading

variable (now : Reading)

theorem outlook_arrived : now.arrived.outlook = now.outlook := by
  simp only [outlook, arrived, ofEvents_arrivals]

theorem arrived_arrived : now.arrived.arrived = now.arrived := by
  simp only [arrived, arrivals_arrivals]

theorem outlook_received {way : ChannelRead} {portion : List UInt8} {rest : List ChannelEvent}
    (offered : offered? way now.coming = some (.ok (portion, rest))) :
    (now.received way portion rest).outlook = now.outlook := by
  simp only [outlook, received, ofEvents_of_offered offered, Transcript.after,
    List.flatten_append, List.append_assoc, List.cons_append, List.nil_append]

theorem outlook_failed {way : ChannelRead} {fault : Fault} {rest : List ChannelEvent}
    (next : now.coming = .failure way fault :: rest)
    (heard : ¬ (way = .wait ∧ now.exited = true)) :
    now.outlook = (now.noting way).soFar (some fault) := by
  simp only [outlook, soFar, noting, next, Transcript.ofEvents, if_neg heard, Transcript.brokenOff,
    List.append_nil]

inductive Polled (way : ChannelRead) : Except Fault Bool → Reading → Prop
  | received (next : Reading) (lighter : weight next.coming < weight now.coming)
      (same : next.outlook = now.outlook) : Polled way (.ok true) next
  | nothing (after : Reading) (noticed : after = now.arrived)
      (silent : offered? way now.arrived.coming = none) : Polled way (.ok false) after
  | failed (fault : Fault) (last : Reading) (ended : now.outlook = last.soFar (some fault)) :
      Polled way (.error fault) last

theorem poll_polled {way : ChannelRead} (stream : way ≠ .wait) :
    Polled now way (poll way now).1 (poll way now).2 := by
  have kept := now.outlook_arrived
  simp only [poll]
  split
  · next silent => exact .nothing _ rfl silent
  · next fault failing =>
      obtain ⟨rest, next⟩ := fault_of_offered failing
      refine .failed fault _ (kept.symm.trans (outlook_failed _ next ?_))
      exact fun waits => stream waits.1
  · next portion rest offered =>
      refine .received _ ?_ ((outlook_received _ offered).trans kept)
      exact Nat.lt_of_lt_of_le (weight_of_offered offered) (weight_arrivals_le _ _)

/-- What a turn comes to: it leaves less to come and the same in prospect, or it has read all that
will be read. -/
inductive Turned : Except Fault Bool → Reading → Prop
  | again (next : Reading) (lighter : weight next.coming < weight now.coming)
      (same : next.outlook = now.outlook) : Turned (.ok true) next
  | finished (last : Reading) (complete : now.outlook = last.soFar none) : Turned (.ok false) last
  | broken (fault : Fault) (last : Reading) (ended : now.outlook = last.soFar (some fault)) :
      Turned (.error fault) last

variable {now} in
/-- A turn counts for the reading it began with if looking at the streams lost nothing. -/
theorem Turned.of_same {before : Reading} {outcome : Except Fault Bool} {after : Reading}
    (light : weight now.coming ≤ weight before.coming) (same : now.outlook = before.outlook)
    (turned : Turned now outcome after) : Turned before outcome after := by
  cases turned with
  | again _ lighter kept => exact .again _ (Nat.lt_of_lt_of_le lighter light) (kept.trans same)
  | finished _ complete => exact .finished _ (same.symm.trans complete)
  | broken fault _ ended => exact .broken fault _ (same.symm.trans ended)

theorem settle_turned (idle : Idle now.coming) :
    Turned now (settle now).1 (settle now).2 := by
  unfold settle
  rw [bind_apply_ok (state_apply now)]
  by_cases ready : now.exited = true ∨ now.coming = []
  · rw [if_pos (by simpa using ready)]
    refine .finished now ?_
    simp only [outlook, soFar, ofEvents_of_idle idle ready, Transcript.empty, List.append_nil]
  · rw [if_neg (by simpa using ready)]
    obtain ⟨pending, more⟩ := not_or.mp ready
    rcases cases_of_idle idle with nothing | ⟨rest, coming⟩ | ⟨fault, rest, coming⟩
    · exact absurd nothing more
    · have waited : wait now = (.ok (), noting .wait { now with coming := rest }) := by
        simp only [wait, coming]
      rw [bind_apply_ok waited]
      refine .again _ ?_ ?_
      · simp [weight, noting, coming, ChannelEvent.weight]
      · simp [outlook, noting, coming, pending, Transcript.ofEvents, Transcript.withWait]
    · have waited : wait now = (.error fault, now.noting .wait) := by
        simp only [wait, coming]
      rw [bind_apply_error waited]
      exact .broken fault _ (outlook_failed now coming fun waits => pending waits.2)

variable {now} in
theorem Polled.turned {way : ChannelRead} {fault : Fault} {last : Reading}
    (polled : Polled now way (.error fault) last) : Turned now (.error fault) last := by
  cases polled with
  | failed _ _ ended => exact .broken fault last ended

variable {now} in
theorem Polled.kept {way : ChannelRead} {heard : Bool} {after : Reading}
    (polled : Polled now way (.ok heard) after) :
    weight after.coming ≤ weight now.coming ∧ after.outlook = now.outlook := by
  cases polled with
  | received _ lighter same => exact ⟨Nat.le_of_lt lighter, same⟩
  | nothing _ noticed _ =>
      rw [noticed]
      exact ⟨weight_arrivals_le _ _, now.outlook_arrived⟩

theorem turn_turned : Turned now (turn now).1 (turn now).2 := by
  unfold turn
  have looked := now.poll_polled (by simp : ChannelRead.output ≠ .wait)
  rcases polled : poll .output now with ⟨fault | heard, first⟩
  · rw [polled] at looked
    rw [bind_apply_error polled]
    exact looked.turned
  · rw [polled] at looked
    rw [bind_apply_ok polled]
    obtain ⟨light, same⟩ := looked.kept
    have further := first.poll_polled (by simp : ChannelRead.errors ≠ .wait)
    rcases polledToo : poll .errors first with ⟨fault | heardToo, second⟩
    · rw [polledToo] at further
      rw [bind_apply_error polledToo]
      exact further.turned.of_same light same
    · rw [polledToo] at further
      rw [bind_apply_ok polledToo]
      obtain ⟨lightToo, sameToo⟩ := further.kept
      cases further with
      | received _ lighter _ =>
          rw [Bool.or_true, if_pos rfl]
          exact .again second (Nat.lt_of_lt_of_le lighter light) (sameToo.trans same)
      | nothing _ noticedToo silentToo =>
          cases looked with
          | received _ lighter _ =>
              exact .again second (Nat.lt_of_le_of_lt lightToo lighter) (sameToo.trans same)
          | nothing _ noticed silent =>
              -- Neither stream had anything, and what arrived is noticed once only.
              subst noticed
              rw [arrived_arrived] at noticedToo silentToo
              subst noticedToo
              have idle := idle_of_not_offered (arrivals_ne_exitStatus _ _) silent silentToo
              exact (settle_turned now.arrived idle).of_same light same

def ended (transcript : Transcript) : Except Fault Bool :=
  match transcript.broken with
  | none => .ok true
  | some fault => .error fault

/-- The loop ends within as many turns as what is to come is good for, and one. It has then read
what was in prospect, and broke off where that breaks off. -/
theorem drain_ends {limit : Nat} (enough : weight now.coming < limit) :
    ∃ last, drain limit now = (ended now.outlook, last) ∧
      now.outlook = last.soFar now.outlook.broken := by
  induction limit generalizing now with
  | zero => cases enough
  | succ limit induction =>
      unfold drain
      have turned := now.turn_turned
      rcases took : turn now with ⟨outcome, after⟩
      rw [took] at turned
      dsimp only at turned
      cases turned with
      | again _ lighter same =>
          obtain ⟨last, drained, read⟩ := induction after (by omega)
          rw [same] at drained read
          rw [bind_apply_ok took]
          exact ⟨last, drained, read⟩
      | finished _ complete =>
          rw [bind_apply_ok took, complete]
          exact ⟨after, rfl, rfl⟩
      | broken fault _ broke =>
          rw [bind_apply_error took, broke]
          exact ⟨after, rfl, rfl⟩

end Reading

theorem Channel.drain_ends (channel : Channel) {limit : Nat}
    (enough : weight channel.events < limit) :
    ∃ last : Reading,
      Reading.drain limit (.start channel.events) = (Reading.ended channel.transcript, last) ∧
      channel.transcript = last.soFar channel.transcript.broken := by
  have prospect : (Reading.start channel.events).outlook = channel.transcript := by
    simp [Reading.outlook, Reading.start, Channel.transcript]
  have ends := (Reading.start channel.events).drain_ends enough
  rwa [prospect] at ends

end FleetPatch.Ssh
