import FleetPatch.Proofs.Connecting
import FleetPatch.Proofs.Decoding
import FleetPatch.Proofs.Draining

/-!
# Output put together again

What a command answers is the text of all that its host delivered before the first quiet moment, at
which neither stream has anything to read and the exit status is there. It is decoded once it is put
together, so neither the pieces in which it came nor their order between the streams matter. The
channel is closed once, whatever comes of the command.
-/

namespace FleetPatch.Ssh

set_option autoImplicit false

open Run

/-- A moment, counted by the events before it, at which there is nothing to read and the exit status
is there, be it from the beginning or because nothing else is to come. -/
structure Quiet (exited : Bool) (events : List ChannelEvent) (moment : Nat) : Prop where
  idle : Idle (events.drop moment)
  ready : exited = true ∨ .exitStatus ∈ events.take moment ∨ events.drop moment = []

structure FirstQuiet (exited : Bool) (events : List ChannelEvent) (moment : Nat) : Prop where
  quiet : Quiet exited events moment
  first : ∀ earlier < moment, ¬ Quiet exited events earlier

instance decidableQuiet (exited : Bool) (events : List ChannelEvent) (moment : Nat) :
    Decidable (Quiet exited events moment) :=
  decidable_of_iff (Idle (events.drop moment) ∧
      (exited = true ∨ .exitStatus ∈ events.take moment ∨ events.drop moment = []))
    ⟨fun ⟨idle, ready⟩ => ⟨idle, ready⟩, fun ⟨idle, ready⟩ => ⟨idle, ready⟩⟩

instance decidableFirstQuiet (exited : Bool) (events : List ChannelEvent) (moment : Nat) :
    Decidable (FirstQuiet exited events moment) :=
  decidable_of_iff (Quiet exited events moment ∧
      ∀ earlier < moment, ¬ Quiet exited events earlier)
    ⟨fun ⟨quiet, first⟩ => ⟨quiet, first⟩, fun ⟨quiet, first⟩ => ⟨quiet, first⟩⟩

def ChannelEvent.ends : ChannelEvent → Bool
  | .exitStatus => true
  | _ => false

section Moments

variable {exited : Bool} {first : ChannelEvent} {rest events : List ChannelEvent} {moment : Nat}

theorem exitStatus_mem_cons :
    .exitStatus ∈ first :: rest ↔ first.ends = true ∨ .exitStatus ∈ rest := by
  cases first <;> simp [ChannelEvent.ends]

theorem quiet_succ :
    Quiet exited (first :: rest) (moment + 1) ↔ Quiet (exited || first.ends) rest moment := by
  have ready : (exited = true ∨ .exitStatus ∈ first :: rest.take moment ∨ rest.drop moment = []) ↔
      ((exited || first.ends) = true ∨ .exitStatus ∈ rest.take moment ∨
        rest.drop moment = []) := by
    rw [exitStatus_mem_cons, Bool.or_eq_true, or_assoc, or_assoc]
  exact ⟨fun quiet => ⟨quiet.idle, ready.mp quiet.ready⟩,
    fun quiet => ⟨quiet.idle, ready.mpr quiet.ready⟩⟩

theorem firstQuiet_succ (moves : ¬ Quiet exited (first :: rest) 0) :
    FirstQuiet exited (first :: rest) (moment + 1) ↔
      FirstQuiet (exited || first.ends) rest moment := by
  constructor
  · intro found
    refine ⟨quiet_succ.mp found.quiet, fun earlier before quiet => ?_⟩
    exact found.first (earlier + 1) (Nat.succ_lt_succ before) (quiet_succ.mpr quiet)
  · intro found
    refine ⟨quiet_succ.mpr found.quiet, fun earlier before => ?_⟩
    cases earlier with
    | zero => exact moves
    | succ earlier =>
        exact fun quiet => found.first earlier (Nat.lt_of_succ_lt_succ before) (quiet_succ.mp quiet)

theorem exists_firstQuiet (exited : Bool) (events : List ChannelEvent) :
    ∃ moment, FirstQuiet exited events moment := by
  induction events generalizing exited with
  | nil => exact ⟨0, ⟨trivial, .inr (.inr rfl)⟩, nofun⟩
  | cons first rest induction =>
      by_cases quiet : Quiet exited (first :: rest) 0
      · exact ⟨0, quiet, nofun⟩
      · obtain ⟨moment, found⟩ := induction (exited || first.ends)
        exact ⟨moment + 1, (firstQuiet_succ quiet).mpr found⟩

/-- Nothing is read at a quiet moment. -/
theorem ofEvents_of_quiet (quiet : Quiet exited events 0) :
    Transcript.ofEvents exited events = Transcript.empty := by
  obtain ⟨idle, ready⟩ := quiet
  exact ofEvents_of_idle idle (ready.imp_right fun later => later.resolve_left nofun)

theorem readable_cons
    (harmless : ∀ way fault, ChannelEvent.failure way fault ≠ first) :
    Readable (first :: rest) ↔ Readable rest := by
  refine ⟨Readable.rest, fun readable way fault member => ?_⟩
  rcases List.mem_cons.mp member with same | later
  · exact harmless way fault same
  · exact readable way fault later

end Moments

/-- What was read is what was delivered, unless reading broke off. -/
structure Transcript.Renders (read : Transcript) (delivered : List ChannelEvent) : Prop where
  unbroken : read.broken = none ↔ Readable delivered
  stdout : Readable delivered → read.stdout = sentOutput delivered
  stderr : Readable delivered → read.stderr = sentErrors delivered

namespace Transcript.Renders

variable {read : Transcript} {delivered : List ChannelEvent}

theorem nothing : Transcript.empty.Renders [] :=
  ⟨iff_of_true rfl nofun, fun _ => rfl, fun _ => rfl⟩

theorem output (renders : read.Renders delivered) (bytes : List UInt8) :
    (read.withOutput (portions bytes)).Renders (.output bytes :: delivered) where
  unbroken := renders.unbroken.trans (Iff.symm (readable_cons fun _ _ => nofun))
  stdout readable := by
    change (portions bytes).flatten ++ read.stdout = bytes ++ sentOutput delivered
    rw [portions_flatten, renders.stdout readable.rest]
  stderr readable := renders.stderr readable.rest

theorem errors (renders : read.Renders delivered) (bytes : List UInt8) :
    (read.withErrors (portions bytes)).Renders (.errors bytes :: delivered) where
  unbroken := renders.unbroken.trans (Iff.symm (readable_cons fun _ _ => nofun))
  stdout readable := renders.stdout readable.rest
  stderr readable := by
    change (portions bytes).flatten ++ read.stderr = bytes ++ sentErrors delivered
    rw [portions_flatten, renders.stderr readable.rest]

theorem pause (renders : read.Renders delivered) : read.withWait.Renders (.pause :: delivered) where
  unbroken := renders.unbroken.trans (Iff.symm (readable_cons fun _ _ => nofun))
  stdout readable := renders.stdout readable.rest
  stderr readable := renders.stderr readable.rest

theorem exitStatus (renders : read.Renders delivered) :
    read.Renders (.exitStatus :: delivered) where
  unbroken := renders.unbroken.trans (Iff.symm (readable_cons fun _ _ => nofun))
  stdout readable := renders.stdout readable.rest
  stderr readable := renders.stderr readable.rest

theorem failure (way : ChannelRead) (fault : Fault) :
    (brokenOff way fault).Renders (.failure way fault :: delivered) where
  unbroken := iff_of_false nofun fun readable => readable way fault List.mem_cons_self
  stdout readable := absurd List.mem_cons_self (readable way fault)
  stderr readable := absurd List.mem_cons_self (readable way fault)

end Transcript.Renders

/-- What is read of a channel is what was delivered on it before the first quiet moment. -/
theorem ofEvents_renders {exited : Bool} {events : List ChannelEvent} {moment : Nat}
    (found : FirstQuiet exited events moment) :
    (Transcript.ofEvents exited events).Renders (events.take moment) := by
  induction events generalizing exited moment with
  | nil =>
      rw [List.take_nil]
      exact .nothing
  | cons first rest induction =>
      cases moment with
      | zero =>
          rw [ofEvents_of_quiet found.quiet]
          exact .nothing
      | succ moment =>
          -- The first event is delivered, and what follows it is read up to the moment before.
          have moves : ¬ Quiet exited (first :: rest) 0 := found.first 0 (Nat.succ_pos moment)
          have later := induction ((firstQuiet_succ moves).mp found)
          rw [List.take_succ_cons]
          cases first with
          | output bytes =>
              simp only [ChannelEvent.ends, Bool.or_false] at later
              exact later.output bytes
          | errors bytes =>
              simp only [ChannelEvent.ends, Bool.or_false] at later
              exact later.errors bytes
          | exitStatus =>
              simp only [ChannelEvent.ends, Bool.or_true] at later
              exact later.exitStatus
          | pause =>
              cases exited with
              | true => exact absurd ⟨trivial, .inl rfl⟩ moves
              | false => exact later.pause
          | failure way fault =>
              have heard : ¬ (way = .wait ∧ exited = true) := by
                rintro ⟨rfl, rfl⟩
                exact moves ⟨trivial, .inl rfl⟩
              rw [Transcript.ofEvents, if_neg heard]
              exact .failure way fault

/-- The bytes that a host delivers on its streams before the first quiet moment. -/
def Channel.Delivers (channel : Channel) (stdout stderr : List UInt8) : Prop :=
  ∃ moment, FirstQuiet false channel.events moment ∧
    stdout = sentOutput (channel.events.take moment) ∧
    stderr = sentErrors (channel.events.take moment)

/-- Nothing fails on a channel but what would have failed behind the first quiet moment. -/
structure Channel.EndsWell (channel : Channel) : Prop where
  sending : channel.sending = none
  readable : ∃ moment, FirstQuiet false channel.events moment ∧
    Readable (channel.events.take moment)
  ending : channel.ending = none
  closing : channel.closing = none

def Channel.concluded (host : String) (channel : Channel) (ended : Except Fault Bool)
    (last : Reading) : Except Fault Reply :=
  (failing channel.closing).bind fun _ =>
    ((failing channel.sending).bind fun _ => ended.bind fun _ =>
      (failing channel.ending).bind fun _ =>
        .ok ⟨some (Text.Utf8.decodeIgnoring last.stdout.flatten),
          some (Text.Utf8.decodeIgnoring last.stderr.flatten), channel.exitCode⟩).mapError
            (channelFault (.interrupted host))

section Channels

variable (host : String) (channel : Channel)

theorem concluded_eq {last : Reading}
    (read : channel.transcript = last.soFar channel.transcript.broken) :
    channel.concluded host (Reading.ended channel.transcript) last =
      (failing channel.closing).bind fun _ => channel.answer host := by
  have stdout : channel.transcript.stdout = last.stdout.flatten := congrArg Transcript.stdout read
  have stderr : channel.transcript.stderr = last.stderr.flatten := congrArg Transcript.stderr read
  simp only [Channel.concluded, Channel.answer, Channel.received, Reading.ended, stdout, stderr]
  cases channel.transcript.broken with
  | none => cases channel.ending <;> rfl
  | some fault => rfl

theorem concluded_eq_ok {reply : Reply} :
    (failing channel.closing).bind (fun _ => channel.answer host) = .ok reply ↔
      channel.sending = none ∧ channel.transcript.broken = none ∧ channel.ending = none ∧
      channel.closing = none ∧
      reply = ⟨some (Text.Utf8.decodeIgnoring channel.transcript.stdout),
        some (Text.Utf8.decodeIgnoring channel.transcript.stderr), channel.exitCode⟩ := by
  cases channel.closing with
  | some fault =>
      refine iff_of_false (fun failed => ?_) (by rintro ⟨_, _, _, ⟨⟩, _⟩)
      cases failed
  | none =>
      change channel.answer host = .ok reply ↔ _
      rw [Channel.answer, mapError_eq_ok]
      cases channel.sending with
      | some fault =>
          refine iff_of_false (fun failed => ?_) (by rintro ⟨⟨⟩, _⟩)
          cases failed
      | none =>
          change channel.received = .ok reply ↔ _
          unfold Channel.received
          cases channel.transcript.broken with
          | some fault =>
              refine iff_of_false (fun failed => ?_) (by rintro ⟨_, ⟨⟩, _⟩)
              cases failed
          | none =>
              cases channel.ending with
              | some fault =>
                  refine iff_of_false (fun failed => ?_) (by rintro ⟨_, _, ⟨⟩, _⟩)
                  cases failed
              | none => simp [eq_comm]

/-- A channel that is well read gives what was delivered. -/
theorem Channel.Delivers.read {channel : Channel} {stdout stderr : List UInt8}
    (delivers : channel.Delivers stdout stderr) (unbroken : channel.transcript.broken = none) :
    channel.transcript.stdout = stdout ∧ channel.transcript.stderr = stderr := by
  obtain ⟨moment, found, rfl, rfl⟩ := delivers
  have renders := ofEvents_renders found
  have readable := renders.unbroken.mp unbroken
  exact ⟨renders.stdout readable, renders.stderr readable⟩

theorem endsWell_iff :
    channel.EndsWell ↔ channel.sending = none ∧ channel.transcript.broken = none ∧
      channel.ending = none ∧ channel.closing = none := by
  constructor
  · rintro ⟨sending, ⟨moment, found, readable⟩, ending, closing⟩
    exact ⟨sending, (ofEvents_renders found).unbroken.mpr readable, ending, closing⟩
  · rintro ⟨sending, unbroken, ending, closing⟩
    obtain ⟨moment, found⟩ := exists_firstQuiet false channel.events
    exact ⟨sending, ⟨moment, found, (ofEvents_renders found).unbroken.mp unbroken⟩, ending, closing⟩

end Channels

inductive ChannelStep where
  | asked (client : Nat)
  | closed
  deriving DecidableEq

def Call.channelStep? : Call → Option ChannelStep
  | .openChannel client => some (.asked client)
  | .closeChannel => some .closed
  | _ => none

def channelSteps (homes : Path.Homes) (config : Config) (command : String) (now : State) :
    List ChannelStep :=
  (((transport homes config).execute command now).2.calls.drop now.calls.length).filterMap
    Call.channelStep?

section Opening

variable {homes : Path.Homes} {config : Config} {now : State}

theorem loads_channelSteps {loads : List Call} (only : ∀ made ∈ loads, made.LoadsKey) :
    loads.filterMap Call.channelStep? = [] := by
  apply List.filterMap_eq_nil_iff.mpr
  intro made member
  obtain ⟨kind, path, passphrase, rfl⟩ := only made member
  rfl

theorem Attempt.noChannelSteps {outcome : Except Fault Unit} {last : State}
    (attempt : Attempt homes config now outcome last) :
    ∃ entries, last.calls = now.calls ++ entries ∧ entries.filterMap Call.channelStep? = [] := by
  cases attempt with
  | stood stands => exact ⟨[], (List.append_nil _).symm, rfl⟩
  | unready fault loads missing only failed => exact ⟨loads, rfl, loads_channelSteps only⟩
  | tried secret loads outcome last missing only chosen tries =>
      have further (calls : List Call) (made : last.calls = now.calls ++ loads ++ calls)
          (quiet : calls.filterMap Call.channelStep? = []) :
          ∃ entries, last.calls = now.calls ++ entries ∧
            entries.filterMap Call.channelStep? = [] := by
        refine ⟨loads ++ calls, made.trans (List.append_assoc _ _ _), ?_⟩
        rw [List.filterMap_append, loads_channelSteps only, quiet]
        rfl
      cases tries with
      | held succeeded => exact further _ rfl rfl
      | closed cause told failed known => exact further _ (List.append_assoc _ _ _) rfl
      | forsaken cause failed unknown => exact further _ rfl rfl

theorem acquire_channelSteps (homes : Path.Homes) (config : Config) (now : State) :
    ∃ entries, (acquire homes config now).2.calls = now.calls ++ entries ∧
      match (acquire homes config now).1 with
      | .ok channel => channel.opening = none ∧
          ∃ client, entries.filterMap Call.channelStep? = [.asked client]
      | .error _ => .closed ∉ entries.filterMap Call.channelStep? := by
  obtain ⟨entries, appended, quiet⟩ := (connect_attempt homes config now).noChannelSteps
  unfold acquire
  rw [reach_eq_connect]
  rcases connected : connect homes config now with ⟨outcome, middle⟩
  rw [connected] at appended
  cases outcome with
  | error fault =>
      rw [bind_apply_error connected]
      refine ⟨entries, appended, ?_⟩
      simp [quiet]
  | ok value =>
      rw [bind_apply_ok connected, openChannel_apply]
      rcases held : middle.current with _ | ⟨number, client⟩
      · refine ⟨entries, appended, ?_⟩
        simp [quiet]
      · dsimp only
        split
        · refine ⟨entries, appended, ?_⟩
          simp [quiet]
        · have asked : (middle.askedForChannel number client).calls =
              now.calls ++ (entries ++ [.openChannel number]) := by
            rw [← List.append_assoc, ← appended]
            rfl
          have step : (entries ++ [Call.openChannel number]).filterMap Call.channelStep? =
              [.asked number] := by
            rw [List.filterMap_append, quiet]
            rfl
          refine ⟨_, asked, ?_⟩
          rw [step]
          cases opening : client.nextChannel.opening with
          | none => exact ⟨opening, number, rfl⟩
          | some fault =>
              change ChannelStep.closed ∉ [ChannelStep.asked number]
              simp

end Opening

section Executing

variable (homes : Path.Homes) (config : Config) (command : String) (now : State)

def outcome : Except Fault Reply := ((transport homes config).execute command now).1

structure Refuses (fault : Fault) : Prop where
  further : now.calls <+: ((transport homes config).execute command now).2.calls
  unclosed : .closed ∉ channelSteps homes config command now
  told : outcome homes config command now = .error fault

/-- What a command does with a channel that was opened for it. The loop that reads the channel ends
within a number of turns that its events bound, and decides what the command comes to. -/
structure Reassembles (channel : Channel) : Prop where
  opened : channel.opening = none
  further : now.calls <+: ((transport homes config).execute command now).2.calls
  closed : ∃ client, channelSteps homes config command now = [.asked client, .closed]
  last : ((transport homes config).execute command now).2.calls.getLast? = some .closeChannel
  ends : ∀ limit, weight channel.events < limit → ∃ ended read,
    Reading.drain limit (.start channel.events) = (ended, read) ∧ ended ≠ .ok false ∧
    outcome homes config command now = channel.concluded config.hostname.text ended read
  succeeds : (∃ reply, outcome homes config command now = .ok reply) ↔ channel.EndsWell
  delivers : ∃ stdout stderr, channel.Delivers stdout stderr
  answered : ∀ stdout stderr, channel.Delivers stdout stderr → ∀ reply,
    outcome homes config command now = .ok reply →
      reply = ⟨some (Text.Utf8.decodeIgnoring stdout), some (Text.Utf8.decodeIgnoring stderr),
        channel.exitCode⟩
  texts : ∀ text other, channel.Delivers (Text.Utf8.encode text) (Text.Utf8.encode other) →
    ∀ reply, outcome homes config command now = .ok reply →
      reply = ⟨some text, some other, channel.exitCode⟩

variable {homes config command now}

theorem execute_of_acquired {channel : Channel} {after : State}
    (acquired : acquire homes config now = (.ok channel, after)) :
    (transport homes config).execute command now =
      ((failing channel.closing).bind fun _ => channel.answer config.hostname.text,
        after.recordAll (channel.calls command ++ [.closeChannel])) := by
  rw [execute_eq_acquire_bind, bind_apply_ok acquired, deliver_apply]

theorem calls_channelSteps (command : String) (channel : Channel) :
    (channel.calls command).filterMap Call.channelStep? = [] := by
  apply List.filterMap_eq_nil_iff.mpr
  intro made member
  unfold Channel.calls at member
  rcases List.mem_cons.mp member with rfl | member
  · rfl
  · split at member
    · cases member
    · obtain ⟨way, _, rfl⟩ := List.mem_map.mp member
      rfl

theorem channelSteps_of_appended {entries : List Call}
    (appended : ((transport homes config).execute command now).2.calls = now.calls ++ entries) :
    channelSteps homes config command now = entries.filterMap Call.channelStep? := by
  rw [channelSteps, appended, List.drop_left]

theorem reassembles {channel : Channel} {after : State}
    (acquired : acquire homes config now = (.ok channel, after)) :
    Reassembles homes config command now channel := by
  obtain ⟨entries, reached, steps⟩ := acquire_channelSteps homes config now
  rw [acquired] at reached steps
  obtain ⟨opened, client, asked⟩ := steps
  have executed : (transport homes config).execute command now = _ := execute_of_acquired acquired
  have came : outcome homes config command now = _ := congrArg Prod.fst executed
  have appended : ((transport homes config).execute command now).2.calls =
      now.calls ++ (entries ++ (channel.calls command ++ [.closeChannel])) := by
    rw [executed, ← List.append_assoc, ← reached]
    rfl
  have answered {stdout stderr : List UInt8} (delivers : channel.Delivers stdout stderr)
      {reply : Reply} (replied : outcome homes config command now = .ok reply) :
      reply = ⟨some (Text.Utf8.decodeIgnoring stdout), some (Text.Utf8.decodeIgnoring stderr),
        channel.exitCode⟩ := by
    obtain ⟨_, unbroken, _, _, rfl⟩ := (concluded_eq_ok _ channel).mp (came.symm.trans replied)
    obtain ⟨output, errors⟩ := delivers.read unbroken
    rw [output, errors]
  constructor
  case opened => exact opened
  case further => exact ⟨_, appended.symm⟩
  case closed =>
    refine ⟨client, ?_⟩
    rw [channelSteps_of_appended appended, List.filterMap_append, List.filterMap_append, asked,
      calls_channelSteps]
    rfl
  case last =>
    rw [appended, ← List.append_assoc, ← List.append_assoc]
    exact List.getLast?_concat
  case ends =>
    intro limit enough
    obtain ⟨read, drained, transcript⟩ := channel.drain_ends enough
    refine ⟨_, read, drained, ?_, came.trans (concluded_eq _ channel transcript).symm⟩
    unfold Reading.ended
    cases channel.transcript.broken <;> simp
  case succeeds =>
    rw [came, endsWell_iff]
    constructor
    · rintro ⟨reply, replied⟩
      obtain ⟨sending, unbroken, ending, closing, _⟩ := (concluded_eq_ok _ channel).mp replied
      exact ⟨sending, unbroken, ending, closing⟩
    · rintro ⟨sending, unbroken, ending, closing⟩
      exact ⟨_, (concluded_eq_ok _ channel).mpr ⟨sending, unbroken, ending, closing, rfl⟩⟩
  case delivers =>
    obtain ⟨moment, found⟩ := exists_firstQuiet false channel.events
    exact ⟨_, _, moment, found, rfl, rfl⟩
  case answered => exact fun _ _ delivers _ replied => answered delivers replied
  case texts =>
    intro text other delivers reply replied
    rw [answered delivers replied, Text.Utf8.decodeIgnoring_encode,
      Text.Utf8.decodeIgnoring_encode]

theorem refuses {fault : Fault} {after : State}
    (acquired : acquire homes config now = (.error fault, after)) :
    Refuses homes config command now fault := by
  obtain ⟨entries, reached, steps⟩ := acquire_channelSteps homes config now
  rw [acquired] at reached steps
  have executed : (transport homes config).execute command now = (.error fault, after) := by
    rw [execute_eq_acquire_bind, bind_apply_error acquired]
  have appended : ((transport homes config).execute command now).2.calls =
      now.calls ++ entries := by
    rw [executed]
    exact reached
  constructor
  case further => exact ⟨entries, appended.symm⟩
  case unclosed =>
    rw [channelSteps_of_appended appended]
    exact steps
  case told => exact congrArg Prod.fst executed

end Executing

/-- Executing a command ends. If no channel is opened for it, it fails and closes none. If one is,
that is closed once and last, whatever comes of the command, and the loop that reads it ends. A
reply is the text of what was delivered before the first quiet moment, decoded when it is put
together. So channels that end well and deliver the same bytes on each stream, with the same exit
code, give the same reply. -/
theorem output_reassembled :
    (∀ (homes : Path.Homes) (config : Config) (command : String) (now : State),
      match (acquire homes config now).1 with
      | .error fault => Refuses homes config command now fault
      | .ok channel => Reassembles homes config command now channel) ∧
    ∀ (homes other : Path.Homes) (config another : Config) (command further : String)
      (now elsewhere : State) (channel second : Channel) (stdout stderr : List UInt8),
      (acquire homes config now).1 = .ok channel →
      (acquire other another elsewhere).1 = .ok second →
      channel.Delivers stdout stderr → second.Delivers stdout stderr →
      channel.exitCode = second.exitCode → channel.EndsWell → second.EndsWell →
      outcome homes config command now = outcome other another further elsewhere := by
  have carriedOut (homes : Path.Homes) (config : Config) (command : String) (now : State) :
      match (acquire homes config now).1 with
      | .error fault => Refuses homes config command now fault
      | .ok channel => Reassembles homes config command now channel := by
    rcases acquired : acquire homes config now with ⟨fault | channel, after⟩
    · exact refuses acquired
    · exact reassembles acquired
  refine ⟨carriedOut, ?_⟩
  intro homes other config another command further now elsewhere channel second stdout stderr
    acquired acquiredToo delivers deliversToo code well wellToo
  have one := carriedOut homes config command now
  have two := carriedOut other another further elsewhere
  rw [acquired] at one
  rw [acquiredToo] at two
  obtain ⟨reply, replied⟩ := one.succeeds.mpr well
  obtain ⟨replyToo, repliedToo⟩ := two.succeeds.mpr wellToo
  rw [replied, repliedToo, one.answered _ _ delivers _ replied,
    two.answered _ _ deliversToo _ repliedToo, code]

/-- Two characters that are cut, with a pause in between and the exit status before the end, are
answered as if they had come whole. What comes behind the next pause is no part of the answer. -/
theorem cut_characters_reassembled :
    let cut := Channel.carrying [.output [0xF0, 0x9F], .errors [0xC3], .pause,
      .output [0x98, 0x80], .exitStatus, .errors [0xA9], .pause, .output [0x21]]
    let whole := Channel.carrying [.exitStatus, .errors [0xC3, 0xA9],
      .output [0xF0, 0x9F, 0x98, 0x80]]
    let homes : Path.Homes := ⟨"/root", []⟩
    let config := Config.ofHost (.str "web") (.str "ops")
    cut.Delivers (Text.Utf8.encode "😀") (Text.Utf8.encode "é") ∧
      outcome homes config "cat" (.offering cut) = .ok ⟨some "😀", some "é", some 0⟩ ∧
      outcome homes config "cat" (.offering cut) =
        outcome homes config "cat" (.offering whole) := by
  intro cut whole homes config
  have quietCut : FirstQuiet false cut.events 6 := by decide
  have quietWhole : FirstQuiet false whole.events 3 := by decide
  have deliversCut : cut.Delivers (Text.Utf8.encode "😀") (Text.Utf8.encode "é") := by
    refine ⟨6, quietCut, ?_, ?_⟩
    · rw [Text.Utf8.encode_eq]
      decide
    · rw [Text.Utf8.encode_eq]
      decide
  have deliversWhole : whole.Delivers (Text.Utf8.encode "😀") (Text.Utf8.encode "é") := by
    refine ⟨3, quietWhole, ?_, ?_⟩
    · rw [Text.Utf8.encode_eq]
      decide
    · rw [Text.Utf8.encode_eq]
      decide
  have wellCut : cut.EndsWell := by
    refine ⟨rfl, ⟨6, quietCut, ?_⟩, rfl, rfl⟩
    intro way fault member
    simp [cut, Channel.carrying] at member
  have wellWhole : whole.EndsWell := by
    refine ⟨rfl, ⟨3, quietWhole, ?_⟩, rfl, rfl⟩
    intro way fault member
    simp [whole, Channel.carrying] at member
  obtain ⟨carriedOut, alike⟩ := output_reassembled
  have reassembled : Reassembles homes config "cat" (.offering cut) cut :=
    carriedOut homes config "cat" (.offering cut)
  obtain ⟨reply, replied⟩ := reassembled.succeeds.mpr wellCut
  refine ⟨deliversCut, ?_, ?_⟩
  · rw [replied, reassembled.texts _ _ deliversCut reply replied]
    rfl
  · exact alike homes homes config config "cat" "cat" _ _ cut whole _ _ rfl rfl deliversCut
      deliversWhole rfl wellCut wellWhole

end FleetPatch.Ssh
