import FleetPatch.Proofs.Channels

/-!
# Output that is read and output that is overlooked

A channel is read up to the first pause at which the exit status is there. What
was read by then is the beginning of what the host sent. It is all of it exactly
if no bytes stand behind such a pause.
-/

namespace FleetPatch.Ssh

set_option autoImplicit false

def ChannelEvent.outputBytes : ChannelEvent → List UInt8
  | .output bytes => bytes
  | _ => []

def ChannelEvent.errorBytes : ChannelEvent → List UInt8
  | .errors bytes => bytes
  | _ => []

def sentOutput (events : List ChannelEvent) : List UInt8 := events.flatMap ChannelEvent.outputBytes

def sentErrors (events : List ChannelEvent) : List UInt8 := events.flatMap ChannelEvent.errorBytes

/-- Bytes stand behind a pause at which the exit status is there, be it from the beginning. -/
def Overlooks (exited : Bool) (events : List ChannelEvent) : Prop :=
  ∃ before later, events = before ++ .pause :: later ∧ (exited = true ∨ .exitStatus ∈ before) ∧
    ¬ (sentOutput later = [] ∧ sentErrors later = [])

def Readable (events : List ChannelEvent) : Prop := ∀ way fault, .failure way fault ∉ events

/-- A channel on which nothing fails once it is open. -/
structure Channel.Faultless (channel : Channel) : Prop where
  sending : channel.sending = none
  readable : Readable channel.events
  ending : channel.ending = none
  closing : channel.closing = none

theorem Readable.rest {first : ChannelEvent} {rest : List ChannelEvent}
    (readable : Readable (first :: rest)) : Readable rest :=
  fun way fault member => readable way fault (List.mem_cons_of_mem first member)

section Portions

theorem portions_flatten (bytes : List UInt8) : (portions bytes).flatten = bytes := by
  fun_induction portions bytes with
  | case1 bytes short => exact List.append_nil bytes
  | case2 bytes long ih => rw [List.flatten_cons, ih, List.take_append_drop]

end Portions

section Overlooking

variable {exited : Bool} {first : ChannelEvent} {rest : List ChannelEvent}

/-- An event that is neither a pause nor the exit status decides nothing. -/
theorem overlooks_cons (noPause : first ≠ .pause) (noExit : first ≠ .exitStatus) :
    Overlooks exited (first :: rest) ↔ Overlooks exited rest := by
  constructor
  · rintro ⟨before, later, split, arrived, carries⟩
    cases before with
    | nil => exact absurd (List.cons.inj split).1 noPause
    | cons head before =>
        obtain ⟨same, split⟩ := List.cons.inj split
        refine ⟨before, later, split, arrived.imp_right fun member => ?_, carries⟩
        cases member with
        | head => exact absurd same noExit
        | tail _ member => exact member
  · rintro ⟨before, later, split, arrived, carries⟩
    refine ⟨first :: before, later, congrArg (first :: ·) split, ?_, carries⟩
    exact arrived.imp_right (List.mem_cons_of_mem first)

theorem overlooks_exitStatus : Overlooks exited (.exitStatus :: rest) ↔ Overlooks true rest := by
  constructor
  · rintro ⟨before, later, split, _, carries⟩
    cases before with
    | nil => cases split
    | cons head before => exact ⟨before, later, (List.cons.inj split).2, .inl rfl, carries⟩
  · rintro ⟨before, later, split, _, carries⟩
    refine ⟨.exitStatus :: before, later, congrArg (.exitStatus :: ·) split, ?_, carries⟩
    exact .inr List.mem_cons_self

theorem overlooks_pause_waiting : Overlooks false (.pause :: rest) ↔ Overlooks false rest := by
  constructor
  · rintro ⟨before, later, split, arrived, carries⟩
    cases before with
    | nil =>
        rcases arrived with early | member
        · cases early
        · cases member
    | cons head before =>
        obtain ⟨same, split⟩ := List.cons.inj split
        refine ⟨before, later, split, arrived.imp_right fun member => ?_, carries⟩
        cases member with
        | head => cases same
        | tail _ member => exact member
  · rintro ⟨before, later, split, arrived, carries⟩
    refine ⟨.pause :: before, later, congrArg (.pause :: ·) split, ?_, carries⟩
    exact arrived.imp_right (List.mem_cons_of_mem _)

theorem overlooks_pause_exited :
    Overlooks true (.pause :: rest) ↔ ¬ (sentOutput rest = [] ∧ sentErrors rest = []) := by
  constructor
  · rintro ⟨before, later, split, _, carries⟩ ⟨noOutput, noErrors⟩
    cases before with
    | nil =>
        rw [← (List.cons.inj split).2] at carries
        exact carries ⟨noOutput, noErrors⟩
    | cons head before =>
        have tail : rest = before ++ .pause :: later := (List.cons.inj split).2
        rw [tail, sentOutput, List.flatMap_append] at noOutput
        rw [tail, sentErrors, List.flatMap_append] at noErrors
        exact carries ⟨(List.append_eq_nil_iff.mp noOutput).2,
          (List.append_eq_nil_iff.mp noErrors).2⟩
  · exact fun carries => ⟨[], rest, rfl, .inl rfl, carries⟩

end Overlooking

namespace Transcript

variable {exited : Bool} {events : List ChannelEvent}

/-- What was read of one stream is the beginning of what was sent on it, and reading went well. -/
theorem ofEvents_prefix (exited : Bool) (readable : Readable events) :
    (ofEvents exited events).stdout <+: sentOutput events ∧
      (ofEvents exited events).stderr <+: sentErrors events ∧
      (ofEvents exited events).broken = none := by
  induction events generalizing exited with
  | nil => exact ⟨List.nil_prefix, List.nil_prefix, rfl⟩
  | cons first rest ih =>
      obtain ⟨output, errors, whole⟩ := ih exited readable.rest
      cases first with
      | output bytes =>
          refine ⟨?_, errors, whole⟩
          change (portions bytes).flatten ++ _ <+: bytes ++ sentOutput rest
          rw [portions_flatten]
          exact (List.prefix_append_right_inj bytes).mpr output
      | errors bytes =>
          refine ⟨output, ?_, whole⟩
          change (portions bytes).flatten ++ _ <+: bytes ++ sentErrors rest
          rw [portions_flatten]
          exact (List.prefix_append_right_inj bytes).mpr errors
      | pause =>
          cases exited with
          | true => exact ⟨List.nil_prefix, List.nil_prefix, rfl⟩
          | false => exact ⟨output, errors, whole⟩
      | exitStatus => exact ih true readable.rest
      | failure way fault => exact absurd List.mem_cons_self (readable way fault)

/-- Everything was read exactly if nothing was overlooked. -/
theorem ofEvents_complete_iff (readable : Readable events) :
    ((ofEvents exited events).stdout = sentOutput events ∧
      (ofEvents exited events).stderr = sentErrors events) ↔ ¬ Overlooks exited events := by
  induction events generalizing exited with
  | nil =>
      refine iff_of_true ⟨rfl, rfl⟩ ?_
      rintro ⟨before, later, split, _⟩
      cases before <;> cases split
  | cons first rest ih =>
      cases first with
      | output bytes =>
          have same : Overlooks exited (.output bytes :: rest) ↔ Overlooks exited rest :=
            overlooks_cons nofun nofun
          rw [same, ← ih readable.rest]
          change (portions bytes).flatten ++ _ = bytes ++ sentOutput rest ∧ _ ↔ _
          rw [portions_flatten, List.append_cancel_left_eq]
          rfl
      | errors bytes =>
          have same : Overlooks exited (.errors bytes :: rest) ↔ Overlooks exited rest :=
            overlooks_cons nofun nofun
          rw [same, ← ih readable.rest]
          change _ ∧ (portions bytes).flatten ++ _ = bytes ++ sentErrors rest ↔ _
          rw [portions_flatten, List.append_cancel_left_eq]
          rfl
      | pause =>
          cases exited with
          | true =>
              rw [overlooks_pause_exited, Decidable.not_not]
              exact and_congr eq_comm eq_comm
          | false => rw [overlooks_pause_waiting, ← ih readable.rest]; rfl
      | exitStatus => rw [overlooks_exitStatus, ← ih readable.rest]; rfl
      | failure way fault => exact absurd List.mem_cons_self (readable way fault)

end Transcript

/-- A command on a channel on which nothing fails is answered. The answer is the text of what was
read of each stream, which is the beginning of what the host sent, and all of it exactly if no
bytes stand behind a pause at which the exit status is there. -/
theorem answer_complete_iff (homes : Path.Homes) (config : Config) (command : String)
    (now after : State) (channel : Channel)
    (opened : acquire homes config now = (.ok channel, after)) (faultless : channel.Faultless) :
    ∃ reply last stdout stderr,
      (transport homes config).execute command now = (.ok reply, last) ∧
      reply = ⟨some (Text.Utf8.decodeIgnoring stdout), some (Text.Utf8.decodeIgnoring stderr),
        channel.exitCode⟩ ∧
      stdout <+: sentOutput channel.events ∧ stderr <+: sentErrors channel.events ∧
      ((stdout = sentOutput channel.events ∧ stderr = sentErrors channel.events) ↔
        ¬ Overlooks false channel.events) := by
  obtain ⟨output, errors, whole⟩ := Transcript.ofEvents_prefix false faultless.readable
  have answered : channel.answer config.hostname.text = .ok
      ⟨some (Text.Utf8.decodeIgnoring channel.transcript.stdout),
        some (Text.Utf8.decodeIgnoring channel.transcript.stderr), channel.exitCode⟩ := by
    have unbroken : channel.transcript.broken = none := whole
    simp only [Channel.answer, Channel.received, faultless.sending, unbroken, faultless.ending]
    rfl
  have delivered : (transport homes config).execute command now =
      (channel.answer config.hostname.text,
        after.recordAll (channel.calls command ++ [.closeChannel])) := by
    rw [execute_eq_acquire_bind, Run.bind_apply_ok opened, deliver_apply, faultless.closing]
    rfl
  rw [answered] at delivered
  exact ⟨_, _, _, _, delivered, rfl, output, errors,
    Transcript.ofEvents_complete_iff faultless.readable⟩

def Channel.carrying (events : List ChannelEvent) : Channel :=
  ⟨none, none, none, none, some 0, events⟩

def State.offering (channel : Channel) : State := .fresh [] [⟨none, none, .active, [channel]⟩]

/-- A character that comes in two pieces, the second behind the exit status, is read whole. -/
theorem split_character_answered :
    let channel := Channel.carrying
      [.output [0xC3], .pause, .exitStatus, .output [0xA9], .errors [0x21]]
    let homes : Path.Homes := ⟨"/root", []⟩
    let config := Config.ofHost (.str "web") (.str "ops")
    ∃ after reply last,
      acquire homes config (.offering channel) = (.ok channel, after) ∧ channel.Faultless ∧
      ¬ Overlooks false channel.events ∧
      (transport homes config).execute "cat" (.offering channel) = (.ok reply, last) ∧
      reply = ⟨some "é", some "!", some 0⟩ := by
  intro channel homes config
  have faultless : channel.Faultless := by
    refine ⟨rfl, ?_, rfl, rfl⟩
    intro way fault member
    simp [channel, Channel.carrying] at member
  have heard : ¬ Overlooks false channel.events := by
    have opening : Overlooks false channel.events ↔
        Overlooks false [.pause, .exitStatus, .output [0xA9], .errors [0x21]] :=
      overlooks_cons nofun nofun
    rw [opening, overlooks_pause_waiting, overlooks_exitStatus]
    intro overlooked
    obtain ⟨before, later, split, _⟩ := overlooked
    rcases before with _ | ⟨_, _ | ⟨_, _ | _⟩⟩ <;> cases split
  obtain ⟨reply, last, stdout, stderr, answered, text, _, _, complete⟩ :=
    answer_complete_iff homes config "cat" (.offering channel) _ channel rfl faultless
  obtain ⟨output, errors⟩ := complete.mpr heard
  refine ⟨_, reply, last, rfl, faultless, heard, answered, ?_⟩
  rw [text, output, errors]
  decide

/-- Output behind a pause at which the exit status is there is no part of the answer. -/
theorem late_output_overlooked :
    ∃ reply last,
      (transport ⟨"/root", []⟩ (.ofHost (.str "web") (.str "ops"))).execute "uptime"
        (.offering (.carrying [.exitStatus, .pause, .output [0x68, 0x69]])) = (.ok reply, last) ∧
      reply.stdout ≠ some (Text.Utf8.decodeIgnoring
        (sentOutput [.exitStatus, .pause, .output [0x68, 0x69]])) := by
  refine ⟨⟨some "", some "", some 0⟩, _, rfl, ?_⟩
  decide

end FleetPatch.Ssh
