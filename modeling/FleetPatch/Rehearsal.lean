import FleetPatch.Text.Search
import FleetPatch.Transport

/-!
# Rehearsed hosts

A rehearsed host answers from a plan instead of a network: a list of what becomes
of its connection attempts, and rules that give the reply to commands by a text
that occurs in them. A rule may be limited to a number of uses. What no rule
covers succeeds silently, and so does an attempt that the plan says nothing of.
-/

namespace FleetPatch

set_option autoImplicit false

structure ReplyRule where
  contained : String
  usesLeft : Option Nat
  outcome : Except Fault Reply

structure RehearsedHost where
  attempts : List (Option Fault)
  rules : List ReplyRule
  connected : Bool

abbrev Rehearsal := List (String × RehearsedHost)

namespace ReplyRule

def covers (rule : ReplyRule) (command : String) : Bool :=
  rule.usesLeft != some 0 && Text.contains command rule.contained

def used (rule : ReplyRule) : ReplyRule := { rule with usesLeft := rule.usesLeft.map (· - 1) }

def answer (command : String) : List ReplyRule → Except Fault Reply × List ReplyRule
  | [] => (.ok Reply.silent, [])
  | rule :: rest =>
      if rule.covers command then (rule.outcome, rule.used :: rest)
      else
        let (outcome, rest) := answer command rest
        (outcome, rule :: rest)

end ReplyRule

namespace RehearsedHost

def empty : RehearsedHost := ⟨[], [], false⟩

def connect (host : RehearsedHost) : Except Fault Unit × RehearsedHost :=
  match host.attempts with
  | some fault :: rest => (.error fault, { host with attempts := rest })
  | none :: rest => (.ok (), { host with attempts := rest, connected := true })
  | [] => (.ok (), { host with connected := true })

def dispatch (host : RehearsedHost) (command : String) : Except Fault Reply × RehearsedHost :=
  let (outcome, rules) := ReplyRule.answer command host.rules
  (outcome, { host with rules })

end RehearsedHost

namespace Rehearsal

/-- The host of a name; a name without a plan has the empty one. -/
def host (name : String) (rehearsal : Rehearsal) : RehearsedHost :=
  (rehearsal.lookup name).getD .empty

def put (name : String) (host : RehearsedHost) : Rehearsal → Rehearsal
  | [] => [(name, host)]
  | (key, old) :: rest =>
      if key = name then (key, host) :: rest else (key, old) :: put name host rest

def onHost {α : Type} (name : String) (step : RehearsedHost → Except Fault α × RehearsedHost) :
    Run Fault Rehearsal α := fun rehearsal =>
  let (outcome, after) := step (rehearsal.host name)
  (outcome, rehearsal.put name after)

def transport (name : String) : Transport Rehearsal where
  connected rehearsal := (rehearsal.host name).connected
  connect := onHost name RehearsedHost.connect
  dispatch command := onHost name fun host => host.dispatch command
  close := onHost name fun host => (.ok (), { host with connected := false })

end Rehearsal

end FleetPatch
