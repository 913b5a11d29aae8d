import FleetPatch.Fault

/-!
# Channels

A channel carries one command. What the host sends arrives as events: output,
error output, the exit status, and pauses in which nothing is there to read.
Reading takes a limited number of bytes at a time and goes on until nothing is
there to read and the exit status has arrived, which may be before the last
output. It breaks off where reading or waiting fails.
-/

namespace FleetPatch.Ssh

set_option autoImplicit false

inductive ChannelRead where
  | output
  | errors
  | wait
  deriving Repr, DecidableEq

/-- What happens on a channel, in the order in which a reader finds it. A pause is a moment at which
neither stream has anything to read, and lasts until the reader waits. -/
inductive ChannelEvent where
  | output (bytes : List UInt8)
  | errors (bytes : List UInt8)
  | pause
  | exitStatus
  | failure (way : ChannelRead) (fault : Fault)
  deriving Repr, DecidableEq

/-- What becomes of one channel: the faults of opening it, of sending the command, of waiting for
the exit status and of closing it, the exit code, and what happens on it. The exit status arrives at
the latest when nothing else is to come. -/
structure Channel where
  opening : Option Fault
  sending : Option Fault
  ending : Option Fault
  closing : Option Fault
  exitCode : Option Int
  events : List ChannelEvent
  deriving Repr

def Channel.silent : Channel := ⟨none, none, none, none, some 0, []⟩

def readLimit : Nat := 32768

/-- Bytes in the portions in which they are read: there is always one, and none is longer than the
limit. -/
def portions (bytes : List UInt8) : List (List UInt8) :=
  if bytes.length ≤ readLimit then [bytes]
  else bytes.take readLimit :: portions (bytes.drop readLimit)
termination_by bytes.length
decreasing_by
  simp only [List.length_drop, readLimit] at *
  omega

/-- What was read from a channel, in what ways, and the fault that broke it off. -/
structure Transcript where
  stdout : List UInt8
  stderr : List UInt8
  reads : List ChannelRead
  broken : Option Fault
  deriving Repr, DecidableEq

namespace Transcript

def empty : Transcript := ⟨[], [], [], none⟩

def brokenOff (way : ChannelRead) (fault : Fault) : Transcript := ⟨[], [], [way], some fault⟩

def withOutput (read : List (List UInt8)) (later : Transcript) : Transcript :=
  { later with
    stdout := read.flatten ++ later.stdout
    reads := read.map (fun _ => .output) ++ later.reads }

def withErrors (read : List (List UInt8)) (later : Transcript) : Transcript :=
  { later with
    stderr := read.flatten ++ later.stderr
    reads := read.map (fun _ => .errors) ++ later.reads }

def withWait (later : Transcript) : Transcript := { later with reads := .wait :: later.reads }

/-- Reads a channel until it pauses with the exit status there, has nothing more to send, or cannot
be read. Nobody waits once the exit status is there. -/
def ofEvents (exited : Bool) : List ChannelEvent → Transcript
  | [] => empty
  | .output bytes :: rest => withOutput (portions bytes) (ofEvents exited rest)
  | .errors bytes :: rest => withErrors (portions bytes) (ofEvents exited rest)
  | .pause :: rest => if exited then empty else withWait (ofEvents false rest)
  | .exitStatus :: rest => ofEvents true rest
  | .failure way fault :: _ => if way = .wait ∧ exited then empty else brokenOff way fault

end Transcript

def Channel.transcript (channel : Channel) : Transcript := Transcript.ofEvents false channel.events

end FleetPatch.Ssh
