import FleetPatch.Proofs.Sessions
import Mathlib.Data.List.Sublists

/-!
# The watchdog of a handshake

A worker opens the shell while the caller waits for it, and each takes its steps when it
likes. The caller that gives up sets a flag, which the worker reads once when it has the
shell. The interleavings of the two are followed step by step; the handshakes and their ends
that a connection makes are interleavings among them. What becomes of the shell is decided by
whether the flag is set, and whether that is before the worker reads it.
-/

namespace FleetPatch.WinRm

set_option autoImplicit false

open Run

/-- A step of the worker or of the caller. The first seven are the worker's: asking for the shell
and getting it are two steps, between which a handshake may stall. -/
inductive Move where
  | build
  | askShell
  | getShell
  | readFlag
  | closeShell
  | publish
  | exit
  | timeOut
  | join
  | balk
  | test
  | abandon
  | take
  deriving Repr, DecidableEq

/-- How far the worker is. With the shell it is late if it read the flag as set and early if not; it
is done when nothing is left but to end. -/
inductive Worker where
  | starting
  | built
  | asked
  | opened
  | late
  | early
  | done
  | gone
  deriving Repr, DecidableEq

/-- How far the caller is. It wakes from its wait, finds the worker alive or gone, and leaves with
an outcome. -/
inductive Caller where
  | waiting
  | woken
  | impatient
  | content
  | left (outcome : Except Fault Shell)

/-- The two parties with what they share: the flag, what the worker has published, and the calls
that it has made. -/
structure Watchdog where
  worker : Worker
  caller : Caller
  abandoned : Bool
  published : Option (Except Fault Shell)
  calls : List Call

/-- Where the worker of a handshake that outlasts its limit may be when the caller gives up: it
waits for the shell, or it has looked and not yet handed it over. -/
def Handshake.stalled (handshake : Handshake) : Worker :=
  if handshake.opening = none ∧ handshake.pace = .crossed then .early else .asked

structure Handshake.Opens (handshake : Handshake) : Prop where
  building : handshake.building = none
  opening : handshake.opening = none

namespace Watchdog

def start : Watchdog := ⟨.starting, .waiting, false, none, []⟩

structure Finished (dog : Watchdog) : Prop where
  worker : dog.worker = .gone
  caller : ∃ outcome, dog.caller = .left outcome

section Steps

variable (config : Config) (number : Nat) (handshake : Handshake)

/-- The steps of a handshake under a limit. The caller's wait ends by the limit, if there is one, or
by the end of the worker; with a limit that is no number the caller cannot wait. -/
inductive Step (dog : Watchdog) : Move → Watchdog → Prop where
  | unbuilt (fault : Fault) (place : dog.worker = .starting)
      (failed : handshake.building = some fault) :
      Step dog .build { dog with
        worker := .done
        published := some (.error fault)
        calls := dog.calls ++ [.build number] }
  | built (place : dog.worker = .starting) (succeeded : handshake.building = none) :
      Step dog .build { dog with worker := .built, calls := dog.calls ++ [.build number] }
  | asked (place : dog.worker = .built) :
      Step dog .askShell { dog with worker := .asked, calls := dog.calls ++ [.openShell number] }
  | unopened (fault : Fault) (place : dog.worker = .asked)
      (failed : handshake.opening = some fault) :
      Step dog .getShell { dog with worker := .done, published := some (.error fault) }
  | opened (place : dog.worker = .asked) (succeeded : handshake.opening = none) :
      Step dog .getShell { dog with worker := .opened }
  | read (place : dog.worker = .opened) :
      Step dog .readFlag { dog with worker := if dog.abandoned then .late else .early }
  | closed (place : dog.worker = .late) :
      Step dog .closeShell { dog with
        worker := .done
        calls := dog.calls ++ [.closeShell number handshake.shell] }
  | published (place : dog.worker = .early) :
      Step dog .publish { dog with
        worker := .done
        published := some (.ok (handshake.opened number)) }
  | exited (place : dog.worker = .done) : Step dog .exit { dog with worker := .gone }
  | timedOut (place : dog.caller = .waiting) (limit : unorderedKind? config.connectTimeout = none)
      (limited : config.connectTimeout ≠ .null) : Step dog .timeOut { dog with caller := .woken }
  | joined (place : dog.caller = .waiting) (limit : unorderedKind? config.connectTimeout = none)
      (ended : dog.worker = .gone) : Step dog .join { dog with caller := .woken }
  | balked (kind : String) (place : dog.caller = .waiting)
      (unordered : unorderedKind? config.connectTimeout = some kind) :
      Step dog .balk { dog with
        caller := .left (.error (.connection (.unorderedLimit config.hostname.text kind))) }
  | tested (place : dog.caller = .woken) :
      Step dog .test { dog with
        caller := if dog.worker = .gone then .content else .impatient }
  | abandoned (place : dog.caller = .impatient) :
      Step dog .abandon { dog with caller := .left (.error (outlasted config)), abandoned := true }
  | took (place : dog.caller = .content) :
      Step dog .take { dog with caller := .left (dog.published.getD (.error .unknownName)) }

inductive Reaches : List Move → Watchdog → Prop where
  | start : Reaches [] start
  | step {moves : List Move} {dog next : Watchdog} {move : Move} (before : Reaches moves dog)
      (taken : Step config number handshake dog move next) : Reaches (moves ++ [move]) next

/-- The parties never wait for each other for ever. -/
theorem exists_step_of_unfinished {dog : Watchdog} (unfinished : ¬ dog.Finished) :
    ∃ move next, Step config number handshake dog move next := by
  cases place : dog.worker with
  | starting =>
      cases built : handshake.building with
      | some fault => exact ⟨_, _, .unbuilt fault place built⟩
      | none => exact ⟨_, _, .built place built⟩
  | built => exact ⟨_, _, .asked place⟩
  | asked =>
      cases opened : handshake.opening with
      | some fault => exact ⟨_, _, .unopened fault place opened⟩
      | none => exact ⟨_, _, .opened place opened⟩
  | opened => exact ⟨_, _, .read place⟩
  | late => exact ⟨_, _, .closed place⟩
  | early => exact ⟨_, _, .published place⟩
  | done => exact ⟨_, _, .exited place⟩
  | gone =>
      cases stands : dog.caller with
      | waiting =>
          cases limit : unorderedKind? config.connectTimeout with
          | some kind => exact ⟨_, _, .balked kind stands limit⟩
          | none => exact ⟨_, _, .joined stands limit place⟩
      | woken => exact ⟨_, _, .tested stands⟩
      | impatient => exact ⟨_, _, .abandoned stands⟩
      | content => exact ⟨_, _, .took stands⟩
      | left outcome => exact absurd ⟨place, outcome, stands⟩ unfinished

end Steps

/-- The flag is set before it is read. -/
def Warned (moves : List Move) : Prop := [.abandon, .readFlag].Sublist moves

instance (moves : List Move) : Decidable (Warned moves) :=
  inferInstanceAs (Decidable ([.abandon, .readFlag].Sublist moves))

/-- The caller ends its wait with a fault: it sets the flag, or it could not wait. -/
def GaveUp (moves : List Move) : Prop := .abandon ∈ moves ∨ .balk ∈ moves

section Outcomes

variable (number : Nat) (handshake : Handshake) (dog : Watchdog)

/-- The caller has left with the shell, and nobody has closed it. -/
structure Kept : Prop where
  outcome : dog.caller = .left (.ok (handshake.opened number))
  calls : dog.calls = [.build number, .openShell number]

/-- The caller has left with a fault, and the worker has closed the shell once. -/
structure Closed : Prop where
  outcome : ∃ fault, dog.caller = .left (.error fault)
  calls : dog.calls = [.build number, .openShell number, .closeShell number handshake.shell]

/-- The caller has left with a fault, and nobody has closed the shell. -/
structure Lost : Prop where
  outcome : ∃ fault, dog.caller = .left (.error fault)
  calls : dog.calls = [.build number, .openShell number]

end Outcomes

section Order

variable {first second move : Move} {moves : List Move}

theorem pair_sublist_concat : [first, second].Sublist (moves ++ [move]) ↔
    [first, second].Sublist moves ∨ first ∈ moves ∧ second = move := by
  rw [← List.reverse_sublist, ← @List.reverse_sublist _ _ moves]
  simp [List.sublist_cons_iff, and_comm]

theorem Warned.abandoned (warned : Warned moves) : .abandon ∈ moves := warned.subset (by simp)

theorem not_mem_concat {taken : Move} (missing : taken ∉ moves) (other : taken ≠ move) :
    taken ∉ moves ++ [move] := by
  simp [missing, other]

end Order

section Invariant

variable {config : Config} {number : Nat} {handshake : Handshake} {moves : List Move} {move : Move}

/-- What the steps tell of a worker that opens a shell: what it has published and the calls that it
has made. -/
inductive WorkerTold (number : Nat) (handshake : Handshake) (moves : List Move) :
    Worker → Option (Except Fault Shell) → List Call → Prop where
  | starting (unread : .readFlag ∉ moves) : WorkerTold number handshake moves .starting none []
  | built (unread : .readFlag ∉ moves) :
      WorkerTold number handshake moves .built none [.build number]
  | opening (worker : Worker) (place : worker = .asked ∨ worker = .opened)
      (unread : .readFlag ∉ moves) :
      WorkerTold number handshake moves worker none [.build number, .openShell number]
  | late (warned : Warned moves) :
      WorkerTold number handshake moves .late none [.build number, .openShell number]
  | early (read : .readFlag ∈ moves) (unwarned : ¬ Warned moves) :
      WorkerTold number handshake moves .early none [.build number, .openShell number]
  | closed (worker : Worker) (place : worker = .done ∨ worker = .gone) (warned : Warned moves) :
      WorkerTold number handshake moves worker none
        [.build number, .openShell number, .closeShell number handshake.shell]
  | published (worker : Worker) (place : worker = .done ∨ worker = .gone)
      (read : .readFlag ∈ moves) (unwarned : ¬ Warned moves) :
      WorkerTold number handshake moves worker (some (.ok (handshake.opened number)))
        [.build number, .openShell number]

inductive CallerTold (number : Nat) (handshake : Handshake) (moves : List Move) : Caller →
    Prop where
  | inside (caller : Caller) (stays : ∀ outcome, caller ≠ .left outcome)
      (patient : .abandon ∉ moves) (waits : .balk ∉ moves) :
      CallerTold number handshake moves caller
  | balked (fault : Fault) (patient : .abandon ∉ moves) (balks : .balk ∈ moves) :
      CallerTold number handshake moves (.left (.error fault))
  | gaveUp (fault : Fault) (abandons : .abandon ∈ moves) (waits : .balk ∉ moves) :
      CallerTold number handshake moves (.left (.error fault))
  | took (patient : .abandon ∉ moves) (waits : .balk ∉ moves) :
      CallerTold number handshake moves (.left (.ok (handshake.opened number)))

structure Told (number : Nat) (handshake : Handshake) (moves : List Move) (dog : Watchdog) :
    Prop where
  flag : dog.abandoned = true ↔ .abandon ∈ moves
  worker : WorkerTold number handshake moves dog.worker dog.published dog.calls
  caller : CallerTold number handshake moves dog.caller
  ended : dog.caller = .content → dog.worker = .gone

theorem told_start : Told number handshake [] start where
  flag := by simp [start]
  worker := .starting List.not_mem_nil
  caller := .inside _ (by simp [start]) List.not_mem_nil List.not_mem_nil
  ended := nofun

/-- Only the reading of the flag changes what is told of a worker that does not move. -/
theorem WorkerTold.other {worker : Worker} {published : Option (Except Fault Shell)}
    {calls : List Call} (told : WorkerTold number handshake moves worker published calls)
    (move : Move) (other : .readFlag ≠ move) :
    WorkerTold number handshake (moves ++ [move]) worker published calls := by
  have warnedStill (warned : Warned moves) : Warned (moves ++ [move]) :=
    pair_sublist_concat.mpr (.inl warned)
  have unwarnedStill (unwarned : ¬ Warned moves) : ¬ Warned (moves ++ [move]) := by
    intro warned
    rcases pair_sublist_concat.mp warned with before | ⟨_, same⟩
    · exact unwarned before
    · exact other same
  cases told with
  | starting unread => exact .starting (not_mem_concat unread other)
  | built unread => exact .built (not_mem_concat unread other)
  | opening _ place unread => exact .opening _ place (not_mem_concat unread other)
  | late warned => exact .late (warnedStill warned)
  | early read unwarned => exact .early (List.mem_append_left _ read) (unwarnedStill unwarned)
  | closed _ place warned => exact .closed _ place (warnedStill warned)
  | published _ place read unwarned =>
      exact .published _ place (List.mem_append_left _ read) (unwarnedStill unwarned)

theorem CallerTold.other {caller : Caller} (told : CallerTold number handshake moves caller)
    (move : Move) (keeps : .abandon ≠ move) (waits : .balk ≠ move) :
    CallerTold number handshake (moves ++ [move]) caller := by
  cases told with
  | inside _ stays patient waiting =>
      exact .inside _ stays (not_mem_concat patient keeps) (not_mem_concat waiting waits)
  | balked fault patient balks =>
      exact .balked fault (not_mem_concat patient keeps) (List.mem_append_left _ balks)
  | gaveUp fault abandons waiting =>
      exact .gaveUp fault (List.mem_append_left _ abandons) (not_mem_concat waiting waits)
  | took patient waiting =>
      exact .took (not_mem_concat patient keeps) (not_mem_concat waiting waits)

section Steps

variable {worker : Worker} {caller : Caller} {abandoned : Bool}
  {published : Option (Except Fault Shell)} {calls : List Call}

theorem WorkerTold.step {next : Watchdog} (opens : handshake.Opens)
    (told : Told number handshake moves ⟨worker, caller, abandoned, published, calls⟩)
    (taken : Step config number handshake ⟨worker, caller, abandoned, published, calls⟩ move next) :
    WorkerTold number handshake (moves ++ [move]) next.worker next.published next.calls := by
  have workerTold : WorkerTold number handshake moves worker published calls := told.worker
  cases taken with
  | unbuilt fault place failed => cases opens.building.symm.trans failed
  | unopened fault place failed => cases opens.opening.symm.trans failed
  | built place succeeded =>
      cases place
      cases workerTold with
      | starting unread => exact .built (not_mem_concat unread (by decide))
      | _ => simp at *
  | asked place =>
      cases place
      cases workerTold with
      | built unread => exact .opening _ (.inl rfl) (not_mem_concat unread (by decide))
      | _ => simp at *
  | opened place succeeded =>
      cases place
      cases workerTold with
      | opening _ _ unread => exact .opening _ (.inr rfl) (not_mem_concat unread (by decide))
      | _ => simp at *
  | read place =>
      cases place
      cases workerTold with
      | opening _ _ unread =>
          have flag : abandoned = true ↔ .abandon ∈ moves := told.flag
          have warned : Warned (moves ++ [.readFlag]) ↔ abandoned = true := by
            rw [flag]
            refine pair_sublist_concat.trans ⟨?_, fun abandons => .inr ⟨abandons, rfl⟩⟩
            rintro (before | ⟨abandons, _⟩)
            · exact Warned.abandoned before
            · exact abandons
          cases abandoned with
          | true => exact .late (warned.mpr rfl)
          | false => exact .early (by simp) fun before => nomatch warned.mp before
      | _ => simp at *
  | closed place =>
      cases place
      cases workerTold.other .closeShell (by decide) with
      | late warned => exact .closed _ (.inl rfl) warned
      | _ => simp at *
  | published place =>
      cases place
      cases workerTold.other .publish (by decide) with
      | early read unwarned => exact .published _ (.inl rfl) read unwarned
      | _ => simp at *
  | exited place =>
      cases place
      cases workerTold.other .exit (by decide) with
      | closed _ _ warned => exact .closed _ (.inr rfl) warned
      | published _ _ read unwarned => exact .published _ (.inr rfl) read unwarned
      | _ => simp at *
  | timedOut | joined | balked | tested | abandoned | took => exact workerTold.other _ (by decide)

theorem CallerTold.step {next : Watchdog}
    (told : Told number handshake moves ⟨worker, caller, abandoned, published, calls⟩)
    (taken : Step config number handshake ⟨worker, caller, abandoned, published, calls⟩ move next) :
    CallerTold number handshake (moves ++ [move]) next.caller := by
  have callerTold : CallerTold number handshake moves caller := told.caller
  cases taken with
  | timedOut place limit limited =>
      cases place
      cases callerTold.other .timeOut (by decide) (by decide) with
      | inside _ _ patient waits => exact .inside _ (by simp) patient waits
  | joined place limit ended =>
      cases place
      cases callerTold.other .join (by decide) (by decide) with
      | inside _ _ patient waits => exact .inside _ (by simp) patient waits
  | balked kind place unordered =>
      cases place
      cases callerTold with
      | inside _ _ patient _ => exact .balked _ (not_mem_concat patient (by decide)) (by simp)
  | tested place =>
      cases place
      cases callerTold.other .test (by decide) (by decide) with
      | inside _ _ patient waits =>
          refine .inside _ ?_ patient waits
          dsimp only
          split <;> simp
  | abandoned place =>
      cases place
      cases callerTold with
      | inside _ _ _ waits => exact .gaveUp _ (by simp) (not_mem_concat waits (by decide))
  | took place =>
      cases place
      have ended : worker = .gone := told.ended rfl
      cases ended
      cases callerTold.other .take (by decide) (by decide) with
      | inside _ _ patient waits =>
          have workerTold : WorkerTold number handshake moves .gone published calls := told.worker
          cases workerTold with
          | published => exact .took patient waits
          | closed _ _ warned => exact absurd (List.mem_append_left _ warned.abandoned) patient
          | opening _ place _ => simp at place
  | unbuilt | unopened | built | asked | opened | read | closed | published | exited =>
      exact callerTold.other _ (by decide) (by decide)

end Steps

/-- What a step tells. -/
theorem Told.step {dog next : Watchdog} (opens : handshake.Opens)
    (told : Told number handshake moves dog) (taken : Step config number handshake dog move next) :
    Told number handshake (moves ++ [move]) next := by
  obtain ⟨worker, caller, abandoned, published, calls⟩ := dog
  refine ⟨?_, .step opens told taken, .step told taken, ?_⟩
  · have flag : abandoned = true ↔ .abandon ∈ moves := told.flag
    cases taken <;> simp [flag]
  · have ended : caller = .content → worker = .gone := told.ended
    cases taken with
    | tested place =>
        intro content
        by_contra alive
        have impatient : (if worker = .gone then Caller.content else .impatient) = .content :=
          content
        rw [if_neg alive] at impatient
        cases impatient
    | timedOut | joined | balked | abandoned | took => simp
    | exited => simp
    | _ =>
        intro content
        simp_all

/-- What any steps tell of a handshake that gets a shell. -/
theorem told_of_reaches {dog : Watchdog} (opens : handshake.Opens)
    (reaches : Reaches config number handshake moves dog) : Told number handshake moves dog := by
  induction reaches with
  | start => exact told_start
  | step _ taken ih => exact ih.step opens taken

/-- What has become of the shell when both parties are at their ends, and what the steps were. -/
inductive Fate (number : Nat) (handshake : Handshake) (moves : List Move) (dog : Watchdog) :
    Prop where
  | kept (kept : dog.Kept number handshake) (stayed : ¬ GaveUp moves)
  | closed (closed : dog.Closed number handshake) (warned : Warned moves)
  | lost (lost : dog.Lost number) (gaveUp : GaveUp moves) (unwarned : ¬ Warned moves)

theorem Told.fate {dog : Watchdog} (told : Told number handshake moves dog)
    (finished : dog.Finished) : Fate number handshake moves dog := by
  obtain ⟨worker, caller, abandoned, published, calls⟩ := dog
  obtain ⟨ended, outcome, left⟩ := finished
  cases ended
  cases left
  have workerTold : WorkerTold number handshake moves .gone published calls := told.worker
  have callerTold : CallerTold number handshake moves (.left outcome) := told.caller
  cases workerTold with
  | opening _ place _ => simp at place
  | closed _ _ warned =>
      cases callerTold with
      | inside _ stays => exact absurd rfl (stays outcome)
      | balked _ patient _ => exact absurd warned.abandoned patient
      | gaveUp fault _ _ => exact .closed ⟨⟨fault, rfl⟩, rfl⟩ warned
      | took patient _ => exact absurd warned.abandoned patient
  | published _ _ _ unwarned =>
      cases callerTold with
      | inside _ stays => exact absurd rfl (stays outcome)
      | balked fault _ balks => exact .lost ⟨⟨fault, rfl⟩, rfl⟩ (.inr balks) unwarned
      | gaveUp fault abandons _ => exact .lost ⟨⟨fault, rfl⟩, rfl⟩ (.inl abandons) unwarned
      | took patient waits =>
          refine .kept ⟨rfl, rfl⟩ ?_
          rintro (abandons | balks)
          · exact patient abandons
          · exact waits balks

theorem Kept.not_faulty {dog : Watchdog} (kept : dog.Kept number handshake) (fault : Fault) :
    dog.caller ≠ .left (.error fault) := by
  rw [kept.outcome]
  simp

theorem Closed.not_lost {dog : Watchdog} (closed : dog.Closed number handshake) :
    ¬ dog.Lost number := by
  intro lost
  have calls := closed.calls.symm.trans lost.calls
  simp at calls

/-- What becomes of a shell. The caller keeps it unless the caller gave up, and the worker closes it
if the flag was set before the worker read it. Otherwise nobody has it. -/
theorem shell_fate_iff {dog : Watchdog} (opens : handshake.Opens)
    (reaches : Reaches config number handshake moves dog) (finished : dog.Finished) :
    (dog.Kept number handshake ↔ ¬ GaveUp moves) ∧
    (dog.Closed number handshake ↔ Warned moves) ∧
    (dog.Lost number ↔ GaveUp moves ∧ ¬ Warned moves) := by
  cases (told_of_reaches opens reaches).fate finished with
  | kept kept stayed =>
      have unwarned : ¬ Warned moves := fun warned => stayed (.inl warned.abandoned)
      refine ⟨iff_of_true kept stayed, iff_of_false ?_ unwarned, iff_of_false ?_ (stayed ·.1)⟩
      · exact fun closed => closed.outcome.elim kept.not_faulty
      · exact fun lost => lost.outcome.elim kept.not_faulty
  | closed closed warned =>
      refine ⟨iff_of_false ?_ (not_not_intro (.inl warned.abandoned)), iff_of_true closed warned,
        iff_of_false closed.not_lost (·.2 warned)⟩
      exact fun kept => closed.outcome.elim kept.not_faulty
  | lost lost gaveUp unwarned =>
      refine ⟨iff_of_false ?_ (not_not_intro gaveUp), iff_of_false ?_ unwarned,
        iff_of_true lost ⟨gaveUp, unwarned⟩⟩
      · exact fun kept => lost.outcome.elim kept.not_faulty
      · exact fun closed => closed.not_lost lost

/-- A shell that comes after the caller gave up is closed. -/
theorem late_shell_closed :
    let config := Config.ofHost (.str "dc") (.str "ops") (.str "secret") .null
    let moves : List Move := [.build, .askShell, .timeOut, .test, .abandon, .getShell, .readFlag,
      .closeShell, .exit]
    Handshake.plain.Opens ∧ ∃ dog, Reaches config 0 .plain moves dog ∧ dog.Finished ∧
      dog.Closed 0 .plain := by
  intro config moves
  have begun : Reaches config 0 .plain [] start := .start
  have asked := begun.step (.built rfl rfl) |>.step (.asked rfl)
  have gaveUp := asked.step (.timedOut rfl rfl nofun) |>.step (.tested rfl) |>.step (.abandoned rfl)
  have late := gaveUp.step (.opened rfl rfl) |>.step (.read rfl)
  have gone := late.step (.closed rfl) |>.step (.exited rfl)
  have opens : Handshake.plain.Opens := ⟨rfl, rfl⟩
  have warned : Warned moves := by decide
  exact ⟨opens, _, gone, ⟨rfl, _, rfl⟩,
    (shell_fate_iff opens gone ⟨rfl, _, rfl⟩).2.1.mpr warned⟩

/-- A caller that gives up while the worker has read the flag and not yet published the shell loses
it, though the limit is a number and both parties come to their ends. -/
theorem shell_lost_behind_reading :
    let config := Config.ofHost (.str "dc") (.str "ops") (.str "secret") .null
    ∃ moves dog, Reaches config 0 .plain moves dog ∧ dog.Finished ∧
      dog.caller = .left (.error (outlasted config)) ∧
      dog.calls = [.build 0, .openShell 0] ∧ .readFlag ∈ moves := by
  intro config
  have begun : Reaches config 0 .plain [] start := .start
  have opened := begun.step (.built rfl rfl) |>.step (.asked rfl) |>.step (.opened rfl rfl)
  have early := opened.step (.read rfl)
  have gaveUp := early.step (.timedOut rfl rfl nofun) |>.step (.tested rfl) |>.step (.abandoned rfl)
  have gone := gaveUp.step (.published rfl) |>.step (.exited rfl)
  exact ⟨_, _, gone, ⟨rfl, _, rfl⟩, rfl, rfl, by simp⟩

end Invariant

section Conduct

variable (config : Config) (number : Nat) (handshake : Handshake)

theorem reaches_asked (built : handshake.building = none) :
    Reaches config number handshake [.build, .askShell]
      ⟨.asked, .waiting, false, none, [.build number, .openShell number]⟩ :=
  .step (.step .start (.built rfl built)) (.asked rfl)

theorem reaches_gone :
    ∃ moves, Reaches config number handshake moves
      ⟨.gone, .waiting, false, some ((handshake.result .null).map fun _ => handshake.opened number),
        handshake.calls number⟩ := by
  unfold Handshake.result Handshake.calls
  cases building : handshake.building with
  | some fault =>
      have begun : Reaches config number handshake [] start := .start
      exact ⟨_, (begun.step (.unbuilt fault rfl building)).step (.exited rfl)⟩
  | none =>
      have asked := reaches_asked config number handshake building
      cases opening : handshake.opening with
      | some fault => exact ⟨_, (asked.step (.unopened fault rfl opening)).step (.exited rfl)⟩
      | none =>
          have early := (asked.step (.opened rfl opening)).step (.read rfl)
          exact ⟨_, (early.step (.published rfl)).step (.exited rfl)⟩

/-- The worker can be anywhere that it may be when the caller gives up. -/
theorem reaches_stalled (built : handshake.building = none) :
    ∃ moves, Reaches config number handshake moves
      ⟨handshake.stalled, .waiting, false, none, [.build number, .openShell number]⟩ := by
  have asked := reaches_asked config number handshake built
  unfold Handshake.stalled
  split
  · next early => exact ⟨_, (asked.step (.opened rfl early.1)).step (.read rfl)⟩
  · exact ⟨_, asked⟩

end Conduct

theorem result_of_early {limit : Json} {handshake : Handshake}
    (early : handshake.outlasts limit = false) :
    handshake.result limit = handshake.result .null := by
  unfold Handshake.result
  rw [early]
  rfl

theorem begun_of_late {limit : Json} {handshake : Handshake}
    (late : handshake.outlasts limit = true) :
    (∃ fault, handshake.building = some fault ∧ handshake.result limit = .error fault) ∨
      handshake.building = none ∧ handshake.result limit = .ok () := by
  unfold Handshake.result
  rw [late]
  cases handshake.building with
  | some fault => exact .inl ⟨fault, rfl, rfl⟩
  | none => exact .inr ⟨rfl, rfl⟩

/-- The handshake of a connection is one of the interleavings. Behind it the worker is at its end,
or where it was when the flag was set. -/
theorem shakeHands_reaches (config : Config) (now : State) :
    ∃ moves dog, Reaches config now.started now.nextHandshake moves dog ∧
      dog.caller = .left (shakeHands config now).1 ∧
      (shakeHands config now).2.calls = now.calls ++ dog.calls ∧
      (dog.worker = .gone ∨
        dog.worker = now.nextHandshake.stalled ∧ dog.abandoned = true) := by
  obtain ⟨moves, gone⟩ := reaches_gone config now.started now.nextHandshake
  cases limit : unorderedKind? config.connectTimeout with
  | some kind =>
      rw [shakeHands_of_unordered limit]
      exact ⟨_, _, gone.step (.balked kind rfl limit), rfl, rfl, .inl rfl⟩
  | none =>
      have content := (gone.step (.joined rfl limit rfl)).step (.tested rfl)
      have took := content.step (.took rfl)
      rw [shakeHands_of_limit limit]
      cases late : now.nextHandshake.outlasts config.connectTimeout with
      | false =>
          rw [← result_of_early late] at took
          refine ⟨_, _, took, ?_, ?_, .inl rfl⟩
          · cases now.nextHandshake.result config.connectTimeout <;> rfl
          · cases now.nextHandshake.result config.connectTimeout <;> rfl
      | true =>
          have limited : config.connectTimeout ≠ .null := by
            intro unlimited
            rw [unlimited] at late
            cases late
          rcases begun_of_late late with ⟨fault, unbuilt, failed⟩ | ⟨built, begins⟩
          · have failsToo : now.nextHandshake.result .null = .error fault := by
              simp [Handshake.result, unbuilt]
            rw [failsToo] at took
            rw [failed]
            exact ⟨_, _, took, rfl, rfl, .inl rfl⟩
          · obtain ⟨moves, stalled⟩ := reaches_stalled config now.started now.nextHandshake built
            have woken := stalled.step (.timedOut rfl limit limited)
            have impatient := woken.step (.tested rfl)
            have alive : now.nextHandshake.stalled ≠ .gone := by
              unfold Handshake.stalled
              split <;> decide
            have calls : now.nextHandshake.calls now.started =
                [.build now.started, .openShell now.started] := by
              simp [Handshake.calls, built]
            rw [begins, calls]
            exact ⟨_, _, impatient.step (.abandoned (if_neg alive)), rfl, rfl, .inr ⟨rfl, rfl⟩⟩

/-- A connection holds the shell with which the caller leaves, and connecting fails if it leaves
without one. -/
theorem connect_of_left {config : Config} {now after : State} {outcome : Except Fault Shell}
    (missing : now.connected = false) (answered : now.nextProbe.result config = .ok ())
    (shaken : shakeHands config (now.probed.recordAll [.probe, .closeSocket]) = (outcome, after)) :
    connect config now =
      match outcome with
      | .ok shell => (.ok (), { after with held := some shell })
      | .error fault => (.error (handshakeFault config fault), after) := by
  have told := mapFault_apply (handshakeFault config) (shakeHands config)
    (now.probed.recordAll [.probe, .closeSocket])
  rw [shaken] at told
  rw [connect_of_reached missing answered]
  cases outcome with
  | ok shell => exact bind_apply_ok told
  | error fault => exact bind_apply_error told

/-- An abandoned handshake that comes to its end goes on with the interleaving: its worker closes
the shell, or hands over one that nobody takes. -/
theorem complete_reaches {config : Config} {number : Nat} {handshake : Handshake}
    {moves : List Move} {dog : Watchdog} {now : State}
    (reaches : Reaches config number handshake moves dog) (stalls : dog.worker = handshake.stalled)
    (flag : dog.abandoned = true) (found : now.abandoned.lookup number = some handshake) :
    ∃ all last made, moves <+: all ∧ Reaches config number handshake all last ∧
      last.worker = .gone ∧ last.caller = dog.caller ∧ last.calls = dog.calls ++ made ∧
      (complete number now).2.calls = now.calls ++ made := by
  rw [complete_of_abandoned found]
  unfold Handshake.stalled at stalls
  unfold Handshake.lateCalls
  by_cases crossed : handshake.opening = none ∧ handshake.pace = .crossed
  · rw [if_pos crossed] at stalls
    rw [if_neg fun noticed => noticed.2 crossed.2]
    have done := reaches.step (.published stalls)
    refine ⟨_, _, [], ?_, done.step (.exited rfl), rfl, rfl, by simp, rfl⟩
    simp [List.append_assoc]
  · rw [if_neg crossed] at stalls
    cases opening : handshake.opening with
    | some fault =>
        have done := reaches.step (.unopened fault stalls opening)
        refine ⟨_, _, [], ?_, done.step (.exited rfl), rfl, rfl, by simp, by simp [State.recordAll]⟩
        simp [List.append_assoc]
    | none =>
        have noticed : handshake.pace ≠ .crossed := fun pace => crossed ⟨opening, pace⟩
        have read := (reaches.step (.opened stalls opening)).step (.read rfl)
        have late : (if dog.abandoned = true then Worker.late else .early) = .late := if_pos flag
        have done := read.step (.closed late)
        rw [if_pos ⟨rfl, noticed⟩]
        refine ⟨_, _, [.closeShell number handshake.shell], ?_, done.step (.exited rfl), rfl, rfl,
          rfl, rfl⟩
        simp [List.append_assoc]

end Watchdog

end FleetPatch.WinRm
