import FleetPatch.Proofs.Requests
import FleetPatch.Proofs.Retracing

/-!
# Courses of requests

A course is a tree of what a request may do: computations, commands, and visits to
hosts during which it goes on. Over transports it is a run. Carried out with a log
of its deeds, it also tells which of its steps failed, those that reach no host
included. The first deed that stops a course decides it: from then on connections
are closed and nothing else is done.
-/

namespace FleetPatch.Web

set_option autoImplicit false

variable {σ α β : Type}

def failureOf : Except Failure α → Option Failure
  | .error failure => some failure
  | .ok _ => none

/-- How the faults of a step are handled: they are passed on, they refuse the request where a value
was not acceptable, or they are awaited, because they may be a restart. -/
inductive Handling where
  | passed
  | blamed
  | awaited
  deriving Repr, DecidableEq

namespace Handling

/-- The failure that a fault is told as, unless it counts as an answer. -/
def failure? : Handling → Fault → Option Failure
  | .passed, fault => some (.fault fault)
  | .blamed, fault => some (changeFailure fault)
  | .awaited, fault => if fault.mayBeRestart then none else some (.fault fault)

def told (handling : Handling) : Failure → Failure
  | .fault fault => (handling.failure? fault).getD (.fault fault)
  | .refused status message => .refused status message

def resolve (handling : Handling) : Except Fault Reply → Except Failure (Except Fault Reply)
  | .ok reply => .ok (.ok reply)
  | .error fault =>
      match handling.failure? fault with
      | some failure => .error failure
      | none => .ok (.error fault)

theorem failureOf_resolve (handling : Handling) (answer : Except Fault Reply) :
    failureOf (handling.resolve answer) = (faultOf answer).bind handling.failure? := by
  cases answer with
  | ok reply => rfl
  | error fault =>
      simp only [resolve, faultOf, Option.bind_some]
      cases handling.failure? fault <;> rfl

theorem resolve_of_restart {fault : Fault} (restarts : fault.mayBeRestart = true) :
    awaited.resolve (.error fault) = .ok (.error fault) := by
  simp only [resolve, failure?, restarts, if_true]

theorem resolve_of_fault {fault : Fault} (plain : fault.mayBeRestart = false) :
    awaited.resolve (.error fault) = .error (.fault fault) := by
  simp only [resolve, failure?, plain, Bool.false_eq_true, if_false]

end Handling

/-- What a request may do. A command passes its answer on only where its handling admits it. -/
inductive Course : Type → Type 1 where
  | settled {α : Type} (value : α) : Course α
  | compute {α : Type} (handling : Handling) (computed : Except Failure α) : Course α
  | execute (host command : String) (handling : Handling) : Course (Except Fault Reply)
  | visit {α : Type} (host : String) (work : Course α) : Course α
  | andThen {α β : Type} (first : Course α) (next : α → Course β) : Course β

instance : Monad Course where
  pure := .settled
  bind := .andThen

inductive Deed where
  | computed (handling : Handling) (outcome : Except Failure Unit)
  | connected (host : String) (outcome : Except Fault Unit)
  | executed (host command : String) (handling : Handling) (exchanges : History)
      (answer : Except Fault Reply)
  | closed (host : String) (outcome : Except Fault Unit)

namespace Deed

def exchanges : Deed → History
  | .computed _ _ => []
  | .connected host outcome => [(host, .connect outcome)]
  | .executed _ _ _ exchanges _ => exchanges
  | .closed host outcome => [(host, .close outcome)]

def failure? : Deed → Option Failure
  | .computed _ outcome => failureOf outcome
  | .executed _ _ _ _ answer => (faultOf answer).map .fault
  | .connected _ outcome | .closed _ outcome => (faultOf outcome).map .fault

def stops? : Deed → Option Failure
  | .computed handling outcome => (failureOf outcome).map handling.told
  | .executed _ _ handling _ answer => (faultOf answer).bind handling.failure?
  | .connected _ outcome | .closed _ outcome => (faultOf outcome).map .fault

def Closes : Deed → Prop
  | .closed _ _ => True
  | .computed _ _ | .connected _ _ | .executed _ _ _ _ _ => False

/-- The fault of a command that was awaited, which counts as an answer. -/
def excused? : Deed → Option Fault
  | .executed _ _ .awaited _ (.error fault) => if fault.mayBeRestart then some fault else none
  | _ => none

end Deed

def noting {ε : Type} (deed : Except ε α → Deed) (run : Run ε σ α) :
    Run ε (List Deed × σ) α := fun (deeds, now) =>
  match run now with
  | (outcome, after) => (outcome, (deeds ++ [deed outcome], after))

def notingCommand (host command : String) (handling : Handling) (transport : Transport σ) :
    Step (List Deed × σ) (Except Fault Reply) := fun (deeds, now) =>
  match (transport.recorded host).execute command ([], now) with
  | (answer, (exchanges, after)) =>
      (handling.resolve answer,
        (deeds ++ [.executed host command handling exchanges answer], after))

namespace Course

def run (hosts : String → Transport σ) : {α : Type} → Course α → Step σ α
  | _, .settled value => pure value
  | _, .compute handling computed => Run.lift (computed.mapError handling.told)
  | _, .execute host command handling => do
      let answer ← Run.attempt ((hosts host).execute command)
      Run.lift (handling.resolve answer)
  | _, .visit host work => Run.ensuring (do
      onHosts (hosts host).connect
      work.run hosts) (onHosts (hosts host).close)
  | _, .andThen first next => first.run hosts >>= fun value => (next value).run hosts

/-- The course as a run over transports that keeps a log of its deeds. -/
def traced (hosts : String → Transport σ) : {α : Type} → Course α → Step (List Deed × σ) α
  | _, .settled value => pure value
  | _, .compute handling computed =>
      Run.mapFault handling.told
        (noting (fun outcome => .computed handling (outcome.map fun _ => ())) (Run.lift computed))
  | _, .execute host command handling => notingCommand host command handling (hosts host)
  | _, .visit host work => Run.ensuring (do
      onHosts (noting (.connected host) (hosts host).connect)
      work.traced hosts) (onHosts (noting (.closed host) (hosts host).close))
  | _, .andThen first next => first.traced hosts >>= fun value => (next value).traced hosts

theorem run_execute (hosts : String → Transport σ) (host command : String) (handling : Handling)
    (now : σ) :
    (execute host command handling).run hosts now =
      (handling.resolve ((hosts host).execute command now).1,
        ((hosts host).execute command now).2) := rfl

theorem traced_compute (hosts : String → Transport σ) (handling : Handling)
    (computed : Except Failure α) (deeds : List Deed) (now : σ) :
    (compute handling computed).traced hosts (deeds, now) =
      (computed.mapError handling.told,
        (deeds ++ [.computed handling (computed.map fun _ => ())], now)) := by
  simp only [traced, Run.mapFault_apply, noting, Run.lift_apply]

theorem traced_bind (hosts : String → Transport σ) (first : Course α) (next : α → Course β) :
    (first >>= next).traced hosts =
      first.traced hosts >>= fun value => (next value).traced hosts := rfl

end Course

/-- The failure that is told in the end: closings that fail take the place of what came before. -/
def lastFailure (failure : Failure) (closings : List Deed) : Failure :=
  closings.foldl (fun told deed => deed.stops?.getD told) failure

/-- What is told when the first deed that stops decides: nothing is done behind it but to close. -/
inductive Decided : Run.Telling Deed Failure α where
  | passed (deeds : List Deed) (value : α) (goes : ∀ deed ∈ deeds, deed.stops? = none) :
      Decided deeds (.ok value)
  | stopped (before : List Deed) (deed : Deed) (after : List Deed) (failure : Failure)
      (goes : ∀ earlier ∈ before, earlier.stops? = none) (stops : deed.stops? = some failure)
      (closes : ∀ later ∈ after, later.Closes) :
      Decided (before ++ deed :: after) (.error (lastFailure failure after))

namespace Decided

theorem single {deed : Deed} {outcome : Except Failure α} (same : deed.stops? = failureOf outcome) :
    Decided [deed] outcome := by
  cases outcome with
  | ok value => exact .passed [deed] value (List.forall_mem_singleton.mpr same)
  | error failure =>
      exact .stopped [] deed [] failure (List.forall_mem_nil _) same (List.forall_mem_nil _)

theorem behind {earlier later : List Deed} {outcome : Except Failure α}
    (goes : ∀ deed ∈ earlier, deed.stops? = none) (decided : Decided later outcome) :
    Decided (earlier ++ later) outcome := by
  cases decided with
  | passed _ value rest => exact .passed _ value (List.forall_mem_append.mpr ⟨goes, rest⟩)
  | stopped before deed after failure rest stops closes =>
      rw [← List.append_assoc]
      exact .stopped _ deed after failure (List.forall_mem_append.mpr ⟨goes, rest⟩) stops closes

theorem andThen {deeds : List Deed} {outcome : Except Failure β}
    (tells : Run.Telling.andThen (Decided (α := α)) (fun _ => Decided) deeds outcome) :
    Decided deeds outcome := by
  cases tells with
  | stopped _ failure first =>
      cases first with
      | stopped before deed after failure goes stops closes =>
          exact .stopped before deed after failure goes stops closes
  | went earlier later value _ first second =>
      cases first with
      | passed _ _ goes => exact second.behind goes

/-- A closing behind what was decided decides only if nothing stopped before, or if it fails. -/
theorem closed {deeds : List Deed} {outcome : Except Failure α} (decided : Decided deeds outcome)
    (host : String) (closing : Except Fault Unit) :
    Decided (deeds ++ [.closed host closing]) (afterClosing closing outcome) := by
  cases decided with
  | passed _ value goes =>
      refine behind goes (single ?_)
      cases closing <;> rfl
  | stopped before deed after failure goes stops closes =>
      have told : afterClosing closing (.error (lastFailure failure after) : Except Failure α) =
          .error (lastFailure failure (after ++ [.closed host closing])) := by
        rw [lastFailure, lastFailure, List.foldl_append]
        cases closing <;> rfl
      rw [told, List.append_assoc, List.cons_append]
      refine .stopped before deed _ failure goes stops ?_
      exact List.forall_mem_append.mpr ⟨closes, List.forall_mem_singleton.mpr trivial⟩

end Decided

theorem logs_noting {ε : Type} (deed : Except ε α → Deed) (run : Run ε σ α) :
    Run.Logs Prod.fst (noting deed run) fun deeds outcome => deeds = [deed outcome] :=
  fun _ => ⟨_, rfl, rfl⟩

theorem logs_onHosts (deed : Except Fault Unit → Deed)
    (stops : ∀ outcome, (deed outcome).stops? = (faultOf outcome).map .fault)
    (run : Run Fault σ Unit) :
    Run.Logs Prod.fst (onHosts (noting deed run)) Decided := by
  have tells := (logs_noting deed run).mapFault Failure.fault
  refine tells.mono ?_
  intro deeds outcome tells
  cases tells with
  | changed _ answer only =>
      rw [only]
      apply Decided.single
      rw [stops]
      cases answer <;> rfl

/-- In every course, over any transports, the first deed that stops decides. -/
theorem Course.decided (hosts : String → Transport σ) (course : Course α) :
    Run.Logs Prod.fst (course.traced hosts) Decided := by
  induction course with
  | settled value =>
      apply (Run.logs_pure value).mono
      rintro _ _ ⟨rfl, rfl⟩
      exact .passed [] value (List.forall_mem_nil _)
  | compute handling computed =>
      apply ((logs_noting _ _).mapFault handling.told).mono
      intro deeds outcome tells
      cases tells with
      | changed _ outcome only =>
          rw [only]
          apply Decided.single
          cases outcome <;> rfl
  | execute host command handling =>
      intro now
      exact ⟨_, rfl, Decided.single (handling.failureOf_resolve _).symm⟩
  | visit host work worked =>
      have connects := logs_onHosts (.connected host) (fun _ => rfl) (hosts host).connect
      have closes := (logs_noting (.closed host) (hosts host).close).mapFault Failure.fault
      apply (Run.Logs.ensuring (connects.bind fun _ => worked) closes).mono
      intro deeds outcome tells
      cases tells with
      | ended earlier later outcome _ first last =>
          cases last with
          | changed _ closing only =>
              rw [only]
              exact (Decided.andThen first).closed host closing
  | andThen first next firstDecided nextDecided =>
      apply (firstDecided.bind nextDecided).mono
      intro deeds outcome tells
      exact .andThen tells

def reveal (pair : List Deed × σ) : History × σ := (pair.1.flatMap Deed.exchanges, pair.2)

theorem reveal_append (deeds : List Deed) (deed : Deed) (now : σ) :
    reveal (deeds ++ [deed], now) = (deeds.flatMap Deed.exchanges ++ deed.exchanges, now) := by
  simp only [reveal, List.flatMap_append, List.flatMap_singleton]

/-- What a transport is asked to do does not depend on what was recorded before. -/
theorem recorded_execute_behind (host command : String) (transport : Transport σ)
    (history : History) (now : σ) :
    (transport.recorded host).execute command (history, now) =
      Prod.map id (Prod.map (history ++ ·) id)
        ((transport.recorded host).execute command ([], now)) := by
  have dispatched (earlier : History) (after : σ) :
      (transport.recorded host).dispatch command (earlier, after) =
        ((transport.dispatch command after).1,
          (earlier ++ [(host, .execute command (transport.dispatch command after).1)],
            (transport.dispatch command after).2)) := rfl
  cases stands : transport.connected now with
  | true =>
      have reached (earlier : History) :
          (transport.recorded host).reach (earlier, now) = (.ok (), (earlier, now)) :=
        Transport.reach_of_connected stands
      rw [Transport.execute, Run.bind_apply_ok (reached history), Run.bind_apply_ok (reached []),
        dispatched, dispatched]
      rfl
  | false =>
      have reached (earlier : History) : (transport.recorded host).reach (earlier, now) =
          ((transport.connect now).1, (earlier ++ [(host, .connect (transport.connect now).1)],
            (transport.connect now).2)) :=
        Transport.reach_of_unconnected stands
      rcases connecting : transport.connect now with ⟨outcome, after⟩
      simp only [connecting] at reached
      cases outcome with
      | error fault =>
          rw [Transport.execute, Run.bind_apply_error (reached history),
            Run.bind_apply_error (reached [])]
          rfl
      | ok _ =>
          rw [Transport.execute, Run.bind_apply_ok (reached history),
            Run.bind_apply_ok (reached []), dispatched, dispatched]
          simp only [Prod.map, id, List.append_assoc, List.nil_append]

theorem echoes_noting {deed : Except Fault α → Deed} {host : String}
    {exchange : Except Fault α → Exchange}
    (tells : ∀ outcome, (deed outcome).exchanges = [(host, exchange outcome)])
    (run : Run Fault σ α) :
    Run.Echoes reveal (noting deed run) (recording host exchange run) := by
  intro (deeds, now)
  simp only [noting, reveal_append, tells]
  rfl

/-- A course over recorded transports does what it does with a log of its deeds, and its history is
that of its deeds. -/
theorem Course.traced_echoes (hosts : String → Transport σ) (course : Course α) :
    Run.Echoes reveal (course.traced hosts)
      (course.run fun host => (hosts host).recorded host) := by
  induction course with
  | settled value => exact Run.echoes_lift (.ok value)
  | compute handling computed =>
      intro (deeds, now)
      simp only [traced, run, Run.mapFault_apply, noting, Run.lift_apply, reveal_append,
        Deed.exchanges, List.append_nil]
      rfl
  | execute host command handling =>
      intro (deeds, now)
      have behind := recorded_execute_behind host command (hosts host)
        (deeds.flatMap Deed.exchanges) now
      simp only [traced, notingCommand, reveal_append, Deed.exchanges]
      rw [reveal, run_execute, behind]
      rfl
  | visit host work worked =>
      have connects : Run.Echoes reveal (noting (.connected host) (hosts host).connect)
        ((hosts host).recorded host).connect := echoes_noting (fun _ => rfl) _
      have closes : Run.Echoes reveal (noting (.closed host) (hosts host).close)
        ((hosts host).recorded host).close := echoes_noting (fun _ => rfl) _
      exact .ensuring (.bind (connects.mapFault _) fun _ => worked) (closes.mapFault _)
  | andThen first next firstEchoes nextEchoes => exact firstEchoes.bind nextEchoes

theorem first_unique {κ : Type} {P : κ → Prop} {before other after others : List κ}
    {item same : κ} (split : before ++ item :: after = other ++ same :: others)
    (none : ∀ earlier ∈ before, ¬ P earlier) (holds : P item)
    (otherNone : ∀ earlier ∈ other, ¬ P earlier) (otherHolds : P same) :
    item = same ∧ after = others := by
  induction before generalizing other with
  | nil =>
      cases other with
      | nil => exact List.cons.inj split
      | cons head rest =>
          have first : item = head := (List.cons.inj split).1
          exact absurd (first ▸ holds) (otherNone head List.mem_cons_self)
  | cons head rest induction =>
      cases other with
      | nil =>
          have first : head = same := (List.cons.inj split).1
          exact absurd (first ▸ otherHolds) (none head List.mem_cons_self)
      | cons _ otherRest =>
          exact induction (List.cons.inj split).2 (List.forall_mem_cons.mp none).2
            (List.forall_mem_cons.mp otherNone).2

theorem Decided.of_first {deeds before after : List Deed} {deed : Deed} {failure : Failure}
    {outcome : Except Failure α} (decided : Decided deeds outcome)
    (split : deeds = before ++ deed :: after) (goes : ∀ earlier ∈ before, earlier.stops? = none)
    (stops : deed.stops? = some failure) :
    (∀ later ∈ after, later.Closes) ∧ outcome = .error (lastFailure failure after) := by
  cases decided with
  | passed _ value all =>
      have continues := all deed (by simp [split])
      rw [stops] at continues
      cases continues
  | stopped _ decisive _ told others decides closes =>
      obtain ⟨rfl, rfl⟩ := first_unique (P := fun deed => deed.stops? ≠ none) split
        (by simpa using others) (by simp [decides]) (by simpa using goes) (by simp [stops])
      rw [decides] at stops
      cases stops
      exact ⟨closes, rfl⟩

/-- Closings that do not fail leave what was told. -/
theorem lastFailure_of_closed {failure : Failure} {closings : List Deed}
    (closed : ∀ closing ∈ closings, closing.stops? = none) :
    lastFailure failure closings = failure := by
  induction closings with
  | nil => rfl
  | cons closing rest induction =>
      obtain ⟨first, others⟩ := List.forall_mem_cons.mp closed
      rw [lastFailure, List.foldl_cons, first]
      exact induction others

def Deed.command? : Deed → Option String
  | .executed _ command _ _ _ => some command
  | .computed _ _ | .connected _ _ | .closed _ _ => none

theorem Deed.Closes.uncommanded {deed : Deed} (closes : deed.Closes) : deed.command? = none := by
  cases deed with
  | closed _ _ => rfl
  | computed _ _ | connected _ _ | executed _ _ _ _ _ => cases closes

/-- A course whose commands are given and handled in a way. -/
def Course.Commands (P : String → Handling → Prop) : {α : Type} → Course α → Prop
  | _, .settled _ => True
  | _, .compute _ _ => True
  | _, .execute _ command handling => P command handling
  | _, .visit _ work => work.Commands P
  | _, .andThen first next => first.Commands P ∧ ∀ value, (next value).Commands P

def Deed.Commands (P : String → Handling → Prop) : Deed → Prop
  | .executed _ command handling _ _ => P command handling
  | .computed _ _ | .connected _ _ | .closed _ _ => True

theorem logsOnly_noting {ε : Type} {P : Deed → Prop} {deed : Except ε α → Deed}
    (holds : ∀ outcome, P (deed outcome)) (run : Run ε σ α) :
    Run.LogsOnly Prod.fst P (noting deed run) := by
  apply (logs_noting deed run).mono
  rintro _ outcome rfl
  exact List.forall_mem_singleton.mpr (holds outcome)

theorem Course.logs_commands {P : String → Handling → Prop} (hosts : String → Transport σ)
    {course : Course α} (commands : course.Commands P) :
    Run.LogsOnly Prod.fst (Deed.Commands P) (course.traced hosts) := by
  induction course with
  | settled value => exact Run.logsOnly_pure value
  | compute handling computed =>
      exact .mapFault _ (logsOnly_noting (fun _ => trivial) _)
  | execute host command handling =>
      intro now
      exact ⟨_, rfl, List.forall_mem_singleton.mpr commands⟩
  | visit host work worked =>
      have connects : Run.LogsOnly Prod.fst (Deed.Commands P)
          (noting (.connected host) (hosts host).connect) := logsOnly_noting (fun _ => trivial) _
      have closes : Run.LogsOnly Prod.fst (Deed.Commands P)
          (noting (.closed host) (hosts host).close) := logsOnly_noting (fun _ => trivial) _
      exact .ensuring (.bind (connects.mapFault _) fun _ => worked commands) (closes.mapFault _)
  | andThen first next firstLogs nextLogs =>
      exact .bind (firstLogs commands.1) fun value => nextLogs value (commands.2 value)

theorem Deed.unexcused_of_uncommanded {deed : Deed} (none : deed.command? = none) :
    deed.excused? = .none := by
  cases deed with
  | executed _ _ _ _ _ => cases none
  | computed _ _ | connected _ _ | closed _ _ => rfl

/-- What is told when the one command of a course is awaited: its fault is answered, unless the
course fails to close a connection. -/
inductive Awaited (answers : Fault → α → Prop) : Run.Telling Deed Failure α where
  | plain (deeds : List Deed) (outcome : Except Failure α)
      (none : ∀ deed ∈ deeds, deed.excused? = none) : Awaited answers deeds outcome
  | excused (before : List Deed) (deed : Deed) (after : List Deed) (fault : Fault)
      (outcome : Except Failure α) (first : ∀ earlier ∈ before, earlier.command? = none)
      (excuses : deed.excused? = some fault) (last : ∀ later ∈ after, later.command? = none)
      (answered : (∀ later ∈ after, later.Closes → later.stops? = none) →
        ∃ value, outcome = .ok value ∧ answers fault value) :
      Awaited answers (before ++ deed :: after) outcome

namespace Awaited

variable {answers : Fault → α → Prop} {deeds : List Deed} {outcome : Except Failure α}

theorem behind {earlier : List Deed} (none : ∀ deed ∈ earlier, deed.command? = none)
    (awaited : Awaited answers deeds outcome) : Awaited answers (earlier ++ deeds) outcome := by
  cases awaited with
  | plain _ _ rest =>
      refine .plain _ outcome (List.forall_mem_append.mpr ⟨fun deed member => ?_, rest⟩)
      exact Deed.unexcused_of_uncommanded (none deed member)
  | excused before deed after fault _ first excuses last answered =>
      rw [← List.append_assoc]
      exact .excused _ deed after fault outcome (List.forall_mem_append.mpr ⟨none, first⟩) excuses
        last answered

theorem closed (awaited : Awaited answers deeds outcome) (host : String)
    (closing : Except Fault Unit) :
    Awaited answers (deeds ++ [.closed host closing]) (afterClosing closing outcome) := by
  cases awaited with
  | plain _ _ none =>
      exact .plain _ _ (List.forall_mem_append.mpr ⟨none, List.forall_mem_singleton.mpr rfl⟩)
  | excused before deed after fault _ first excuses last answered =>
      rw [List.append_assoc, List.cons_append]
      refine .excused before deed _ fault _ first excuses
        (List.forall_mem_append.mpr ⟨last, List.forall_mem_singleton.mpr rfl⟩) fun goes => ?_
      obtain ⟨others, closes⟩ := List.forall_mem_append.mp goes
      cases closing with
      | ok _ => exact answered others
      | error cause => cases List.forall_mem_singleton.mp closes trivial

theorem changed (awaited : Awaited answers deeds outcome) {change : α → β}
    {changes : Fault → β → Prop} (implied : ∀ fault value, answers fault value →
      changes fault (change value)) : Awaited changes deeds (outcome.map change) := by
  cases awaited with
  | plain _ _ none => exact .plain _ _ none
  | excused before deed after fault _ first excuses last answered =>
      refine .excused before deed after fault _ first excuses last fun goes => ?_
      obtain ⟨value, rfl, holds⟩ := answered goes
      exact ⟨change value, rfl, implied fault value holds⟩

end Awaited

section AwaitedCourses

variable {hosts : String → Transport σ} {answers : Fault → α → Prop}

theorem awaited_computed {handling : Handling} {computed : Except Failure β} {next : β → Course α}
    (rest : ∀ value, computed = .ok value →
      Run.Logs Prod.fst ((next value).traced hosts) (Awaited answers)) :
    Run.Logs Prod.fst ((Course.compute handling computed >>= next).traced hosts)
      (Awaited answers) := by
  intro (deeds, now)
  cases computed with
  | error failure => exact ⟨_, rfl, .plain _ _ (List.forall_mem_singleton.mpr rfl)⟩
  | ok value =>
      let deed := Deed.computed handling (.ok ())
      obtain ⟨later, appended, awaited⟩ := rest value rfl (deeds ++ [deed], now)
      rw [List.append_assoc] at appended
      exact ⟨[deed] ++ later, appended, awaited.behind (List.forall_mem_singleton.mpr rfl)⟩

theorem awaited_visit {host : String} {work : Course α}
    (works : Run.Logs Prod.fst (work.traced hosts) (Awaited answers)) :
    Run.Logs Prod.fst ((Course.visit host work).traced hosts) (Awaited answers) := by
  have connects := (logs_noting (.connected host) (hosts host).connect).mapFault Failure.fault
  have closes := (logs_noting (.closed host) (hosts host).close).mapFault Failure.fault
  apply (Run.Logs.ensuring (connects.bind fun _ => works) closes).mono
  intro deeds outcome tells
  cases tells with
  | ended earlier later outcome _ first last =>
      cases last with
      | changed _ closing only =>
          rw [only]
          refine Awaited.closed ?_ host closing
          cases first with
          | stopped _ failure connecting =>
              obtain ⟨fault, connected, _⟩ := connecting.of_error
              rw [connected]
              exact .plain _ _ (List.forall_mem_singleton.mpr rfl)
          | went _ inner _ _ connecting awaited =>
              rw [connecting.of_ok]
              exact awaited.behind (List.forall_mem_singleton.mpr rfl)

theorem awaited_changed {course : Course α} {change : α → β} {changes : Fault → β → Prop}
    (implied : ∀ fault value, answers fault value → changes fault (change value))
    (logs : Run.Logs Prod.fst (course.traced hosts) (Awaited answers)) :
    Run.Logs Prod.fst ((course >>= fun value => pure (change value)).traced hosts)
      (Awaited changes) := by
  apply (logs.map change).mono
  intro deeds outcome tells
  cases tells with
  | changed _ _ awaited => exact awaited.changed implied

theorem awaited_command {host command : String} {read : Except Fault Reply → Except Failure α}
    (reads : ∀ fault, fault.mayBeRestart = true →
      ∃ value, read (.error fault) = .ok value ∧ answers fault value) :
    Run.Logs Prod.fst ((Course.execute host command .awaited >>= fun answer =>
      Course.compute .passed (read answer)).traced hosts) (Awaited answers) := by
  intro (deeds, now)
  rcases executed : ((hosts host).recorded host).execute command ([], now) with
    ⟨given, exchanges, after⟩
  let deed := Deed.executed host command .awaited exchanges given
  have noted : (Course.execute host command .awaited).traced hosts (deeds, now) =
      (Handling.awaited.resolve given, (deeds ++ [deed], after)) := by
    simp only [Course.traced, notingCommand, executed, deed]
  rw [Course.traced_bind]
  cases given with
  | ok reply =>
      rw [Run.bind_apply_ok noted, Course.traced_compute]
      refine ⟨_, List.append_assoc deeds [deed] _, .plain _ _ ?_⟩
      exact List.forall_mem_cons.mpr ⟨rfl, List.forall_mem_singleton.mpr rfl⟩
  | error fault =>
      cases restarts : fault.mayBeRestart with
      | false =>
          rw [Handling.resolve_of_fault restarts] at noted
          rw [Run.bind_apply_error noted]
          exact ⟨[deed], rfl, .plain _ _ (by simp [deed, Deed.excused?, restarts])⟩
      | true =>
          rw [Handling.resolve_of_restart restarts] at noted
          obtain ⟨value, read, holds⟩ := reads fault restarts
          rw [Run.bind_apply_ok noted, Course.traced_compute, read]
          exact ⟨_, List.append_assoc deeds [deed] _, .excused [] deed _ fault _
            (List.forall_mem_nil _) (by simp [deed, Deed.excused?, restarts])
            (List.forall_mem_singleton.mpr rfl) fun _ => ⟨value, rfl, holds⟩⟩

end AwaitedCourses

end FleetPatch.Web
