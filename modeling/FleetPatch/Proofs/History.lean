import FleetPatch.Executor.Restart
import FleetPatch.Proofs.Logs

/-!
# Histories of transports

A recorded transport does what the host's own transport does and keeps a history
of every step with what came of it. The history of a command is short: the
command itself, behind a connection when there was none, or a connection that
does not come about.
-/

namespace FleetPatch

set_option autoImplicit false

inductive Exchange where
  | connect (outcome : Except Fault Unit)
  | execute (command : String) (outcome : Except Fault Reply)
  | close (outcome : Except Fault Unit)

/-- Steps in the order in which they were taken, each with the name of its host. -/
abbrev History := List (String × Exchange)

structure Execution where
  host : String
  command : String
  outcome : Except Fault Reply

def Exchange.execution? (host : String) : Exchange → Option Execution
  | .execute command outcome => some ⟨host, command, outcome⟩
  | .connect _ | .close _ => none

def Exchange.closed? : Exchange → Option (Except Fault Unit)
  | .close outcome => some outcome
  | .connect _ | .execute _ _ => none

def faultOf {α : Type} : Except Fault α → Option Fault
  | .error fault => some fault
  | .ok _ => none

theorem faultOf_eq_some {α : Type} {outcome : Except Fault α} {fault : Fault} :
    faultOf outcome = some fault ↔ outcome = .error fault := by
  cases outcome with
  | error cause => simp only [faultOf, Option.some.injEq, Except.error.injEq]
  | ok value => exact iff_of_false nofun nofun

def Exchange.fault? : Exchange → Option Fault
  | .connect outcome => faultOf outcome
  | .execute _ outcome => faultOf outcome
  | .close outcome => faultOf outcome

def Exchange.succeeded (exchange : Exchange) : Bool := exchange.fault?.isNone

def History.executions (history : History) : List Execution :=
  history.filterMap fun (host, exchange) => exchange.execution? host

theorem executions_append (first second : History) :
    History.executions (first ++ second) = first.executions ++ second.executions :=
  List.filterMap_append

def History.closings (history : History) : List (Except Fault Unit) :=
  history.filterMap fun (_, exchange) => exchange.closed?

theorem closings_append (first second : History) :
    History.closings (first ++ second) = first.closings ++ second.closings :=
  List.filterMap_append

variable {σ α : Type}

/-- A run whose outcome is appended to the history as a step of a host. -/
def recording (name : String) (exchange : Except Fault α → Exchange) (run : Run Fault σ α) :
    Run Fault (History × σ) α := fun (history, now) =>
  match run now with
  | (outcome, after) => (outcome, (history ++ [(name, exchange outcome)], after))

def Transport.recorded (name : String) (host : Transport σ) : Transport (History × σ) where
  connected := fun (_, now) => host.connected now
  connect := recording name .connect host.connect
  dispatch command := recording name (.execute command) (host.dispatch command)
  close := recording name .close host.close

abbrev Told (ε α : Type) := Run.Telling (String × Exchange) ε α

/-- A run over recorded transports that only appends to the history, and what it tells. -/
abbrev Records {ε : Type} (run : Run ε (History × σ) α) (told : Told ε α) : Prop :=
  Run.Logs Prod.fst run told

inductive Recorded (name : String) (exchange : Except Fault α → Exchange) : Told Fault α where
  | step (outcome : Except Fault α) : Recorded name exchange [(name, exchange outcome)] outcome

theorem records_recording (name : String) (exchange : Except Fault α → Exchange)
    (run : Run Fault σ α) : Records (recording name exchange run) (Recorded name exchange) := by
  intro (history, now)
  exact ⟨_, rfl, .step _⟩

inductive Executed (name command : String) : Told Fault Reply where
  | direct (answer : Except Fault Reply) :
      Executed name command [(name, .execute command answer)] answer
  | connected (answer : Except Fault Reply) :
      Executed name command [(name, .connect (.ok ())), (name, .execute command answer)] answer
  | unconnected (fault : Fault) :
      Executed name command [(name, .connect (.error fault))] (.error fault)

/-- What connecting on demand tells. -/
inductive Reached (name : String) : Told Fault Unit where
  | stands : Reached name [] (.ok ())
  | connected : Reached name [(name, .connect (.ok ()))] (.ok ())
  | unconnected (fault : Fault) : Reached name [(name, .connect (.error fault))] (.error fault)

theorem records_reach (name : String) (host : Transport σ) :
    Records (host.recorded name).reach (Reached name) := by
  intro pair
  cases stands : (host.recorded name).connected pair with
  | true =>
      rw [Transport.reach_of_connected stands]
      exact ⟨[], (List.append_nil _).symm, .stands⟩
  | false =>
      rw [Transport.reach_of_unconnected stands]
      refine (records_recording name .connect host.connect).mono ?_ pair
      intro entries outcome tells
      cases tells with
      | step =>
          cases outcome with
          | ok _ => exact .connected
          | error fault => exact .unconnected fault

theorem records_execute (name : String) (host : Transport σ) (command : String) :
    Records ((host.recorded name).execute command) (Executed name command) := by
  refine (Run.Logs.bind (records_reach name host) fun _ =>
    records_recording name (.execute command) (host.dispatch command)).mono ?_
  intro entries answer tells
  cases tells with
  | stopped _ fault reached =>
      cases reached with
      | unconnected => exact .unconnected fault
  | went _ _ _ _ reached dispatched =>
      cases dispatched with
      | step =>
          cases reached with
          | stands => exact .direct answer
          | connected => exact .connected answer

theorem Executed.executions_eq {name command : String} {exchanges : History}
    {answer : Except Fault Reply} (executed : Executed name command exchanges answer) :
    exchanges.executions = [⟨name, command, answer⟩] ∨
      exchanges.executions = [] ∧ ∃ fault, answer = .error fault := by
  cases executed with
  | direct => exact .inl rfl
  | connected => exact .inl rfl
  | unconnected fault => exact .inr ⟨rfl, fault, rfl⟩

/-- A command that was answered was dispatched. -/
theorem Executed.executions_of_ok {name command : String} {exchanges : History} {reply : Reply}
    (executed : Executed name command exchanges (.ok reply)) :
    exchanges.executions = [⟨name, command, .ok reply⟩] := by
  rcases executed.executions_eq with dispatched | ⟨_, _, failed⟩
  · exact dispatched
  · cases failed

theorem Executed.closings_eq {name command : String} {exchanges : History}
    {answer : Except Fault Reply} (executed : Executed name command exchanges answer) :
    exchanges.closings = [] := by
  cases executed <;> rfl

/-- Executing a command stays on its host and closes nothing. -/
theorem Executed.on_host {name command : String} {exchanges : History}
    {answer : Except Fault Reply} (executed : Executed name command exchanges answer) :
    ∀ entry ∈ exchanges, entry.1 = name ∧ entry.2.closed? = none := by
  intro entry member
  cases executed with
  | direct | unconnected =>
      rw [List.mem_singleton.mp member]
      exact ⟨rfl, rfl⟩
  | connected =>
      rcases List.mem_cons.mp member with first | second
      · rw [first]
        exact ⟨rfl, rfl⟩
      · rw [List.mem_singleton.mp second]
        exact ⟨rfl, rfl⟩

theorem Executed.answered {name command : String} {exchanges : History}
    {answer : Except Fault Reply} (executed : Executed name command exchanges answer)
    (succeeded : ∀ entry ∈ exchanges, entry.2.succeeded = true) : ∃ reply, answer = .ok reply := by
  cases answer with
  | ok reply => exact ⟨reply, rfl⟩
  | error fault =>
      exfalso
      cases executed with
      | direct | unconnected => cases succeeded _ List.mem_cons_self
      | connected => cases succeeded _ (List.mem_cons_of_mem _ List.mem_cons_self)

inductive Asked (name command : String) (read : Reply → Except Fault α) : Told Fault α where
  | answered (exchanges : History) (answer : Except Fault Reply)
      (executed : Executed name command exchanges answer) :
      Asked name command read exchanges (answer.bind read)

theorem Asked.of_error {name command : String} {read : Reply → Except Fault α}
    {exchanges : History} {fault : Fault}
    (asked : Asked name command read exchanges (.error fault)) :
    Executed name command exchanges (.error fault) ∨
      ∃ reply, Executed name command exchanges (.ok reply) ∧ read reply = .error fault := by
  generalize same : (Except.error fault : Except Fault α) = result at asked
  cases asked with
  | answered _ answer executed =>
      cases answer with
      | error cause =>
          cases Except.error.inj same
          exact .inl executed
      | ok reply => exact .inr ⟨reply, executed, rfl⟩

theorem Asked.of_ok {name command : String} {read : Reply → Except Fault α}
    {exchanges : History} {value : α} (asked : Asked name command read exchanges (.ok value)) :
    ∃ reply, Executed name command exchanges (.ok reply) ∧ read reply = .ok value := by
  generalize same : (Except.ok value : Except Fault α) = result at asked
  cases asked with
  | answered _ answer executed =>
      cases answer with
      | error cause => cases same
      | ok reply => exact ⟨reply, executed, rfl⟩

theorem records_ask (name : String) (host : Transport σ) (command : String)
    (read : Reply → Except Fault α) :
    Records ((host.recorded name).ask command read) (Asked name command read) := by
  refine (Run.Logs.bind (records_execute name host command) fun reply =>
    Run.logs_lift (read reply)).mono ?_
  intro entries outcome tells
  cases tells with
  | stopped _ fault executed => exact .answered _ _ executed
  | went _ _ reply _ executed quiet =>
      obtain ⟨rfl, rfl⟩ := quiet
      rw [List.append_nil]
      exact .answered _ _ executed

end FleetPatch
