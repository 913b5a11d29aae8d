import FleetPatch.Proofs.History
import FleetPatch.Web.Respond

/-!
# Histories of requests

A request works on hosts through visits: the transport to an asset is connected,
something is done over it, and it is closed on every path. A change is done
behind a check whose reply cleared it.
-/

namespace FleetPatch.Web

set_option autoImplicit false

variable {σ α β : Type}

def Service.recorded (service : Service σ) : Service (History × σ) where
  inventory := service.inventory
  resolver := service.resolver
  hosts name := (service.hosts name).recorded name
  now := service.now

theorem recorded_inventory (service : Service σ) :
    service.recorded.inventory = service.inventory := rfl

theorem findAsset_congr {τ : Type} {service : Service σ} {other : Service τ}
    (same : other.inventory = service.inventory) (name : String) :
    other.findAsset name = service.findAsset name := by
  rw [Service.findAsset, Service.findAsset, same]

/-- The outcome of a visit, which a fault of closing replaces. -/
def afterClosing (closed : Except Fault Unit) (outcome : Except Failure α) : Except Failure α :=
  (computing closed).bind fun _ => outcome

inductive Visited (host : String) (work : Told Failure α) : Told Failure α where
  | unconnected (fault : Fault) (closed : Except Fault Unit) :
      Visited host work [(host, .connect (.error fault)), (host, .close closed)]
        (afterClosing closed (.error (.fault fault)))
  | worked (exchanges : History) (outcome : Except Failure α) (closed : Except Fault Unit)
      (told : work exchanges outcome) :
      Visited host work ((host, .connect (.ok ())) :: exchanges ++ [(host, .close closed)])
        (afterClosing closed outcome)

theorem afterClosing_eq_ok {closed : Except Fault Unit} {outcome : Except Failure α} {value : α} :
    afterClosing closed outcome = .ok value ↔ closed = .ok () ∧ outcome = .ok value := by
  cases closed with
  | error fault => exact iff_of_false nofun fun answered => nomatch answered.1
  | ok _ => exact (and_iff_right rfl).symm

theorem executions_visit (host : String) (work : History) (closed : Except Fault Unit) :
    History.executions ((host, .connect (.ok ())) :: work ++ [(host, .close closed)]) =
      work.executions := by
  rw [executions_append]
  exact List.append_nil _

theorem closings_visit (host : String) (work : History) (closed : Except Fault Unit) :
    History.closings ((host, .connect (.ok ())) :: work ++ [(host, .close closed)]) =
      work.closings ++ [closed] := by
  rw [closings_append]
  rfl

theorem succeeded_visit_iff {host : String} {work : History} {closed : Except Fault Unit} :
    (∀ entry ∈ (host, Exchange.connect (.ok ())) :: work ++ [(host, .close closed)],
      entry.2.succeeded = true) ↔
      (∀ entry ∈ work, entry.2.succeeded = true) ∧ closed = .ok () := by
  have connects : (Exchange.connect (.ok ())).succeeded = true := rfl
  have closes : (Exchange.close closed).succeeded = true ↔ closed = .ok () := by
    cases closed with
    | error fault => exact iff_of_false nofun nofun
    | ok _ => exact iff_of_true rfl rfl
  simp [or_imp, forall_and, connects, closes]

/-- Connecting a recorded transport, working and closing it is a visit. -/
theorem records_visit (name : String) (host : Transport σ) {work : Step (History × σ) α}
    {told : Told Failure α} (works : Records work told) :
    Records (Run.ensuring (do
      onHosts (host.recorded name).connect
      work) (onHosts (host.recorded name).close)) (Visited name told) := by
  have connects := records_recording name .connect host.connect
  have closes := records_recording name .close host.close
  refine (Run.Logs.ensuring (Run.Logs.bind (connects.mapFault .fault) fun _ => works)
    (closes.mapFault .fault)).mono ?_
  intro exchanges outcome tells
  cases tells with
  | ended earlier later result _ first last =>
      -- A visit is read from its end: it is closed whatever came before.
      cases last with
      | changed _ closed closing =>
          cases closing with
          | step =>
              cases first with
              | stopped _ failure connecting =>
                  obtain ⟨fault, connected, rfl⟩ := connecting.of_error
                  cases connected with
                  | step => exact .unconnected fault closed
              | went _ inner _ _ connecting worked =>
                  cases connecting.of_ok with
                  | step => exact .worked inner _ closed worked

theorem records_withTransport (service : Service σ) (asset : Asset)
    (work : Transport (History × σ) → Step (History × σ) α) {told : Told Failure α}
    (works : Records (work (service.recorded.hosts asset.hostname.text)) told) :
    Records (service.recorded.withTransport asset work)
      (.given (service.endpoint asset) fun _ => Visited asset.hostname.text told) := by
  apply Run.logs_given
  intro _ _
  exact records_visit asset.hostname.text (service.hosts asset.hostname.text) works

/-- Whether the reply to a check lets an action go on. -/
def cleared (ecosystem : Ecosystem) (asset : Asset) (action : String) (reply : Reply) :
    Except Fault Unit := do
  let pending ← ecosystem.pendingOf reply
  (Guard.clearance asset action pending).outcome

/-- What a change under the guard tells: it is ordered and done only behind a check that was
answered and cleared it. -/
inductive Guarded (host : String) (ecosystem : Ecosystem) (asset : Asset) (action : String)
    (order : Except Failure String) (read : Reply → Except Fault α) : Told Failure α where
  | unchecked (exchanges : History) (fault : Fault)
      (checked : Executed host ecosystem.rebootCheck exchanges (.error fault)) :
      Guarded host ecosystem asset action order read exchanges (.error (.fault fault))
  | refused (exchanges : History) (reply : Reply) (fault : Fault)
      (checked : Executed host ecosystem.rebootCheck exchanges (.ok reply))
      (refusal : cleared ecosystem asset action reply = .error fault) :
      Guarded host ecosystem asset action order read exchanges (.error (.fault fault))
  | unordered (exchanges : History) (reply : Reply) (failure : Failure)
      (checked : Executed host ecosystem.rebootCheck exchanges (.ok reply))
      (clear : cleared ecosystem asset action reply = .ok ()) (none : order = .error failure) :
      Guarded host ecosystem asset action order read exchanges (.error failure)
  | changed (earlier later : History) (reply : Reply) (command : String)
      (answer : Except Fault Reply)
      (checked : Executed host ecosystem.rebootCheck earlier (.ok reply))
      (clear : cleared ecosystem asset action reply = .ok ()) (ordered : order = .ok command)
      (executed : Executed host command later answer) :
      Guarded host ecosystem asset action order read (earlier ++ later)
        ((answer.bind read).mapError changeFailure)

theorem check_of_unprotected {asset : Asset} (unprotected : asset.deepFreeze = false)
    (action : String) (ask : Run Fault σ Bool) :
    Guard.check asset action (some ask) =
      ask >>= fun pending => pure (Guard.clearance asset action pending) := by
  simp only [Guard.check, Guard.protection, unprotected, Bool.false_eq_true, if_false]

theorem enforce_of_unprotected {asset : Asset} (unprotected : asset.deepFreeze = false)
    (action : String) (ecosystem : Ecosystem) (host : Transport σ) :
    Guard.enforce asset action (some (ecosystem.rebootRequired host)) =
      host.ask ecosystem.rebootCheck (cleared ecosystem asset action) := by
  rw [Guard.enforce, check_of_unprotected unprotected, ecosystem.rebootRequired_eq_ask]
  simp only [Transport.ask, bind_assoc, pure_bind]
  congr 1
  funext reply now
  simp only [cleared]
  cases ecosystem.pendingOf reply <;> rfl

theorem records_guarded {service : Service σ} {host : String} {asset : Asset} {action : String}
    (ecosystem : Ecosystem) {order : Except Failure String} {read : Reply → Except Fault α}
    {change : Step (History × σ) α} (unprotected : asset.deepFreeze = false)
    (changes : Records change (.given order fun command =>
      (Asked host command read).mapFault changeFailure)) :
    Records (do
      onHosts (Guard.enforce asset action
        (some (ecosystem.rebootRequired (service.recorded.hosts host))))
      change) (Guarded host ecosystem asset action order read) := by
  rw [enforce_of_unprotected unprotected]
  have checks := records_ask host (service.hosts host) ecosystem.rebootCheck
    (cleared ecosystem asset action)
  apply (Run.Logs.bind (checks.mapFault .fault) fun _ => changes).mono
  intro exchanges outcome tells
  cases tells with
  | stopped _ failure checking =>
      obtain ⟨fault, asked, rfl⟩ := checking.of_error
      rcases asked.of_error with unanswered | ⟨reply, checked, refusal⟩
      · exact .unchecked _ fault unanswered
      · exact .refused _ reply fault checked refusal
  | went earlier later _ _ checking changing =>
      obtain ⟨reply, checked, clear⟩ := checking.of_ok.of_ok
      cases order with
      | error failure =>
          obtain ⟨rfl, rfl⟩ := changing
          rw [List.append_nil]
          exact .unordered _ reply failure checked clear rfl
      | ok command =>
          cases changing with
          | changed _ _ asked =>
              cases asked with
              | answered _ answer executed =>
                  exact .changed _ _ reply command answer checked clear rfl executed

end FleetPatch.Web
