import FleetPatch.Proofs.Steps

/-!
# Requests, their answers and their histories

What a request tells follows from the resource it is led to. A request that is led
to none sends nothing, one that reads only observes, and one that changes tells
what its resource does.
-/

namespace FleetPatch.Web

set_option autoImplicit false

variable {σ : Type}

def Request.route (request : Request) : Route :=
  Route.ofRequest request.method request.target.path

/-- The response as it is sent, which may be asked for without its body. -/
def Response.sent (withBody : Bool) (response : Response) : Response :=
  if withBody then response else response.headOnly

def Route.changes? : Route → Option String
  | .serve (.installation name) _ | .serve (.upgrade name) _ | .serve (.reboot name) _ => some name
  | _ => none

theorem ofMethod_of_change {method : String} {resource served : Resource} {withBody : Bool}
    (led : Route.ofMethod method resource = .serve served withBody)
    (changes : served.access = .change) : method = "POST" ∧ withBody = true := by
  simp only [Route.ofMethod] at led
  by_cases options : method = "OPTIONS"
  · rw [if_pos options] at led
    cases led
  rw [if_neg options] at led
  cases accessed : resource.access with
  | read =>
      simp only [accessed] at led
      split at led
      · cases led
        rw [accessed] at changes
        cases changes
      · split at led
        · cases led
          rw [accessed] at changes
          cases changes
        · cases led
  | change =>
      simp only [accessed] at led
      split at led
      next post =>
          cases led
          exact ⟨post, rfl⟩
      · cases led

theorem exists_of_serve {method path : String} {served : Resource} {withBody : Bool}
    (led : Route.ofRequest method path = .serve served withBody) :
    ∃ resource, Route.ofMethod method resource = .serve served withBody := by
  simp only [Route.ofRequest] at led
  cases found : Resource.ofPath? path.toList with
  | none =>
      simp only [found, Option.map_none, Option.getD_none] at led
      split at led <;> cases led
  | some resource =>
      refine ⟨resource, ?_⟩
      simp only [found, Option.map_some, Option.getD_some] at led
      cases reached : Route.ofMethod method resource with
      | notAllowed =>
          simp only [reached] at led
          split at led <;> cases led
      | serve other body =>
          simp only [reached] at led
          exact led
      | tellMethods | moved | notFound =>
          simp only [reached] at led
          cases led

theorem post_of_change {method path : String} {resource : Resource} {withBody : Bool}
    (led : Route.ofRequest method path = .serve resource withBody)
    (changes : resource.access = .change) : method = "POST" ∧ withBody = true := by
  obtain ⟨_, reached⟩ := exists_of_serve led
  exact ofMethod_of_change reached changes

namespace Service

variable (service : Service σ)

def response (request : Request) (now : σ) : Response := (respond service request now).1

/-- The history of a request, which is kept by recorded transports. -/
def history (request : Request) (now : σ) : History :=
  (respond service.recorded request ([], now)).2.1

end Service

variable (service : Service σ)

inductive RequestTold (request : Request) : History → Response → Prop where
  | observed (history : History) (response : Response) (unchanging : request.route.changes? = none)
      (observed : ∀ entry ∈ history, Observes entry) : RequestTold request history response
  | installation (name : String) (history : History) (outcome : Except Failure Json)
      (led : request.route = .serve (.installation name) true)
      (told : InstallationTold service name request.body history outcome) :
      RequestTold request history (.ofOutcome outcome)
  | upgrade (name : String) (history : History) (outcome : Except Failure Json)
      (led : request.route = .serve (.upgrade name) true)
      (told : UpgradeTold service name request.body history outcome) :
      RequestTold request history (.ofOutcome outcome)
  | reboot (name : String) (history : History) (outcome : Except Failure Json)
      (led : request.route = .serve (.reboot name) true)
      (told : RebootTold service name history outcome) :
      RequestTold request history (.ofOutcome outcome)

theorem respond_snd_of_serve {request : Request} {resource : Resource} {withBody : Bool}
    (led : request.route = .serve resource withBody) (now : σ) :
    (respond service request now).2 = (serve service resource request now).2 := by
  have reached : Route.ofRequest request.method request.target.path =
      .serve resource withBody := led
  simp only [respond, reached]
  cases resource <;> rfl

theorem respond_fst {request : Request} {resource : Resource} {withBody : Bool}
    (led : request.route = .serve resource withBody) (served : resource ≠ .file) (now : σ) :
    (respond service request now).1 =
      (Response.ofOutcome (serve service resource request now).1).sent withBody := by
  have reached : Route.ofRequest request.method request.target.path =
      .serve resource withBody := led
  simp only [respond, reached]
  cases resource <;> first | exact absurd rfl served | rfl

theorem respond_fst_of_serve {request : Request} {resource : Resource}
    (led : request.route = .serve resource true) (served : resource ≠ .file) (now : σ) :
    (respond service request now).1 = .ofOutcome (serve service resource request now).1 :=
  respond_fst service led served now

theorem respond_snd_of_unserved {request : Request}
    (led : ∀ resource withBody, request.route ≠ .serve resource withBody) (now : σ) :
    (respond service request now).2 = now := by
  cases reached : Route.ofRequest request.method request.target.path with
  | serve resource withBody => exact absurd reached (led resource withBody)
  | tellMethods | moved | notAllowed | notFound => simp only [respond, reached]

theorem keeps_anything (name : String) (host : Transport σ) :
    Keeps (fun _ => True) (fun _ => True) name host where
  connects _ := trivial
  executes _ _ _ := trivial
  closes _ := trivial

/-- Keeping a history changes neither the response nor what becomes of the hosts. -/
theorem respond_recorded (request : Request) (history : History) (now : σ) :
    respond service request now =
      ((respond service.recorded request (history, now)).1,
        (respond service.recorded request (history, now)).2.2) := by
  have same (resource : Resource) :=
    (steps_of_request (fun name => keeps_anything name (service.hosts name)) (fun _ => trivial)
      resource request).same (history, now)
  cases reached : Route.ofRequest request.method request.target.path with
  | serve resource withBody => cases resource <;> simp only [respond, reached, same]
  | tellMethods | moved | notAllowed | notFound => simp only [respond, reached]

theorem told_of_serve {request : Request} {resource : Resource} {told : Told Failure Json}
    (led : request.route = .serve resource true) (served : resource ≠ .file)
    (records : Records (serve service.recorded resource request) told) (now : σ) :
    ∃ outcome, told (service.history request now) outcome ∧
      service.response request now = .ofOutcome outcome := by
  obtain ⟨exchanges, appended, tells⟩ := records ([], now)
  refine ⟨(serve service.recorded resource request ([], now)).1, ?_, ?_⟩
  · rw [Service.history, respond_snd_of_serve service.recorded led, appended]
    exact tells
  · rw [Service.response, respond_recorded service request [] now]
    exact respond_fst_of_serve service.recorded led served _

theorem observed_of_read {request : Request} {resource : Resource} {withBody : Bool}
    (led : request.route = .serve resource withBody) (reads : resource.access = .read) (now : σ) :
    ∀ entry ∈ service.history request now, Observes entry := by
  obtain ⟨exchanges, appended, tells⟩ := (serve_observes service reads request).logs ([], now)
  rw [Service.history, respond_snd_of_serve service.recorded led, appended]
  exact tells

theorem request_told (request : Request) (now : σ) :
    RequestTold service request (service.history request now) (service.response request now) := by
  cases led : request.route with
  | serve resource withBody =>
      cases accessed : resource.access with
      | read =>
          refine .observed _ _ ?_ (observed_of_read service led accessed now)
          rw [led]
          cases resource <;> first | rfl | cases accessed
      | change =>
          obtain ⟨_, rfl⟩ := post_of_change led accessed
          cases resource with
          | installation name =>
              obtain ⟨outcome, told, answered⟩ := told_of_serve service led nofun
                (records_installUpdates service name request.body) now
              rw [answered]
              exact .installation name _ outcome led told
          | upgrade name =>
              obtain ⟨outcome, told, answered⟩ := told_of_serve service led nofun
                (records_upgradePackages service name request.body) now
              rw [answered]
              exact .upgrade name _ outcome led told
          | reboot name =>
              obtain ⟨outcome, told, answered⟩ := told_of_serve service led nofun
                (records_rebootAsset service name) now
              rw [answered]
              exact .reboot name _ outcome led told
          | _ => cases accessed
  | tellMethods | moved | notAllowed | notFound =>
      refine .observed _ _ (by rw [led]; rfl) ?_
      rw [Service.history, respond_snd_of_unserved service.recorded (fun _ _ reached => ?_)]
      · exact fun _ member => nomatch member
      · rw [led] at reached
        cases reached

theorem history_steps {P : String × Exchange → Prop}
    (keeps : ∀ name, Keeps P (fun _ => True) name (service.hosts name)) (request : Request)
    (now : σ) : ∀ entry ∈ service.history request now, P entry := by
  cases led : request.route with
  | serve resource withBody =>
      obtain ⟨exchanges, appended, holds⟩ :=
        (steps_of_request keeps (fun _ => trivial) resource request).logs ([], now)
      rw [Service.history, respond_snd_of_serve service.recorded led, appended]
      exact holds
  | tellMethods | moved | notAllowed | notFound =>
      rw [Service.history, respond_snd_of_unserved service.recorded (fun _ _ reached => ?_)]
      · exact fun _ member => nomatch member
      · rw [led] at reached
        cases reached

end FleetPatch.Web
