import ServiceHost.Proofs.Http.Envelope
import ServiceHost.Proofs.Http.Router
import ServiceHost.Service.Basic

set_option autoImplicit false

namespace ServiceHost.Service

open Http

inductive Handles (gateways web : Router Handler) (request : Request) (handler : Handler) (captures : Captures) : Prop where
  | gateway (found : gateways.find request.method request.path = .served handler captures)
  | web (missed : ∀ route ∈ gateways, route.taken? request.path = none)
      (found : web.find request.method request.path = .served handler captures)

inductive Failing (gateways web : Router Handler) (request : Request) : Nat → String → Prop where
  | unrouted (free : ∀ route ∈ gateways ++ web, route.taken? request.path = none) :
      Failing gateways web request 404 "not found"
  | rejected (handler : Handler) (captures : Captures) (handles : Handles gateways web request handler captures)
      (response : Response) (message : String) (answered : handler { request, captures } = .answered response)
      (faulty : response.fault = some (.validation message)) : Failing gateways web request 400 message
  | broken (handler : Handler) (captures : Captures) (handles : Handles gateways web request handler captures)
      (response : Response) (message : String) (answered : handler { request, captures } = .answered response)
      (faulty : response.fault = some (.internal message)) : Failing gateways web request 500 message
  | panicked (handler : Handler) (captures : Captures) (handles : Handles gateways web request handler captures)
      (panic : Panic) (unwound : handler { request, captures } = .panicked panic) :
      Failing gateways web request 500 "internal server error"

theorem failing_status (gateways web : Router Handler) (request : Request) (status : Nat) (message : String)
    (failing : Failing gateways web request status message) : status = 404 ∨ status = 400 ∨ status = 500 := by
  cases failing <;> simp

theorem unknown_if_free (router : Router Handler) (request : Request)
    (free : ∀ route ∈ router, route.taken? request.path = none) : router.find request.method request.path = .unknown := by
  rcases router.find_cases request.method request.path with ⟨unknown, -⟩ | ⟨chosen, inside, captures, taken, -⟩
  · exact unknown
  · rw [free chosen inside] at taken
    cases taken

def dispatched (gateways web : Router Handler) (request : Request) : Outcome :=
  gateways.dispatch (fun call => web.dispatch Web.notFound call.request) request

theorem handled_outcome (gateways web : Router Handler) (request : Request) (handler : Handler) (captures : Captures)
    (handles : Handles gateways web request handler captures) :
    dispatched gateways web request = handler { request, captures } := by
  cases handles with
  | gateway found => rw [dispatched, Router.dispatch, found]
  | web missed found => rw [dispatched, Router.dispatch, unknown_if_free gateways request missed, Router.dispatch, found]

theorem failure_recovered (gateways web : Router Handler) (request : Request) (status : Nat) (message : String)
    (failing : Failing gateways web request status message) :
    Web.recover (requestId request.headers) (dispatched gateways web request) =
      errorResponse status message (requestId request.headers) := by
  cases failing with
  | unrouted free =>
      have outer := unknown_if_free gateways request fun route inside => free route (List.mem_append_left _ inside)
      have inner := unknown_if_free web request fun route inside => free route (List.mem_append_right _ inside)
      rw [dispatched, Router.dispatch, outer, Router.dispatch, inner]
      rfl
  | rejected handler captures handles response message answered faulty =>
      rw [handled_outcome gateways web request handler captures handles, answered, Web.recover, faulty]
      rfl
  | broken handler captures handles response message answered faulty =>
      rw [handled_outcome gateways web request handler captures handles, answered, Web.recover, faulty]
      rfl
  | panicked handler captures handles panic unwound =>
      rw [handled_outcome gateways web request handler captures handles, unwound]
      rfl

-- What a failed request is answered. The id is its own, or else the fresh one.
structure Reports (fresh : String) (request : Request) (status : Nat) (message : String) (response : Response) : Prop where
  coded : response.status = status
  labelled : response.headers.all requestIdHeader = [(request.headers.get? requestIdHeader).getD (Utf8.encode fresh)]
  bodiless : request.method = .head → response.body = []
  enveloped : request.method ≠ .head → ∃ requestId,
    ErrorBody.decode? response.body = some { status, message, requestId } ∧
      ((∀ given, request.headers.get? requestIdHeader = some given → given.all Headers.isVisible = true) →
        response.headers.all requestIdHeader = [Utf8.encode requestId])

theorem error_reports (identity : List UInt8) (fresh : String) (request : Request) (status : Nat) (message : String)
    (uuid : ∀ c ∈ fresh.toList, IsUuidChar c) (kind : status = 404 ∨ status = 400 ∨ status = 500) :
    Reports fresh request status message
      (((errorResponse status message (requestId (request.identified fresh).headers)).trim request.method).labelled
        (request.identified fresh) identity) := by
  have small : status < 65536 ∧ status / 100 ≠ 2 := by omega
  obtain ⟨coded, own, body⟩ := error_trimmed request.method status message (requestId (request.identified fresh).headers) small.2
  have kept := label_keeps (request.identified fresh) identity
    ((errorResponse status message (requestId (request.identified fresh).headers)).trim request.method)
  have carried := labelled_id (request.identified fresh) identity _ own
  rw [identified_id, Option.toList_some] at carried
  refine ⟨kept.1.trans coded, carried, fun head => ?_, fun other => ?_⟩
  · rw [kept.2, body, if_pos head]
  · refine ⟨requestId (request.identified fresh).headers, ?_, fun given => ?_⟩
    · rw [kept.2, body, if_neg other, error_decoded _ _ _ small.1]
    · have visible : ((request.headers.get? requestIdHeader).getD (Utf8.encode fresh)).all Headers.isVisible = true := by
        cases brought : request.headers.get? requestIdHeader with
        | none => exact fresh_visible fresh uuid
        | some id => exact given id brought
      obtain ⟨text, readable, spelt⟩ := visible_read _ visible
      rw [carried, requestId, identified_id, Option.bind_some, readable, Option.getD_some, spelt]

theorem failure_answered (surroundings : Surroundings) (stopping : Bool) (service : Service) (gateways web : Router Handler)
    (fresh : String) (request : Request) (status : Nat) (message : String)
    (outer : (service.rpcServices stopping).gatewayRouter? = some gateways)
    (inner : service.webRouter? surroundings = some web)
    (failing : Failing gateways web (request.identified fresh) status message) :
    ∃ plane, service.webPlane? surroundings stopping = some plane ∧ plane fresh request =
      ((errorResponse status message (requestId (request.identified fresh).headers)).trim request.method).labelled
        (request.identified fresh) service.identity := by
  have app : service.webApp? surroundings stopping = some fun request =>
      (Web.recover (requestId request.headers) (dispatched gateways web request)).trim request.method := by
    rw [webApp?, outer, inner]
    rfl
  refine ⟨labelled service.identity _, by rw [webPlane?, app, Option.map_some], ?_⟩
  rw [labelled, failure_recovered gateways web _ status message failing, identified_method]

theorem failures_carry_their_id (surroundings : Surroundings) (stopping : Bool) (service : Service)
    (gateways web : Router Handler) (fresh : String) (request : Request) (status : Nat) (message : String)
    (outer : (service.rpcServices stopping).gatewayRouter? = some gateways)
    (inner : service.webRouter? surroundings = some web)
    (uuid : ∀ c ∈ fresh.toList, IsUuidChar c)
    (failing : Failing gateways web (request.identified fresh) status message) :
    ∃ plane, service.webPlane? surroundings stopping = some plane ∧
      Reports fresh request status message (plane fresh request) := by
  obtain ⟨plane, built, answered⟩ :=
    failure_answered surroundings stopping service gateways web fresh request status message outer inner failing
  refine ⟨plane, built, ?_⟩
  rw [answered]
  exact error_reports service.identity fresh request status message uuid (failing_status _ _ _ _ _ failing)

def refusal : Handler := fun _ => .answered (Fault.validation "bad input").response

def rejecting : Service where
  settings := { observability := { metricsEnabled := false } }
  web := [{ pattern := [.literal "reject".toList], accepts := .get, handler := refusal }]

def here : Surroundings := { own := .v4 .loopback, nanos := 0 }

def rejectingRouter : Router Handler :=
  rejecting.web ++ HealthReport.routes { service := "", version := "", pid := 0 }

def uuid : String := "8c7e1f60-52b1-4c3e-9a1d-0f6b7a5e4d21"

theorem uuid_chars : ∀ c ∈ uuid.toList, IsUuidChar c := by
  simp [uuid, IsUuidChar]

def asking (method : Method) (id : List UInt8) : Request :=
  { method, path := "/reject", headers := [(requestIdHeader, id)] }

theorem rejecting_gateways : (rejecting.rpcServices false).gatewayRouter? = some [] := rfl

theorem rejecting_routes : rejecting.webRouter? here = some rejectingRouter := rfl

theorem asking_id (method : Method) (id : List UInt8) : (asking method id).headers.get? requestIdHeader = some id := by
  simp [asking, Headers.get?]

theorem rejecting_fails (method : Method) (id : List UInt8) (served : method = .get ∨ method = .head) :
    Failing [] rejectingRouter ((asking method id).identified uuid) 400 "bad input" := by
  have own : (asking method id).identified uuid = asking method id := by simp [Request.identified, asking_id]
  have found : rejectingRouter.find method "/reject" = .served refusal [] := by
    rcases served with rfl | rfl <;> rfl
  rw [own]
  exact .rejected _ _ (.web (List.forall_mem_nil _) found) _ _ rfl rfl

theorem rejection_carries_its_id :
    ∃ plane, rejecting.webPlane? here false = some plane ∧
      Reports uuid (asking .get [0x72, 0x31]) 400 "bad input" (plane uuid (asking .get [0x72, 0x31])) :=
  failures_carry_their_id here false rejecting [] rejectingRouter uuid (asking .get [0x72, 0x31]) 400 "bad input"
    rejecting_gateways rejecting_routes uuid_chars (rejecting_fails .get _ (.inl rfl))

def AlwaysEnveloped (among : Request → Prop) : Prop :=
  ∀ (surroundings : Surroundings) (stopping : Bool) (service : Service) (gateways web : Router Handler)
    (plane : String → Request → Response) (fresh : String) (request : Request) (status : Nat) (message : String),
    (service.rpcServices stopping).gatewayRouter? = some gateways → service.webRouter? surroundings = some web →
    service.webPlane? surroundings stopping = some plane → (∀ c ∈ fresh.toList, IsUuidChar c) →
    among request → Failing gateways web (request.identified fresh) status message → ∃ requestId,
      ErrorBody.decode? (plane fresh request).body = some { status, message, requestId } ∧
        (plane fresh request).headers.all requestIdHeader = [Utf8.encode requestId]

theorem rejecting_answers (method : Method) (id : List UInt8) (served : method = .get ∨ method = .head) :
    ∃ plane, rejecting.webPlane? here false = some plane ∧
      (plane uuid (asking method id)).headers.all requestIdHeader = [id] ∧
      ErrorBody.decode? (plane uuid (asking method id)).body = if method = .head then none
        else some { status := 400, message := "bad input", requestId := (Headers.readable? id).getD "unknown" } := by
  obtain ⟨plane, built, answered⟩ := failure_answered here false rejecting [] rejectingRouter uuid (asking method id) 400
    "bad input" rejecting_gateways rejecting_routes (rejecting_fails method id served)
  have brought : ((asking method id).identified uuid).headers.get? requestIdHeader = some id := by
    rw [identified_id, asking_id, Option.getD_some]
  have named : requestId ((asking method id).identified uuid).headers = (Headers.readable? id).getD "unknown" := by
    rw [requestId, brought, Option.bind_some]
  have asked : (asking method id).method = method := rfl
  rw [named, asked] at answered
  obtain ⟨-, own, body⟩ := error_trimmed method 400 "bad input" ((Headers.readable? id).getD "unknown") (by decide)
  refine ⟨plane, built, ?_, ?_⟩
  · rw [answered, labelled_id _ _ _ own, brought, Option.toList_some]
  · rw [answered, (label_keeps _ _ _).2, body]
    split
    · rfl
    · exact error_decoded _ _ _ (by decide)

-- A response to HEAD has no body, and bytes that are no text are not written in one.
theorem head_and_unreadable_ids_excepted :
    ¬AlwaysEnveloped (fun request => ∀ given, request.headers.get? requestIdHeader = some given →
        given.all Headers.isVisible = true) ∧
      ¬AlwaysEnveloped fun request => request.method ≠ .head := by
  constructor
  · intro always
    obtain ⟨plane, built, -, body⟩ := rejecting_answers .head [0x72, 0x31] (.inr rfl)
    obtain ⟨_, enveloped, -⟩ := always here false rejecting [] rejectingRouter plane uuid (asking .head [0x72, 0x31]) 400
      "bad input" rejecting_gateways rejecting_routes built uuid_chars
      (fun given brought => by rw [asking_id] at brought; cases brought; decide) (rejecting_fails .head _ (.inr rfl))
    rw [body] at enveloped
    cases enveloped
  · intro always
    obtain ⟨plane, built, carried, body⟩ := rejecting_answers .get [0xC3, 0xA9] (.inl rfl)
    obtain ⟨named, enveloped, same⟩ := always here false rejecting [] rejectingRouter plane uuid (asking .get [0xC3, 0xA9]) 400
      "bad input" rejecting_gateways rejecting_routes built uuid_chars nofun (rejecting_fails .get _ (.inl rfl))
    rw [body] at enveloped
    cases enveloped
    rw [carried] at same
    exact absurd same (by decide +kernel)

end ServiceHost.Service
