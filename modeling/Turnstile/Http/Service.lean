import Turnstile.Health
import Turnstile.Http.ContentType
import Turnstile.Http.Endpoint
import Turnstile.Http.Operation
import Turnstile.Http.Response
import Turnstile.Shop.Policies

/-!
The service: what it answers to a request. A request for a guarded operation is accepted first,
which ends it or leaves a lease, and is settled when its operation has ended.
-/

namespace Turnstile.Http

/-- A request. -/
structure Request where
  method : String
  target : String
  headers : Headers
  body : String

/-- A service: a guard, its settings, and whether its measures are exposed. -/
structure Service (σ : Type) where
  guard : Guard σ
  settings : Settings
  exposesMeasures : Bool

/-- What a request may read of the service: the counters and the measures so far. -/
structure Readings where
  counters : Counters
  measures : List Measure
  uptimeSeconds : Nat

/-- A request that waits for its operation: the lease, the operation and how long it takes. -/
structure Held where
  lease : Lease
  window : Span
  operation : Operation
  delayMillis : Nat

/-- What becomes of a request: it is answered, possibly after the store did not answer a probe; it
waits for its operation; or it breaks off. -/
inductive Acceptance
  | answered (response : Response) (probeTimedOut : Bool)
  | held (held : Held)
  | brokenOff (message : String)

namespace Service

variable {σ : Type}

/-! ## Bodies -/

/-- Whether the value of a header names a kind of content that is JSON. -/
def isJsonType (value : String) : Bool := (ContentType.read? value).any (·.isJson)

/-- The greatest number of bytes of a body. -/
def bodyLimit : Nat := 2097152

/-- Reads the body of a request, or answers why it cannot be read. -/
def readBody {α : Type} (decode : Json.Decoder α) (r : Request) : Except Response α :=
  if ((r.headers.find? "content-type").bind Headers.asText?).any isJsonType then
    if bodyLimit < r.body.utf8ByteSize then
      .error (.of 413 (.text "Failed to buffer the request body"))
    else match decode.decodeStart r.body with
    | .ok a => .ok a
    | .error .malformed =>
      .error (.of 400 (.text "Failed to parse the request body as JSON"))
    | .error .mismatch =>
      .error (.of 422 (.text "Failed to deserialize the JSON body into the target type"))
  else .error (.of 415 (.text "Expected request with `Content-Type: application/json`"))

/-- Reads the body of a request and checks its rules. -/
def readValid {α : Type} (decode : Json.Decoder α) (violations : α → List Shop.Violation)
    (now : Instant) (r : Request) : Except Response α :=
  (readBody decode r).bind fun a =>
    let broken := violations a
    if broken.isEmpty then .ok a else .error (.error 400 (.validation now broken))

/-! ## Guarded operations -/

/-- The extractor of the configured header. -/
def headerExtractor (s : Service σ) : Extractor := .header s.settings.guards.keyHeader

/-- The extractor for vouchers: the header, and then the voucher with its user. -/
def voucherExtractor (s : Service σ) : Extractor :=
  .firstOf [s.headerExtractor, .fields ["voucherCode", "userId"] Extractor.defaultSeparator]

/-- The policies of the operations. -/
def policies (s : Service σ) : Shop.Policies := .of s.settings.guards

/-- Opens the call of a guarded operation. -/
def openOperation (s : Service σ) (policy : Policy) (extractor : Extractor) (r : Request)
    (body : Option Json) (operation : Operation) (delayMillis : Nat) (state : σ) (m : Moment) :
    Traced σ Acceptance :=
  let bypass := r.headers.isTrue s.settings.guards.replayHeader
  let t := s.guard.openRequest policy extractor ⟨r.headers, body⟩ bypass state m
  match t.value with
  | .running lease =>
    ⟨t.state, t.effects, .held ⟨lease, policy.window, operation, delayMillis⟩⟩
  | .brokenOff message => ⟨t.state, t.effects, .brokenOff message⟩
  | .ended result =>
    let (effects, response) := Response.ofResult m.now (result.mapError .refused)
    ⟨t.state, t.effects ++ effects, .answered response false⟩

/-- The request of a payment. -/
def validPayment (now : Instant) (r : Request) : Except Response Shop.PaymentRequest :=
  readValid Shop.PaymentRequest.decoder (·.violations) now r

/-- Accepts a request for a guarded operation, or answers why it cannot be read. -/
def acceptOperation (s : Service σ) (endpoint : Endpoint) (r : Request) (state : σ) (m : Moment) :
    Except Response (Traced σ Acceptance) :=
  let policies := s.policies
  let header := s.headerExtractor
  match endpoint with
  | .payments =>
    (validPayment m.now r).map fun body =>
      s.openOperation policies.payments header r none (.payment body) 0 state m
  | .slowPayments =>
    (validPayment m.now r).map fun body =>
      s.openOperation policies.slowPayments header r none (.payment body)
        s.settings.application.slowOperationMs state m
  | .refunds =>
    (readValid Shop.RefundRequest.decoder (·.violations) m.now r).map fun body =>
      s.openOperation policies.refunds header r none (.refund body) 0 state m
  | .orders =>
    (readValid Shop.OrderRequest.decoder (·.violations) m.now r).map fun body =>
      s.openOperation policies.orders header r none (.order body) 0 state m
  | .order segment =>
    match Text.percentDecode? segment with
    | none => .error (.of 400 (.text "Invalid URL"))
    | some orderId =>
      .ok (s.openOperation policies.cancellations header r none (.cancellation orderId) 0 state m)
  | .subscriptions =>
    (readValid Shop.SubscribeRequest.decoder (·.violations) m.now r).map fun body =>
      s.openOperation policies.subscriptions header r none (.subscription body) 0 state m
  | .vouchers =>
    (readValid Shop.VoucherRequest.decoder (·.violations) m.now r).map fun body =>
      s.openOperation policies.vouchers s.voucherExtractor r (some body.toJson) (.redemption body) 0
        state m
  | _ => .error (.of 404 .empty)

/-! ## Plain endpoints -/

/-- Probes the store. -/
def probe (s : Service σ) (state : σ) : Traced σ (DependencyHealth × Bool) :=
  let step := s.guard.store.ping state
  let silent := match step.result with
    | .done .silent => true
    | _ => false
  ⟨step.state, step.effects, (storeHealth s.guard.store.backend step.result, silent)⟩

/-- The response of a health endpoint. -/
def healthResponse (readings : Readings) (now : Instant) (store : DependencyHealth) : Response :=
  let health := ServiceHealth.of serviceVersion readings.uptimeSeconds [store]
  .of (if health.status = .unhealthy then 503 else 200) (.json (HealthReport.toJson ⟨health, now⟩))

/-- The response of the readiness endpoint: a slow store is good enough. -/
def readyResponse (store : DependencyHealth) : Response :=
  .of (if store.status = .unhealthy then 503 else 200) .empty

/-- The response of the exposition endpoint; nothing is exposed before anything was counted. -/
def metricsResponse (s : Service σ) (readings : Readings) : Response :=
  if s.exposesMeasures then .of 200 (.series (Measure.totals readings.measures))
  else .of 503 (.text "Metrics not initialized")

/-- Accepts a request for an endpoint that has its method. -/
def acceptAt (s : Service σ) (endpoint : Endpoint) (r : Request) (readings : Readings) (state : σ)
    (m : Moment) : Traced σ Acceptance :=
  match endpoint with
  | .health =>
    let t := s.probe state
    ⟨t.state, t.effects, .answered (healthResponse readings m.now t.value.1) t.value.2⟩
  | .ready =>
    let t := s.probe state
    ⟨t.state, t.effects, .answered (readyResponse t.value.1) t.value.2⟩
  | .live => ⟨state, [], .answered (.of 200 .empty) false⟩
  | .metrics => ⟨state, [], .answered (s.metricsResponse readings) false⟩
  | .stats => ⟨state, [], .answered (.of 200 (.json readings.counters.toJson)) false⟩
  | endpoint =>
    match s.acceptOperation endpoint r state m with
    | .ok t => t
    | .error response => ⟨state, [], .answered response false⟩

/-- Accepts a request. -/
def accept (s : Service σ) (r : Request) (readings : Readings) (state : σ) (m : Moment) :
    Traced σ Acceptance :=
  match Endpoint.ofTarget? r.target with
  | none => ⟨state, [], .answered (.of 404 .empty) false⟩
  | some endpoint =>
    if endpoint.methods.contains r.method then
      let t := s.acceptAt endpoint r readings state m
      match t.value with
      | .answered response timedOut =>
        if r.method = "HEAD" then { t with value := .answered response.withoutBody timedOut } else t
      | _ => t
    else ⟨state, [], .answered (.methodNotAllowed endpoint.methods) false⟩

/-- What is counted of a request once it is answered. -/
def counted (r : Request) (response : Response) : List Effect :=
  match Endpoint.ofTarget? r.target with
  | some endpoint => [.measure (.http r.method endpoint.label response.status)]
  | none => []

/-- Settles a request whose operation ends now. -/
def settle (s : Service σ) (held : Held) (state : σ) (m : Moment) : Traced σ Response :=
  let (notices, ending) := held.operation.perform m.fresh m.now
  let t := s.guard.finish held.lease held.window ending state m.now
  let (effects, response) := Response.ofResult m.now t.value
  ⟨t.state, notices ++ t.effects ++ effects, response⟩

/-- The identifier of a request: the one that it brings along, if it does. -/
def requestId? (r : Request) : Option String := r.headers.find? "x-request-id"

end Service

end Turnstile.Http
