import PayOnce.Http.ErrorBody
import PayOnce.Http.Intake
import PayOnce.Http.Route
import PayOnce.Service.Initiation
import PayOnce.Service.Query
/-!
What the service does for a request to each of its resources.
-/

namespace PayOnce.Http

open Text

/-- The limits of a request: for each piece of its body, and for the whole of it. -/
structure Limits where
  read : Span
  request : Span
deriving DecidableEq, Repr

/-- Ten seconds for a piece, thirty for a request. -/
def Limits.standard : Limits :=
  ⟨.ofSeconds 10, .ofSeconds 30⟩

/-- The version that the service tells. -/
def version : String := "0.1.0"

/-- A report that all is well. -/
def okBody : Json.Value :=
  .object [("status", .text "ok")]

/-- The idempotency key of a request: the header's, unless that is blank or no visible text, in
    which case it is the body's. -/
def chooseKey (headers : List Header) (inBody : String) : String :=
  match (firstValue? headers "idempotency-key").bind visibleText? with
  | some key => if isBlank key then inBody else key
  | none => inBody

/-- The command that a request amounts to. -/
def InitiationRequest.command (r : InitiationRequest) (headers : List Header)
    (correlationId : Uuid) : InitiatePayment where
  correlationId
  orderId := r.orderId
  customerId := r.customerId
  amount := r.amount
  currency := r.currency
  idempotencyKey := chooseKey headers r.idempotencyKey

/-- What filters of the log call the part of the program that answers requests about payments. -/
def paymentsPart : String :=
  "payflow_api::routes::payments"

/-- What filters of the log call the part of the program that answers questions about health. -/
def healthPart : String :=
  "payflow_api::routes::health"

/-- The work on a request for an initiation, as the log shows it. -/
def initiationSpan (r : InitiationRequest) : LogSpan where
  name := "initiate_payment"
  part := paymentsPart
  shown := [("order_id", r.orderId)]

/-- Initiates the payment that was asked for. -/
def postInitiation (deadlines : Deadlines) (headers : List Header) (r : InitiationRequest) :
    Program (Except DomainError Receipt) :=
  .inSpan (initiationSpan r) do
    let correlationId ← .query .correlationId
    .report paymentsPart .info "handling initiate_payment command"
      [("correlation_id", correlationId.text)]
    initiate (r.command headers correlationId) deadlines

/-- Answers a request to initiate a payment. -/
def postPayment (deadlines : Deadlines) (limits : Limits) (r : Request) : Program Response := do
  match ← takeIn limits.read r with
  | .error fault =>
    return .json 400 (errorBody "invalid_json" ("cannot parse request body: " ++ fault.message))
  | .ok request => match ← postInitiation deadlines r.headers request with
    | .ok receipt => return .json 201 receipt.toJson
    | .error e => answerError e

/-- Answers a request to see a payment. -/
def showPayment (segment : String) : Program Response :=
  match Route.segmentText? segment with
  | none => .done (.text 400 "Invalid URL: Invalid UTF-8 in `payment_id`")
  | some text => match readPaymentId text with
    | .error e => answerError e
    | .ok id => do
      match ← viewPayment id with
      | .ok view => return .json 200 view.toJson
      | .error e => answerError e

/-- Answers a request to see whether the service can work. -/
def showReadiness : Program Response := do
  match ← askReadiness with
  | .ok () => return .json 200 okBody
  | .error missing =>
    .report healthPart .warn "readiness check failed" [("error", missing)]
    return .json 503 (.object [("status", .text "degraded"), ("error", .text missing)])

/-- Answers a request with a method of the resource. -/
def Route.respond (deadlines : Deadlines) (limits : Limits) (r : Request) :
    Route → Program Response
  | .health => .done (.json 200 (.object [("status", .text "ok"), ("version", .text version)]))
  | .liveness => .done (.json 200 okBody)
  | .readiness => showReadiness
  | .payment segment => showPayment segment
  | .payments => postPayment deadlines limits r

/-- Answers a request to a resource. -/
def Route.handle (deadlines : Deadlines) (limits : Limits) (r : Request) (route : Route) :
    Program Response :=
  if r.method ∈ route.methods then route.respond deadlines limits r else .done (.empty 405)

/-- Answers a request. -/
def handle (deadlines : Deadlines) (limits : Limits) (r : Request) : Program Response :=
  match Route.ofPath? r.target.path with
  | some route => route.handle deadlines limits r
  | none => .done (.empty 404)

end PayOnce.Http
