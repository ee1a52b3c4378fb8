import PayOnce.Http.Handler
import PayOnce.Service.Run
/-!
Serving a request: whatever the handler and the collaborators do, there is one response, which
carries the headers for browsers and the id of the request, and one row for the metrics.
-/

namespace PayOnce.Http

/-- A row of the request metrics. -/
structure MetricsRow where
  method : String
  route : String
  status : Nat
deriving DecidableEq, Repr

/-- What comes of a request. -/
structure Served (σ τ : Type) where
  response : Response
  row : Option MetricsRow
  progress : Progress σ τ

/-- The label under which a request is counted. -/
def requestLabel (r : Request) : String :=
  match Route.ofPath? r.target.path with
  | some route => route.label
  | none => Route.unknownLabel

/-- The headers for browsers of other sites, on every response. -/
def shareHeaders : List (String × String) :=
  [("access-control-allow-origin", "*"),
    ("vary", "origin, access-control-request-method, access-control-request-headers")]

/-- Those on answers to questions about what is allowed. -/
def preflightHeaders : List (String × String) :=
  [("access-control-allow-headers", "*"), ("access-control-allow-methods", "*")]

/-- Those on every other response. -/
def exposeHeaders : List (String × String) :=
  [("access-control-expose-headers", "*")]

/-- Adds headers. -/
def Response.withHeaders (r : Response) (headers : List (String × String)) : Response :=
  headers.foldl (fun r (name, value) => r.withHeader name value) r

/-- The answer to a question about what is allowed. -/
def preflight (r : Request) : Response :=
  let response := (Response.empty 200).withHeaders preflightHeaders
  match Route.ofPath? r.target.path with
  | some route => response.withHeader "allow" route.allow
  | none => response

/-- Makes a response fit the method of its request: an answer to `HEAD` has no content, and one to a
    method that the resource does not have tells the methods that it has. -/
def fitMethod (r : Request) (response : Response) : Response :=
  let response := if r.method = "HEAD" then { response with content := .empty } else response
  match Route.ofPath? r.target.path with
  | some route =>
    if r.method ∈ route.methods then response else response.withHeader "allow" route.allow
  | none => response

/-- The standard phrase of the statuses of failed requests. -/
def statusPhrase (status : Nat) : String :=
  if status = 503 then "Service Unavailable" else "Internal Server Error"

/-- What filters of the log call the part of the program that serves requests. -/
def serverPart : String :=
  "payflow_api"

/-- The log entry for a response that tells of a failure of the service. -/
def failureNote (status : Nat) : Option LogEntry :=
  if 500 ≤ status then
    let phrase := Text.Decimal.text status ++ " " ++ statusPhrase status
    some (.make serverPart .error "response failed"
      [("classification", "Status code: " ++ phrase)])
  else none

/-- The work on a request, as the log shows it. -/
def requestSpan (r : Request) (requestId : Bytes) : LogSpan where
  name := "http_request"
  part := serverPart
  shown := [("method", r.method), ("uri", r.target.text)]
  quoted := [("request_id", (visibleText? requestId).getD "")]

/-- The id of a request: the client's, or a new one. -/
def requestIdOf (r : Request) (fresh : Uuid) : Bytes :=
  (firstValue? r.headers "x-request-id").getD (Text.Utf8.encode fresh.text)

/-- What a panic says. -/
def panicDetail : PanicPayload → String
  | .text s => s
  | .other => "non-string panic payload"

/-- The error that a panic amounts to. -/
def panicError (p : PanicPayload) : DomainError :=
  .infrastructure ("request handler panicked: " ++ panicDetail p)

/-- Adds an entry to the log. -/
def note {σ τ : Type} (s : Progress σ τ) (entry : Option LogEntry) : Progress σ τ :=
  match entry with
  | some e => { s with events := .log e :: s.events }
  | none => s

/-- Runs the handler within the limit of the request, and makes a response of any outcome. A run
    that ends neither way cannot be: its budget cuts it off. -/
def respond {σ τ : Type} (env : Environment σ τ) (deadlines : Deadlines) (limits : Limits)
    (span : LogSpan) (r : Request) (s : Progress σ τ) : Response × Progress σ τ :=
  -- A limit of zero is over before the handler has made a call.
  if limits.request = 0 then (.empty 408, s)
  else
    match ((handle deadlines limits r).inSpan span).run env (some limits.request) s with
    | (.finished response, s) => (response, s)
    | (.panicked p, s) =>
      let e := panicError p
      (domainErrorResponse e, note s ((unhandledNote e).map (·.within span)))
    | (.cutOff, s) | (.hung, s) => (.empty 408, s)

/-- Serves a request. Questions about what is allowed are answered without a handler and are not
    counted. -/
def serve {σ τ : Type} (env : Environment σ τ) (deadlines : Deadlines) (limits : Limits)
    (fresh : Uuid) (r : Request) (s : Progress σ τ) : Served σ τ :=
  let requestId := requestIdOf r fresh
  let span := requestSpan r requestId
  let (response, row, s) :=
    if r.method = "OPTIONS" then (preflight r, none, s)
    else
      let (response, s) := respond env deadlines limits span r s
      ((fitMethod r response).withHeaders exposeHeaders,
        some ⟨r.method, requestLabel r, response.status⟩, s)
  let response := response.withHeaders shareHeaders
  { response := { response with headers := response.headers ++ [⟨"x-request-id", requestId⟩] }
    row
    progress := note s ((failureNote response.status).map (·.within span)) }

end PayOnce.Http
