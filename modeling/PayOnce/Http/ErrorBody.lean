import PayOnce.Failure
import PayOnce.Http.Message
import PayOnce.Service.Program
/-!
How errors are shown to clients: a code, and a message that tells them what they can mend. What
failed inside the service is not for them, and goes to the log.
-/

namespace PayOnce.Http

/-- An error as JSON. -/
def errorBody (code message : String) : Json.Value :=
  .object [("error", .text code), ("message", .text message)]

/-- The status and the code of a domain error. -/
def statusAndCode : DomainError → Nat × String
  | .validation _ => (400, "validation_error")
  | .notFound _ => (404, "payment_not_found")
  | .versionConflict .. => (409, "version_conflict")
  | .duplicateKey _ => (409, "duplicate_idempotency_key")
  | .invalidTransition .. => (422, "invalid_state_transition")
  | .infrastructure _ => (500, "internal_error")

/-- The response to a domain error. -/
def domainErrorResponse (e : DomainError) : Response :=
  let (status, code) := statusAndCode e
  let message := if status = 500 then "an unexpected error occurred" else e.message
  let response := Response.json status (errorBody code message)
  if e.mayRetry then response.withHeader "retry-after" "1" else response

/-- What filters of the log call the part of the program that turns errors into responses. -/
def errorPart : String :=
  "payflow_api::error"

/-- What the log says about a domain error, if anything. -/
def unhandledNote (e : DomainError) : Option LogEntry :=
  if (statusAndCode e).1 = 500 then
    some (.make errorPart .error "unhandled error in HTTP handler" [("error", e.message)])
  else none

/-- Answers with a domain error, and logs it if the client is not told. -/
def answerError (e : DomainError) : Program Response :=
  match unhandledNote e with
  | some entry => .log entry (.done (domainErrorResponse e))
  | none => .done (domainErrorResponse e)

end PayOnce.Http
