import PayOnce.Http.Uri
import PayOnce.Text.Hex
import PayOnce.Text.Utf8
/-!
Routes: which resource a path names, under which label it is counted, and which methods it has.
-/

namespace PayOnce.Http

open Text

/-- The resources of the service. -/
inductive Route
  | health
  | liveness
  | readiness
  | payments
  /-- One payment, by the part of the path that names it, as it was sent. -/
  | payment (segment : String)
deriving DecidableEq, Repr

namespace Route

/-- The label of a path that names nothing. -/
def unknownLabel : String := "unknown"

/-- The label under which requests are counted; it does not depend on the payment. -/
def label : Route → String
  | health => "/health"
  | liveness => "/healthz/live"
  | readiness => "/healthz/ready"
  | payments => "/v1/payments"
  | payment _ => "/v1/payments/\x7bpayment_id\x7d"

/-- The methods of a resource. -/
def methods : Route → List String
  | payments => ["POST"]
  | _ => ["GET", "HEAD"]

/-- The methods of a resource, as they are told to clients. -/
def allow (r : Route) : String :=
  ",".intercalate r.methods

/-- The start of the paths of single payments. -/
def paymentStart : List Char :=
  "/v1/payments/".toList

/-- The resource that a path names. -/
def ofPath? (path : String) : Option Route :=
  if path = "/health" then some health
  else if path = "/healthz/live" then some liveness
  else if path = "/healthz/ready" then some readiness
  else if path = "/v1/payments" then some payments
  else
    let cs := path.toList
    let segment := cs.drop paymentStart.length
    if paymentStart.isPrefixOf cs && !segment.isEmpty && segment.all (· != '/') then
      some (payment (String.ofList segment))
    else none

/-- The bytes of a text with its percent escapes undone; a percent sign without two digits after it
    stays. -/
def percentDecode : List Char → List UInt8
  | [] => []
  | '%' :: a :: b :: rest => match Hex.digit? a, Hex.digit? b with
    | some high, some low => UInt8.ofNat (16 * high + low) :: percentDecode rest
    | _, _ => 0x25 :: percentDecode (a :: b :: rest)
  | c :: rest => Utf8.encode (String.singleton c) ++ percentDecode rest

/-- The text of a part of a path, if it is UTF-8. -/
def segmentText? (segment : String) : Option String :=
  (Utf8.decode (percentDecode segment.toList)).toOption

end Route

end PayOnce.Http
