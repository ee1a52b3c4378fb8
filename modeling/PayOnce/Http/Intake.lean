import PayOnce.Http.MediaType
import PayOnce.Http.Message
import PayOnce.Json.Record
import PayOnce.Payment.Decode
import PayOnce.Service.Program
/-!
Taking in the body of an initiation request: its type is checked, its pieces are collected, and the
text is read as JSON. Missing fields are empty.
-/

namespace PayOnce.Http

/-- Why a body is refused. -/
inductive BodyFault
  /-- It is not announced as JSON. -/
  | mediaType
  /-- It is too long. -/
  | tooLong
  /-- A piece did not come in time. -/
  | late
  /-- The connection broke. -/
  | broken (detail : String)
  /-- It cannot be read. -/
  | json (fault : Json.Fault)
deriving DecidableEq, Repr

/-- The wording of a fault. -/
def BodyFault.message : BodyFault → String
  | .mediaType => "Expected request with `Content-Type: application/json`"
  | .tooLong => "Failed to buffer the request body: length limit exceeded"
  | .late =>
    "Failed to buffer the request body: data was not received within the designated timeout"
  | .broken detail => "Failed to buffer the request body: " ++ detail
  | .json .malformed => "Failed to parse the request body as JSON"
  | .json (.misfit place cause) =>
    "Failed to deserialize the JSON body into the target type: "
      ++ (match place with
        | some p => p.message ++ ": "
        | none => "")
      ++ cause.message

/-- The longest body that is taken in, in bytes. -/
def longestBody : Nat := 2097152

/-- Is the body announced as JSON? -/
def announcesJson (headers : List Header) : Bool :=
  match firstValue? headers "content-type" with
  | none => false
  | some value => match (visibleText? value).bind MediaType.ofText? with
    | some m => m.isJson
    | none => false

/-- Waits for something that takes a while to come. It has to be there before the limit. -/
def await (limit delay : Span) : Program (Except BodyFault Unit) :=
  if delay < limit then .wait delay (.done (.ok ())) else .wait limit (.done (.error .late))

/-- Collects the pieces of a body; `done` holds the bytes so far, the last one first, and `size`
    their number. -/
def collect (limit : Span) (ending : BodyEnd) :
    List Piece → Nat → List UInt8 → Program (Except BodyFault Bytes)
  | [], _, done => match ending with
    | .complete => do return (← await limit 0).map fun () => done.reverse
    | .silent => .wait limit (.done (.error .late))
    | .broken detail => do return (← await limit 0).bind fun () => .error (.broken detail)
  | p :: ps, size, done => do
    match ← await limit p.delay with
    | .error fault => return .error fault
    | .ok () =>
      let size := size + p.bytes.length
      if size > longestBody then return .error .tooLong
      else collect limit ending ps size (p.bytes.reverseAux done)

/-- What a client asks for. -/
structure InitiationRequest where
  orderId : String
  customerId : String
  amount : Int
  currency : String
  idempotencyKey : String
deriving DecidableEq, Repr

namespace InitiationRequest

/-- The fields of a request, in order. -/
def fields : List (Json.Member FieldValue) :=
  [textField "order_id", textField "customer_id", intField "amount_cents", textField "currency",
    textField "idempotency_key"]

/-- A text that was found, or the empty one. -/
def textOr (found : Json.Found FieldValue) (name : String) : String :=
  match found.get? name with
  | some (.text s) => s
  | _ => ""

/-- A number that was found, or zero. -/
def intOr (found : Json.Found FieldValue) (name : String) : Int :=
  match found.get? name with
  | some (.int n) => n
  | _ => 0

/-- The request with some fields. -/
def ofFields (found : Json.Found FieldValue) : InitiationRequest where
  orderId := textOr found "order_id"
  customerId := textOr found "customer_id"
  amount := intOr found "amount_cents"
  currency := textOr found "currency"
  idempotencyKey := textOr found "idempotency_key"

/-- Reads a request. -/
def decode (cs : Json.Glyphs) : Except Json.Fault InitiationRequest :=
  (Json.readAll (Json.readRecord "struct InitiatePaymentRequest" fields) cs).map ofFields

end InitiationRequest

/-- Takes in the body of a request. -/
def takeIn (limit : Span) (r : Request) : Program (Except BodyFault InitiationRequest) := do
  if announcesJson r.headers then
    match ← collect limit r.body.ending r.body.pieces 0 [] with
    | .error fault => return .error fault
    | .ok bytes => return (InitiationRequest.decode (Text.Utf8.glyphs bytes)).mapError .json
  else return .error .mediaType

end PayOnce.Http
