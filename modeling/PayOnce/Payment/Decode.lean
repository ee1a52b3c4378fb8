import PayOnce.Json.Record
import PayOnce.Payment.View
import PayOnce.Time.Reader
/-!
Reading money, statuses, receipts and events back from JSON. Every field must be there once; other
members are passed over. What is read is not validated beyond its type.
-/

namespace PayOnce

open Json

/-- The value of a field. -/
inductive FieldValue
  | text (s : String)
  | int (n : Int)
  | id (u : Uuid)
  | status (s : Status)
  | time (t : Instant)
deriving DecidableEq, Repr

/-- A reader for the value of a field. -/
def fieldReader {α : Type} (value : α → FieldValue) (read : Reader α) :
    Reader FieldValue := fun cs =>
  match read cs with
  | .ok (a, rest) => .ok (value a, rest)
  | .error fault => .error fault

/-- A field that holds a text. -/
def textField (name : String) : Member FieldValue :=
  ⟨name, fieldReader .text readText⟩

/-- A field that holds a whole number. -/
def intField (name : String) : Member FieldValue :=
  ⟨name, fieldReader .int readInt64⟩

/-- A field that holds an identifier. -/
def idField (name : String) : Member FieldValue :=
  ⟨name, fieldReader .id (readSpelled Uuid.ofText? Uuid.complaint)⟩

/-- A field that holds an instant. -/
def timeField (name : String) : Member FieldValue :=
  ⟨name, fieldReader .time (readSpelled Instant.ofText? fun _ => "invalid time")⟩

/-- What there is to say about a text that is no status. -/
def statusComplaint (s : String) : String :=
  "unknown status " ++ s

/-- Reads a status: its name, or an object with the name as its one member, which is null. -/
def readStatus : Reader Status := fun cs =>
  match skipGaps cs with
  | some '{' :: rest => do
    let (status, rest) ← readSpelled Status.ofName? statusComplaint rest
    let rest ← orMalformed (readColon rest)
    let rest ← orMalformed (readWord "null".toList (skipGaps rest))
    match skipGaps rest with
    | some '}' :: rest => .ok (status, rest)
    | _ => .error .malformed
  | _ => readSpelled Status.ofName? statusComplaint cs

/-- A field that holds a status. -/
def statusField (name : String) : Member FieldValue :=
  ⟨name, fieldReader .status readStatus⟩

/-- Reads a whole text as a record, and makes a value of the fields that were found. -/
def decodeRecord {α : Type} (shape : String) (fields : List (Member FieldValue))
    (make : Found FieldValue → Option α) (cs : Glyphs) : Except Fault α :=
  match readAll (readRecord shape fields) cs with
  | .error fault => .error fault
  | .ok found => match make found with
    | some a => .ok a
    | none => .error (.misfit none .incomplete)

/-- The status that a text is the JSON form of. -/
def Status.decode (cs : Glyphs) : Except Fault Status :=
  readAll readStatus cs

/-- The amount that a text is the JSON form of. -/
def Money.decode : Glyphs → Except Fault Money :=
  decodeRecord "an amount of money" [intField "amount", textField "currency"] fun found =>
    match found.get? "amount", found.get? "currency" with
    | some (.int amount), some (.text currency) => some ⟨amount, currency⟩
    | _, _ => none

/-- The receipt that a text is the JSON form of. -/
def Receipt.decode : Glyphs → Except Fault Receipt :=
  decodeRecord "a receipt" [idField "payment_id", statusField "status"]
    fun found => match found.get? "payment_id", found.get? "status" with
    | some (.id id), some (.status status) => some ⟨id, status⟩
    | _, _ => none

namespace PaymentEvent

/-- The fields of a kind of event, in the order of its JSON form. -/
def fields : EventKind → List (Member FieldValue)
  | .initiated =>
    [idField "payment_id", textField "order_id", intField "amount", textField "currency",
      timeField "occurred_at"]
  | .processingStarted =>
    [idField "payment_id", textField "provider_ref", timeField "occurred_at"]
  | .completed => [idField "payment_id", timeField "occurred_at"]
  | .failed => [idField "payment_id", textField "reason", timeField "occurred_at"]

/-- The event of a kind with some fields. -/
def ofFields (kind : EventKind) (found : Found FieldValue) : Option PaymentEvent :=
  match found.get? "payment_id", found.get? "occurred_at" with
  | some (.id id), some (.time t) => match kind with
    | .initiated =>
      match found.get? "order_id", found.get? "amount", found.get? "currency" with
      | some (.text orderId), some (.int amount), some (.text currency) =>
        some (.initiated id orderId amount currency t)
      | _, _, _ => none
    | .processingStarted => match found.get? "provider_ref" with
      | some (.text providerRef) => some (.processingStarted id providerRef t)
      | _ => none
    | .completed => some (.completed id t)
    | .failed => match found.get? "reason" with
      | some (.text reason) => some (.failed id reason t)
      | _ => none
  | _, _ => none

/-- The event of a kind that a text is the JSON form of. -/
def decode (kind : EventKind) : Glyphs → Except Fault PaymentEvent :=
  decodeRecord "a payment event" (fields kind) (ofFields kind)

end PaymentEvent

end PayOnce
