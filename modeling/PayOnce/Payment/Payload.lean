import PayOnce.Json.Extract
import PayOnce.Payment.Decode
/-!
Events that are read back from their payloads. The payload does not tell the kind of the event.
-/

namespace PayOnce

open Json

/-- A slot for the value of a field. -/
def fieldSlot {α : Type} (name : String) (value : α → FieldValue)
    (take : Value → Except Misfit α) : Slot FieldValue where
  name
  take v := match take v with
    | .ok a => .ok (value a)
    | .error cause => .error cause

/-- A slot for a text. -/
def textSlot (name : String) : Slot FieldValue :=
  fieldSlot name .text takeText

/-- A slot for a whole number. -/
def intSlot (name : String) : Slot FieldValue :=
  fieldSlot name .int takeInt64

/-- A slot for an identifier. -/
def idSlot (name : String) : Slot FieldValue :=
  fieldSlot name .id (takeSpelled Uuid.ofText? Uuid.complaint)

/-- A slot for an instant. -/
def timeSlot (name : String) : Slot FieldValue :=
  fieldSlot name .time (takeSpelled Instant.ofText? fun _ => "invalid time")

namespace PaymentEvent

/-- The fields of a kind of event, in the order of its JSON form. -/
def slots : EventKind → List (Slot FieldValue)
  | .initiated =>
    [idSlot "payment_id", textSlot "order_id", intSlot "amount", textSlot "currency",
      timeSlot "occurred_at"]
  | .processingStarted =>
    [idSlot "payment_id", textSlot "provider_ref", timeSlot "occurred_at"]
  | .completed => [idSlot "payment_id", timeSlot "occurred_at"]
  | .failed => [idSlot "payment_id", textSlot "reason", timeSlot "occurred_at"]

/-- The event of a kind that a value is the payload of. -/
def ofPayload (kind : EventKind) (v : Value) : Except Fault PaymentEvent :=
  match takeRecord "a payment event" (slots kind) v with
  | .error fault => .error fault
  | .ok found => match ofFields kind found with
    | some e => .ok e
    | none => .error (.misfit none .incomplete)

end PaymentEvent

end PayOnce
