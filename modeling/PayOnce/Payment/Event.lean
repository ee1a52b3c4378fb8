import PayOnce.Outbox
/-!
The events in the life of a payment, their names and their JSON form.
-/

namespace PayOnce

/-- The kinds of payment events. -/
inductive EventKind
  | initiated
  | processingStarted
  | completed
  | failed
deriving DecidableEq, Repr

/-- The name of a kind of event. -/
def EventKind.name : EventKind → String
  | .initiated => "payment.initiated"
  | .processingStarted => "payment.processing_started"
  | .completed => "payment.completed"
  | .failed => "payment.failed"

/-- Something that happened to a payment. -/
inductive PaymentEvent
  | initiated (paymentId : Uuid) (orderId : String) (amount : Int) (currency : String)
      (occurredAt : Instant)
  | processingStarted (paymentId : Uuid) (providerRef : String) (occurredAt : Instant)
  | completed (paymentId : Uuid) (occurredAt : Instant)
  | failed (paymentId : Uuid) (reason : String) (occurredAt : Instant)
deriving DecidableEq, Repr

namespace PaymentEvent

/-- The kind of an event. -/
def kind : PaymentEvent → EventKind
  | initiated .. => .initiated
  | processingStarted .. => .processingStarted
  | completed .. => .completed
  | failed .. => .failed

/-- The payment that the event happened to. -/
def paymentId : PaymentEvent → Uuid
  | initiated id .. => id
  | processingStarted id .. => id
  | completed id .. => id
  | failed id .. => id

/-- When the event happened. -/
def occurredAt : PaymentEvent → Instant
  | initiated _ _ _ _ t => t
  | processingStarted _ _ t => t
  | completed _ t => t
  | failed _ _ t => t

/-- The JSON form of an event. Its kind is not part of it. -/
def toJson : PaymentEvent → Json.Value
  | initiated id orderId amount currency t => .object
    [("payment_id", .text id.text), ("order_id", .text orderId), ("amount", .int amount),
      ("currency", .text currency), ("occurred_at", .text t.text)]
  | processingStarted id providerRef t => .object
    [("payment_id", .text id.text), ("provider_ref", .text providerRef),
      ("occurred_at", .text t.text)]
  | completed id t => .object [("payment_id", .text id.text), ("occurred_at", .text t.text)]
  | failed id reason t => .object
    [("payment_id", .text id.text), ("reason", .text reason), ("occurred_at", .text t.text)]

instance : DomainEvent PaymentEvent where
  eventType e := e.kind.name
  aggregateId := paymentId
  occurredAt := occurredAt
  payload e := .ok e.toJson

end PaymentEvent

end PayOnce
