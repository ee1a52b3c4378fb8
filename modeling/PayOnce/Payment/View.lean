import PayOnce.Payment.Aggregate
/-!
What clients see of a payment: the receipt for an initiation, and the view of a stored payment.
-/

namespace PayOnce

/-- The answer to an initiation: which payment there is now, and where it stands. -/
structure Receipt where
  paymentId : Uuid
  status : Status
deriving DecidableEq, Repr

namespace Receipt

/-- The receipt for a payment. -/
def ofPayment (p : Payment) : Receipt :=
  ⟨p.id, p.status⟩

/-- The JSON form of a receipt. -/
def toJson (r : Receipt) : Json.Value :=
  .object [("payment_id", .text r.paymentId.text), ("status", r.status.toJson)]

end Receipt

/-- A payment as it is shown; texts that are empty in the record are absent here. -/
structure PaymentView where
  paymentId : Uuid
  orderId : String
  customerId : String
  amount : Money
  status : Status
  providerRef : Option String
  failureReason : Option String
  version : Int
  createdAt : Instant
  updatedAt : Instant
deriving DecidableEq, Repr

namespace PaymentView

/-- A text, unless it is empty. -/
def nonEmpty (s : String) : Option String :=
  if s = "" then none else some s

/-- The view of a payment. -/
def ofPayment (p : Payment) : PaymentView where
  paymentId := p.id
  orderId := p.facts.orderId
  customerId := p.facts.customerId
  amount := p.facts.amount
  status := p.status
  providerRef := nonEmpty p.facts.providerRef
  failureReason := nonEmpty p.facts.failureReason
  version := p.facts.version
  createdAt := p.facts.createdAt
  updatedAt := p.facts.updatedAt

/-- The JSON form of a view. -/
def toJson (v : PaymentView) : Json.Value :=
  .object
    [("payment_id", .text v.paymentId.text), ("order_id", .text v.orderId),
      ("customer_id", .text v.customerId), ("amount", .int v.amount.amount),
      ("currency", .text v.amount.currency), ("status", v.status.toJson),
      ("provider_ref", .ofOption v.providerRef), ("failure_reason", .ofOption v.failureReason),
      ("version", .int v.version), ("created_at", .text v.createdAt.text),
      ("updated_at", .text v.updatedAt.text)]

end PaymentView

end PayOnce
