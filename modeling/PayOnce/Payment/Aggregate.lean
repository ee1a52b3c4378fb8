import PayOnce.Payment.Event
import PayOnce.Payment.Money
import PayOnce.Payment.Status
import PayOnce.Text.Blank
/-!
Payments. A payment changes only by the moves below; each accepted move buffers one event. The
version goes up once between two drains of the buffer, however many moves lie between them, so that
a stored payment and its successor differ by exactly one version.
-/

namespace PayOnce

open Text

/-- The facts of a payment, as they are stored. -/
structure PaymentFacts where
  id : Uuid
  orderId : String
  customerId : String
  amount : Money
  status : Status
  providerRef : String
  failureReason : String
  idempotencyKey : String
  createdAt : Instant
  updatedAt : Instant
  version : Int
deriving DecidableEq, Repr

/-- A payment in hand: its facts, whether its version is ahead of the stored one, and the events
    that are not written yet, the oldest first. -/
structure Payment where
  facts : PaymentFacts
  ahead : Bool
  pending : List PaymentEvent
deriving DecidableEq, Repr

/-- A field that must not be blank. -/
def refuseBlank (field value : String) : Except DomainError Unit :=
  if isBlank value then .error (.validation (.required field)) else .ok ()

/-- What a payment is made from. -/
structure Draft where
  orderId : String
  customerId : String
  amount : Money
  idempotencyKey : String
deriving DecidableEq, Repr

/-- Refuses a draft with a blank field, the first one in the order of the fields. -/
def Draft.check (d : Draft) : Except DomainError Unit := do
  refuseBlank "order_id" d.orderId
  refuseBlank "customer_id" d.customerId
  refuseBlank "idempotency_key" d.idempotencyKey

/-- The payment of a draft, with its id and its time of creation. -/
def Draft.issue (d : Draft) (id : Uuid) (now : Instant) : Payment where
  facts :=
    { id
      orderId := d.orderId
      customerId := d.customerId
      amount := d.amount
      status := .pending
      providerRef := ""
      failureReason := ""
      idempotencyKey := d.idempotencyKey
      createdAt := now
      updatedAt := now
      version := 1 }
  ahead := true
  pending := [.initiated id d.orderId d.amount.amount d.amount.currency now]

namespace Payment

/-- The payment with some stored facts; it has no events to write. -/
def ofFacts (r : PaymentFacts) : Payment :=
  ⟨r, false, []⟩

/-- The id of a payment. -/
def id (p : Payment) : Uuid :=
  p.facts.id

/-- The status of a payment. -/
def status (p : Payment) : Status :=
  p.facts.status

/-- Moves a payment to a status, if that may follow the present one. -/
def moveTo (p : Payment) (target : Status) (now : Instant) : Except DomainError Payment :=
  if p.status.canMoveTo target then
    .ok
      { p with
        facts :=
          { p.facts with
            status := target
            updatedAt := now
            version := if p.ahead then p.facts.version else p.facts.version + 1 }
        ahead := true }
  else .error (.invalidTransition p.status.name target.name)

/-- Buffers an event. -/
def push (p : Payment) (e : PaymentEvent) : Payment :=
  { p with pending := p.pending ++ [e] }

/-- Takes a payment up for processing under the provider's reference. -/
def start (p : Payment) (providerRef : String) (now : Instant) :
    Except DomainError Payment := do
  -- A blank reference is refused whatever the status is.
  refuseBlank "provider_ref" providerRef
  let p ← p.moveTo .processing now
  return { p with facts := { p.facts with providerRef } }.push
    (.processingStarted p.id providerRef now)

/-- Ends processing well. -/
def complete (p : Payment) (now : Instant) : Except DomainError Payment := do
  let p ← p.moveTo .completed now
  return p.push (.completed p.id now)

/-- Ends processing with a failure. -/
def fail (p : Payment) (reason : String) (now : Instant) : Except DomainError Payment := do
  refuseBlank "reason" reason
  let p ← p.moveTo .failed now
  return { p with facts := { p.facts with failureReason := reason } }.push
    (.failed p.id reason now)

/-- The payment after its events have been taken from it. -/
def drained (p : Payment) : Payment :=
  { p with ahead := false, pending := [] }

/-- The outbox rows of the buffered events, in order. -/
def outboxRows (p : Payment) : Except DomainError (List OutboxRow) :=
  p.pending.mapM OutboxRow.ofEvent

end Payment

end PayOnce
