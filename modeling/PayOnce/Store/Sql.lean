import PayOnce.Service.Call
/-!
A payment store in a relational database. Every operation is a session of statements whose replies
decide how it goes on; a save is one transaction, which is rolled back unless its commit succeeds.
-/

namespace PayOnce

open Text

/-- A row of the table of payments. -/
structure PaymentRow where
  id : Uuid
  orderId : String
  customerId : String
  amount : Int
  currency : String
  status : String
  providerRef : String
  failureReason : String
  idempotencyKey : String
  createdAt : Instant
  updatedAt : Instant
  version : Int
deriving DecidableEq, Repr

namespace PaymentRow

/-- The row of a payment. -/
def ofFacts (r : PaymentFacts) : PaymentRow where
  id := r.id
  orderId := r.orderId
  customerId := r.customerId
  amount := r.amount.amount
  currency := r.amount.currency
  status := r.status.name
  providerRef := r.providerRef
  failureReason := r.failureReason
  idempotencyKey := r.idempotencyKey
  createdAt := r.createdAt
  updatedAt := r.updatedAt
  version := r.version

/-- The payment of a row, if its money and its status are in order. -/
def toFacts (r : PaymentRow) : Except DomainError PaymentFacts := do
  let amount ← Money.make r.amount r.currency
  let status ← Status.ofName r.status
  return {
    id := r.id
    orderId := r.orderId
    customerId := r.customerId
    amount
    status
    providerRef := r.providerRef
    failureReason := r.failureReason
    idempotencyKey := r.idempotencyKey
    createdAt := r.createdAt
    updatedAt := r.updatedAt
    version := r.version }

/-- The payment of a stored row; a row that is not in order is a failure of the infrastructure. -/
def toPayment (r : PaymentRow) : Except DomainError Payment :=
  match r.toFacts with
  | .ok facts => .ok (Payment.ofFacts facts)
  | .error e => .error (.infrastructure
      ("corrupt payment row " ++ r.id.text ++ ": " ++ e.message))

end PaymentRow

/-- A statement with its values. -/
inductive Statement
  | begin
  | commit
  | rollback
  /-- Insert a payment, or update the row whose version it follows. -/
  | upsert (r : PaymentFacts)
  | insertOutbox (r : OutboxRow)
  | selectByKey (key : String)
  | selectById (id : Uuid)
  /-- Select nothing in particular. -/
  | probe
deriving Repr

/-- A value bound to a statement. -/
inductive SqlValue
  | id (u : Uuid)
  | text (s : String)
  | int (n : Int)
  | time (t : Instant)
  | json (v : Json.Value)
deriving Repr

namespace Statement

/-- The columns of the table of payments. -/
def columns : String :=
  "id, order_id, customer_id, amount_cents, currency, status, provider_ref, failure_reason, "
    ++ "idempotency_key, created_at, updated_at, version"

/-- The text of a statement. -/
def sql : Statement → String
  | begin => "BEGIN"
  | commit => "COMMIT"
  | rollback => "ROLLBACK"
  | upsert _ =>
    "INSERT INTO payments ( " ++ columns ++ " ) "
      ++ "VALUES ($1, $2, $3, $4, $5, $6, $7, $8, $9, $10, $11, $12) "
      ++ "ON CONFLICT (id) DO UPDATE SET status = EXCLUDED.status, "
      ++ "provider_ref = EXCLUDED.provider_ref, failure_reason = EXCLUDED.failure_reason, "
      ++ "updated_at = EXCLUDED.updated_at, version = EXCLUDED.version "
      ++ "WHERE payments.version = EXCLUDED.version - 1"
  | insertOutbox _ =>
    "INSERT INTO outbox_events (aggregate_id, event_type, payload) VALUES ($1, $2, $3)"
  | selectByKey _ => "SELECT " ++ columns ++ " FROM payments WHERE idempotency_key = $1"
  | selectById _ => "SELECT " ++ columns ++ " FROM payments WHERE id = $1"
  | probe => "SELECT 1"

/-- The values of the columns of a row, in order. -/
def rowValues (r : PaymentRow) : List SqlValue :=
  [.id r.id, .text r.orderId, .text r.customerId, .int r.amount, .text r.currency,
    .text r.status, .text r.providerRef, .text r.failureReason, .text r.idempotencyKey,
    .time r.createdAt, .time r.updatedAt, .int r.version]

/-- The values bound to a statement, in order. -/
def values : Statement → List SqlValue
  | upsert r => rowValues (.ofFacts r)
  | insertOutbox r => [.id r.aggregateId, .text r.eventType, .json r.payload]
  | selectByKey key => [.text key]
  | selectById id => [.id id]
  | _ => []

end Statement

/-- An error of the database. -/
inductive SqlError
  /-- The database refuses a statement. -/
  | refused (code message : String) (constraint : Option String)
  /-- The database cannot be reached. -/
  | lost (message : String)
deriving DecidableEq, Repr

/-- The wording of an error of the database. -/
def SqlError.message : SqlError → String
  | .refused _ message _ => "error returned from database: " ++ message
  | .lost message => message

/-- The reply to a statement. -/
inductive SqlReply
  /-- So many rows were written. -/
  | affected (rows : Nat)
  /-- This row was found, or none. -/
  | found (row : Option PaymentRow)
  | failed (e : SqlError)
deriving DecidableEq, Repr

/-- A session: statements, each followed by what is done with its reply. -/
inductive Session (α : Type) : Type
  | done (a : α)
  | send (s : Statement) (next : SqlReply → Session α)

namespace Session

variable {α β : Type}

/-- Goes on with another session. -/
def bind : Session α → (α → Session β) → Session β
  | done a, f => f a
  | send s next, f => send s fun r => (next r).bind f

instance : Monad Session where
  pure := done
  bind := bind

/-- Sends one statement. -/
def query (s : Statement) : Session SqlReply :=
  send s done

/-- Sends one statement that only has to succeed; a failure is told with the operation. -/
def execute (operation : String) (s : Statement) : Session (Except DomainError Unit) := do
  match ← query s with
  | .failed e => return .error (.infrastructure (operation ++ ": " ++ e.message))
  | _ => return .ok ()

end Session

namespace SqlStore

/-- The constraint that keeps keys unique. -/
def keyConstraint : String := "payments_idempotency_key_unique"

/-- The code of a violated unique constraint. -/
def uniqueViolation : String := "23505"

/-- What a refused write of a payment means. -/
def upsertError (r : PaymentFacts) (e : SqlError) : DomainError :=
  match e with
  | .refused code _ constraint =>
    if code = uniqueViolation ∧ constraint = some keyConstraint then
      .duplicateKey r.idempotencyKey
    else .infrastructure ("upsert payment: " ++ e.message)
  | .lost _ => .infrastructure ("upsert payment: " ++ e.message)

/-- Writes the row of a payment. That no row is written means that the version does not follow the
    stored one. -/
def upsert (r : PaymentFacts) : Session (Except DomainError Unit) := do
  match ← .query (.upsert r) with
  | .failed e => return .error (upsertError r e)
  | .affected 0 => return .error (.versionConflict r.id r.version)
  | _ => return .ok ()

/-- Writes rows of the outbox, in order. -/
def insertOutbox : List OutboxRow → Session (Except DomainError Unit)
  | [] => return .ok ()
  | r :: rs => do
    match ← .execute ("insert outbox event " ++ r.eventType) (.insertOutbox r) with
    | .error e => return .error e
    | .ok () => insertOutbox rs

/-- What is done between the start of a transaction and its end. -/
def write (r : PaymentFacts) (rows : List OutboxRow) :
    Session (Except DomainError Unit) := do
  match ← upsert r with
  | .error e => return .error e
  | .ok () => match ← insertOutbox rows with
    | .error e => return .error e
    | .ok () => .execute "commit payment" .commit

/-- Writes a payment and its events in one transaction, and takes the events from it; or changes
    nothing. -/
def save (p : Payment) : Session (Except DomainError (List OutboxRow) × Payment) := do
  match p.outboxRows with
  | .error e => return (.error e, p)
  | .ok rows => match ← .execute "begin transaction" .begin with
    | .error e => return (.error e, p)
    | .ok () => match ← write p.facts rows with
      | .ok () => return (.ok rows, p.drained)
      | .error e => do
        -- The caller is told what went wrong first, whatever becomes of the rollback.
        let _ ← .query .rollback
        return (.error e, p)

/-- Looks for one row. -/
def selectRow (operation : String) (s : Statement) :
    Session (Except DomainError (Option PaymentRow)) := do
  match ← .query s with
  | .failed e => return .error (.infrastructure (operation ++ ": " ++ e.message))
  | .found row => return .ok row
  | .affected _ => return .ok none

/-- The payment that holds a key. -/
def findByKey (key : String) : Session (Except DomainError (Option Payment)) := do
  match ← selectRow "select payment by idempotency key" (.selectByKey key) with
  | .error e => return .error e
  | .ok none => return .ok none
  | .ok (some row) => return row.toPayment.map some

/-- The payment with an id. -/
def findById (id : Uuid) : Session (Except DomainError Payment) := do
  match ← selectRow "select payment by id" (.selectById id) with
  | .error e => return .error e
  | .ok none => return .error (.notFound id)
  | .ok (some row) => return row.toPayment

/-- The session that answers a call. -/
def handle : (c : StoreCall) → Session c.Reply
  | .findByKey key => findByKey key
  | .findById id => findById id
  | .save p => save p
  | .ping => .execute "ping database" .probe

end SqlStore

end PayOnce
