import PayOnce.Service.Call
/-!
A payment store in memory. A payment is written only if it follows its stored version by exactly
one, or is new and holds a key that no other payment holds; its events are written with it or not
at all.
-/

namespace PayOnce

/-- The rows of the store, whether its outbox takes rows, and how often it was called. -/
structure MemoryStore where
  payments : List PaymentFacts := []
  outbox : List OutboxRow := []
  outboxFails : Bool := false
  lookups : Nat := 0
  saves : Nat := 0
deriving Repr

namespace MemoryStore

/-- The stored payment with an id. -/
def findId? (s : MemoryStore) (id : Uuid) : Option PaymentFacts :=
  s.payments.find? (·.id == id)

/-- The stored payment that holds a key. -/
def findKey? (s : MemoryStore) (key : String) : Option PaymentFacts :=
  s.payments.find? (·.idempotencyKey == key)

/-- All stored payments that hold a key. -/
def withKey (s : MemoryStore) (key : String) : List PaymentFacts :=
  s.payments.filter (·.idempotencyKey == key)

/-- Replaces the row with the same id, or adds one. -/
def putRow (r : PaymentFacts) : List PaymentFacts → List PaymentFacts
  | [] => [r]
  | old :: rows => if old.id = r.id then r :: rows else old :: putRow r rows

/-- May a row be written? -/
def mayWrite (s : MemoryStore) (r : PaymentFacts) : Except DomainError Unit :=
  match s.findId? r.id with
  -- The key of a stored payment is its own already.
  | some stored =>
    if stored.version = r.version - 1 then .ok () else .error (.versionConflict r.id r.version)
  | none =>
    if (s.findKey? r.idempotencyKey).isSome then .error (.duplicateKey r.idempotencyKey)
    else .ok ()

/-- The rows that a save writes into the outbox, if the payment may be written. -/
def commit (s : MemoryStore) (p : Payment) : Except DomainError (List OutboxRow) := do
  let rows ← p.outboxRows
  s.mayWrite p.facts
  -- Without rows to take, the outbox cannot fail.
  if s.outboxFails ∧ !rows.isEmpty then
    throw (.infrastructure "insert outbox event: simulated failure")
  return rows

/-- Writes a payment and its events, and takes the events from it; or changes nothing. -/
def save (s : MemoryStore) (p : Payment) :
    Except DomainError (List OutboxRow) × Payment × MemoryStore :=
  let counted := { s with saves := s.saves + 1 }
  match s.commit p with
  | .error e => (.error e, p, counted)
  | .ok rows =>
    (.ok rows, p.drained,
      { counted with
        payments := putRow p.facts s.payments
        outbox := s.outbox ++ rows })

/-- The payment that holds a key. -/
def findByKey (s : MemoryStore) (key : String) : Option Payment × MemoryStore :=
  ((s.findKey? key).map Payment.ofFacts, { s with lookups := s.lookups + 1 })

/-- The payment with an id. -/
def findById (s : MemoryStore) (id : Uuid) : Except DomainError Payment × MemoryStore :=
  (match s.findId? id with
    | some r => .ok (Payment.ofFacts r)
    | none => .error (.notFound id),
    { s with lookups := s.lookups + 1 })

/-- Answers a call. -/
def handle (s : MemoryStore) : (c : StoreCall) → c.Reply × MemoryStore
  | .findByKey key => let (p, s) := s.findByKey key; (.ok p, s)
  | .findById id => s.findById id
  | .save p => let (r, p, s) := s.save p; ((r, p), s)
  | .ping => (.ok (), s)

end MemoryStore

end PayOnce
