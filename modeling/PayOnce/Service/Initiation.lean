import PayOnce.Payment.Decode
import PayOnce.Service.Program
/-!
Initiating a payment, at most once for each idempotency key. The receipt is looked for in the cache,
then in the store, and only then is a payment created; whoever loses the race for a key takes over
the winner's payment. A cache that fails costs nothing but work: every path leads on to the store.
-/

namespace PayOnce

open Text

/-- A command to the service. -/
class Command (κ : Type) where
  /-- The name of the kind of command. -/
  commandType : κ → String
  /-- The id that follows the command through the logs. -/
  correlationId : κ → Uuid
  /-- The key under which repeats of the command are recognised, if it has one. -/
  idempotencyKey : κ → Option String := fun _ => none

/-- The command to initiate a payment. -/
structure InitiatePayment where
  correlationId : Uuid
  orderId : String
  customerId : String
  amount : Int
  currency : String
  idempotencyKey : String
deriving DecidableEq, Repr

instance : Command InitiatePayment where
  commandType _ := "payments.initiate_payment"
  correlationId c := c.correlationId
  idempotencyKey c := some c.idempotencyKey

/-- How long the service waits for its collaborators. -/
structure Deadlines where
  cache : Span
  store : Span
deriving DecidableEq, Repr

/-- Half a second for the cache, five seconds for the store. -/
def Deadlines.standard : Deadlines :=
  ⟨.ofMillis 500, .ofSeconds 5⟩

/-- How long a receipt stays in the cache. -/
def receiptTtl : Span :=
  .ofDays 1

namespace InitiatePayment

/-- The money of a well-formed command; the first blank or wrong field is refused. -/
def validate (c : InitiatePayment) : Except DomainError Money := do
  refuseBlank "order_id" c.orderId
  refuseBlank "customer_id" c.customerId
  if c.amount ≤ 0 then throw (.validation .requestedAmount)
  refuseBlank "currency" c.currency
  refuseBlank "idempotency_key" c.idempotencyKey
  Money.make c.amount c.currency

/-- The payment that the command asks for. -/
def draft (c : InitiatePayment) (amount : Money) : Draft :=
  ⟨c.orderId, c.customerId, amount, c.idempotencyKey⟩

end InitiatePayment

namespace Initiation

/-- What filters of the log call this part of the program. -/
def part : String :=
  "payflow_payments::application::command_handlers"

/-- Writes to the log on behalf of this part of the program. -/
def report (level : Level) (message : String) (fields : Fields) : Program Unit :=
  .report part level message fields

/-- The work on a command, as the log shows it. -/
def span (c : InitiatePayment) : LogSpan where
  name := "handle_initiate_payment"
  part := part
  shown := [("correlation_id", c.correlationId.text)]
  quoted := [("command_type", Command.commandType c), ("idempotency_key", c.idempotencyKey)]

/-- The outcome of a cache call that may have been dropped at its limit. -/
def timely {α : Type} (limit : Span) : Option (Except CacheError α) → Except CacheError α
  | some r => r
  | none => .error (.timeout limit)

/-- The outcome of a store call that may have been dropped at its limit. Failures of the
    infrastructure are told with the name of the operation. -/
def named {α : Type} (operation : String) (limit : Span) :
    Option (Except DomainError α) → Except DomainError α
  | some (.error (.infrastructure detail)) => .error (.infrastructure (operation ++ ": " ++ detail))
  | some r => r
  | none => .error (.infrastructure (operation ++ ": timed out after " ++ limit.text))

/-- Removes an entry that cannot be understood, for a reason. -/
def evictCorrupt (key reason : String) (limit : Span) : Program Unit := do
  report .warn "corrupt idempotency cache entry, evicting" [("error", reason)]
  match timely limit (← .callCacheWithin limit (.evict key)) with
  | .ok () => return ()
  | .error e =>
    report .warn "failed to evict corrupt idempotency cache entry" [("error", e.message)]

/-- The receipt that the cache holds for a key, if it can be read. -/
def receiptFromCache (key : String) (limit : Span) : Program (Option Receipt) := do
  match timely limit (← .callCacheWithin limit (.get key)) with
  | .ok none => return none
  | .ok (some entry) => match Receipt.decode (Json.glyphsOf entry) with
    | .ok receipt => do
      .emit .cacheReplay
      return some receipt
    | .error fault => do
      evictCorrupt key fault.message limit
      return none
  -- The cache holds something here that is no text at all.
  | .error (.corrupt reason) => do
    evictCorrupt key reason limit
    return none
  -- An entry may be there all the same, so nothing is removed.
  | .error e => do
    .emit .cacheDegraded
    report .warn "idempotency cache unavailable, falling back to store" [("error", e.message)]
    return none

/-- Puts a receipt into the cache; a failure is only reported. -/
def keepReceipt (key : String) (receipt : Receipt) (limit : Span) : Program Unit := do
  match timely limit (← .callCacheWithin limit (.set key receipt.toJson.render receiptTtl)) with
  | .ok () => return ()
  | .error e => report .warn "failed to cache initiation result" [("error", e.message)]

/-- Looks for the payment that holds a key. -/
def lookup (operation key : String) (limit : Span) :
    Program (Except DomainError (Option Payment)) := do
  return named operation limit (← .callStoreWithin limit (.findByKey key))

/-- Answers with a payment that is there already. -/
def answerWith (p : Payment) (signal : Signal) (note key : String) (limit : Span) :
    Program (Except DomainError Receipt) := do
  let receipt := Receipt.ofPayment p
  .emit signal
  report .info note [("payment_id", receipt.paymentId.text)]
  keepReceipt key receipt limit
  return .ok receipt

/-- Takes over the payment that won the race for a key. -/
def followWinner (key : String) (deadlines : Deadlines) : Program (Except DomainError Receipt) := do
  match ← lookup "idempotency key re-fetch" key deadlines.store with
  | .error e => return .error e
  | .ok none => return .error (.infrastructure ("idempotency key " ++ Quoted.text key
      ++ " rejected as duplicate but no payment holds it"))
  | .ok (some winner) =>
    answerWith winner .creationRaceResolved "concurrent duplicate resolved to existing payment" key
      deadlines.cache

/-- Reports every event that a save has written. -/
def reportCommitted : List OutboxRow → Program Unit
  | [] => return ()
  | r :: rs => do
    report .debug "event committed to outbox"
      [("payment_id", r.aggregateId.text), ("event_type", r.eventType)]
    reportCommitted rs

/-- Answers with a payment that has just been written. -/
def confirm (draft : Draft) (saved : Payment) (committed : List OutboxRow) (limit : Span) :
    Program (Except DomainError Receipt) := do
  let receipt := Receipt.ofPayment saved
  reportCommitted committed
  .emit .paymentCreated
  keepReceipt draft.idempotencyKey receipt limit
  report .info "payment initiated"
    [("payment_id", receipt.paymentId.text), ("order_id", draft.orderId),
      ("customer_id", draft.customerId), ("amount", saved.facts.amount.text)]
  return .ok receipt

/-- Creates the payment of a draft, and answers with it. -/
def create (draft : Draft) (deadlines : Deadlines) : Program (Except DomainError Receipt) := do
  match draft.check with
  | .error e => return .error e
  | .ok () =>
    let now ← .query .now
    let id ← .query .paymentId
    match ← .callStoreWithin deadlines.store (.save (draft.issue id now)) with
    -- The payment may be written all the same. A repeat of the command will find it then.
    | none => return named "save payment" deadlines.store none
    | some (answer, saved) => match named "save payment" deadlines.store (some answer) with
      | .error (.duplicateKey _) => followWinner draft.idempotencyKey deadlines
      | .error e => return .error e
      | .ok committed => confirm draft saved committed deadlines.cache

/-- Initiates a payment for a well-formed command. -/
def perform (draft : Draft) (deadlines : Deadlines) : Program (Except DomainError Receipt) := do
  let key := draft.idempotencyKey
  match ← receiptFromCache key deadlines.cache with
  | some receipt =>
    report .info "idempotent replay from cache" [("payment_id", receipt.paymentId.text)]
    return .ok receipt
  | none => match ← lookup "idempotency key lookup" key deadlines.store with
    | .error e => return .error e
    | .ok (some existing) =>
      answerWith existing .storeReplay "idempotent replay from store" key deadlines.cache
    | .ok none => create draft deadlines

end Initiation

/-- Initiates a payment, or finds the one that was initiated under the same key. -/
def initiate (c : InitiatePayment) (deadlines : Deadlines) :
    Program (Except DomainError Receipt) :=
  .inSpan (Initiation.span c) <| match c.validate with
    | .error e => .done (.error e)
    | .ok amount => Initiation.perform (c.draft amount) deadlines

end PayOnce
