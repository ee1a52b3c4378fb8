import PayOnce.Http.Server
import PayOnce.Lab.Collaborators
/-!
Worlds for experiments: a clock that only steps move, the collaborators, and payments that are kept
in hand under names. Each step gives an answer and a report on what can be seen of the world. The
payments that come into a world are numbered, so that they can be told apart without their ids.
-/

namespace PayOnce.Lab

/-- A world. -/
structure World where
  clock : Instant
  store : StoreSide := {}
  cache : CacheSide
  /-- Does the cache's clock move with the world's? -/
  cacheFollows : Bool := true
  /-- The ids of payments in the order in which they came into the world: those handed out, and
      those of unknown payments that were saved. -/
  numbered : List Uuid := []
  deadlines : Deadlines := .standard
  limits : Http.Limits := .standard
  /-- Are signals recorded? -/
  recording : Bool := true
  kept : List (String × Payment) := []
  /-- The ids that steps have given to payments. -/
  given : List Uuid := []

/-- What is done to a payment in hand. -/
inductive Action
  | start (providerRef : String)
  | complete
  | fail (reason : String)
  | drain
  | outboxRows
  | record
  | save
deriving DecidableEq, Repr

/-- A step. -/
inductive Step
  | initiate (c : InitiatePayment)
  | get (id : String)
  | http (r : Http.Request) (plain : Bool)
  | advance (millis : Int)
  | deadlines (cache store : Option Span)
  | storeMode (m : StoreMode)
  | cacheMode (m : CacheMode)
  | newCache
  | storeFaults (t : StoreTarget) (fs : List (Fault DomainError))
  | cacheFaults (t : CacheTarget) (fs : List (Fault CacheError))
  | outboxFails (b : Bool)
  | database (replies : List (Option SqlReply))
  | cacheInsert (key value : String)
  | cachePeek (key : String)
  | cache (c : CacheCall)
  | storePing
  | create (name orderId customerId : String) (amount : Int) (currency key : String)
  | ofFacts (name : String) (row : PaymentRow)
  | load (name id : String)
  | loadKey (name key : String)
  | act (name : String) (a : Action)
  | dump (keys : List String)
deriving Repr

/-- What an action on a payment returns. -/
inductive Returned
  | ok
  | failed (e : DomainError)
  | records (rs : List OutboxRow)
  | record (r : PaymentFacts)
deriving Repr

/-- The answer to a step. -/
inductive Answer
  | ok
  | failed (e : DomainError)
  | cacheFailed (e : CacheError)
  /-- The step never ends. -/
  | hang
  /-- The step panics. -/
  | panicked
  /-- No payment is kept under the name. -/
  | noSuchPayment
  | receipt (r : Receipt)
  | view (v : PaymentView)
  | text (s : Option String)
  | payment (p : Option Payment)
  | returned (r : Returned) (p : Payment)
  | dump (payments : List PaymentFacts) (outbox : List OutboxRow)
  | served (r : Http.Response) (row : Option Http.MetricsRow)
deriving Repr

/-- What can be seen of a world after a step. -/
structure Report where
  answer : Answer
  payments : Nat
  outbox : Nat
  lookups : Nat
  saves : Nat
  cacheCalls : Nat
  signals : List Signal
  entries : List LogEntry
  statements : List Statement
deriving Repr

/-- The id of the payment that comes into a world after `n` others, unless it has one already. -/
def paymentId (n : Nat) : Uuid :=
  ⟨BitVec.ofNat 128 (0x9d3c5f1e72b04a86b1d7000000000000 + n)⟩

/-- The id under which the payment is shown that came into a world after `n` others. -/
def shownId (n : Nat) : Uuid :=
  ⟨BitVec.ofNat 128 (0x4000 * Nat.pow 2 64 + 0x8000 * Nat.pow 2 48 + (n + 1))⟩

/-- The id that is handed out for everything that is not a payment. -/
def anonymousId : Uuid :=
  ⟨BitVec.ofNat 128 0x5e8b1c940f6d43279a1ec47d20b6f358⟩

namespace World

/-- A world at its start. -/
def start (clock : Instant) : World :=
  { clock, cache := { clock } }

/-- The surroundings of a run in a world. -/
def environment (w : World) : Environment StoreSide CacheSide where
  store := StoreSide.conduct
  cache := CacheSide.conduct
  clock := w.clock
  paymentId := paymentId
  correlationId := anonymousId

/-- Where a run in a world starts. -/
def progress (w : World) : Progress StoreSide CacheSide :=
  ⟨w.store, w.cache, w.numbered.length, 0, []⟩

/-- Numbers the payments whose ids were handed out since the last one was numbered. -/
def numberUpTo (w : World) (issued : Nat) : World :=
  let fresh := (List.range issued).drop w.numbered.length
  { w with numbered := w.numbered ++ fresh.map paymentId }

/-- The world after a run. -/
def after (w : World) (s : Progress StoreSide CacheSide) : World :=
  { w with store := s.store, cache := s.cache }.numberUpTo s.issued

/-- The ids of payments, each with the one under which it is shown. -/
def shownIds (w : World) : List (Uuid × Uuid) :=
  w.numbered.mapIdx fun n id => (id, shownId n)

/-- The answer to a step that ran a program. -/
def answerOf {α : Type} (enc : α → Answer) : Outcome (Except DomainError α) → Answer
  | .finished (.ok a) => enc a
  | .finished (.error e) => .failed e
  | .cutOff | .hung => .hang
  | .panicked _ => .panicked

/-- Runs a program in a world without any limit. -/
def runProgram {α : Type} (w : World) (enc : α → Answer)
    (p : Program (Except DomainError α)) : Answer × List Event × World :=
  let (outcome, s) := p.run w.environment none w.progress
  (answerOf enc outcome, s.events.reverse, w.after s)

/-- The payment that is kept under a name. -/
def kept? (w : World) (name : String) : Option Payment :=
  w.kept.lookup name

/-- Keeps a payment under a name. -/
def keep (w : World) (name : String) (p : Payment) : World :=
  { w with kept := (name, p) :: w.kept.filter (·.1 != name) }

/-- Keeps nothing under a name. -/
def drop (w : World) (name : String) : World :=
  { w with kept := w.kept.filter (·.1 != name) }

/-- The reply to a call that nobody cuts off, and the collaborator afterwards. -/
def settle {σ ρ : Type} (c : Conduct σ ρ) : Outcome ρ × σ :=
  match c.ending with
  | .answer r => (.finished r, c.settled)
  | .never => (.hung, c.underway)
  | .panic p => (.panicked p, c.settled)

/-- Makes a call to the store. -/
def callStore (w : World) (c : StoreCall) : Outcome c.Reply × World :=
  let (r, store) := settle (w.store.conduct c)
  (r, { w with store })

/-- The answer to a call to the cache. -/
def cacheAnswer : (c : CacheCall) → Outcome c.Reply → Answer
  | .get _, .finished (.ok v) => .text v
  | .set .., .finished (.ok ()) => .ok
  | .evict _, .finished (.ok ()) => .ok
  | .ping, .finished (.ok ()) => .ok
  | .get _, .finished (.error e) => .cacheFailed e
  | .set .., .finished (.error e) => .cacheFailed e
  | .evict _, .finished (.error e) => .cacheFailed e
  | .ping, .finished (.error e) => .cacheFailed e
  | _, .panicked _ => .panicked
  | _, .cutOff => .hang
  | _, .hung => .hang

/-- Makes a call to the cache. -/
def callCache (w : World) (c : CacheCall) : Answer × World :=
  let (r, cache) := settle (w.cache.conduct c)
  (cacheAnswer c r, { w with cache })

/-- Keeps a payment that was loaded, and shows it. -/
def keepLoaded (w : World) (name : String) (p : Payment) : Answer × World :=
  (.payment (some p), w.keep name p)

/-- Creates a payment. -/
def create (w : World) (name orderId customerId : String) (amount : Int) (currency key : String) :
    Answer × World :=
  match Money.make amount currency with
  | .error e => (.failed e, w)
  | .ok money =>
    let draft : Draft := ⟨orderId, customerId, money, key⟩
    match draft.check with
    | .error e => (.failed e, w)
    | .ok () =>
      let n := w.numbered.length
      (w.numberUpTo (n + 1)).keepLoaded name (draft.issue (paymentId n) w.clock)

/-- Loads a payment by its id. -/
def load (w : World) (name id : String) : Answer × World :=
  match readPaymentId id with
  | .error e => (.failed e, w)
  | .ok id => match w.callStore (.findById id) with
    | (.finished (.ok p), w) => w.keepLoaded name p
    | (.finished (.error e), w) => (.failed e, w)
    | (.panicked _, w) => (.panicked, w)
    | (_, w) => (.hang, w)

/-- Loads the payment that holds a key. -/
def loadKey (w : World) (name key : String) : Answer × World :=
  match w.callStore (.findByKey key) with
  | (.finished (.ok (some p)), w) => w.keepLoaded name p
  | (.finished (.ok none), w) => (.payment none, w)
  | (.finished (.error e), w) => (.failed e, w)
  | (.panicked _, w) => (.panicked, w)
  | (_, w) => (.hang, w)

/-- Was the id numbered, or given by a step? -/
def knows (w : World) (id : Uuid) : Bool :=
  w.numbered.contains id || w.given.contains id

/-- Takes note of a payment that is saved. One that is not known is numbered like a new one. -/
def notice (w : World) (id : Uuid) : World :=
  if w.knows id then w else { w with numbered := w.numbered ++ [id] }

/-- Saves a payment in hand. A payment whose save never ends is gone. -/
def saveKept (w : World) (name : String) (p : Payment) : Answer × World :=
  match (w.notice p.id).callStore (.save p) with
  | (.finished (.ok rs, p), w) => (.returned (.records rs) p, w.keep name p)
  | (.finished (.error e, p), w) => (.returned (.failed e) p, w.keep name p)
  | (.panicked _, w) => (.panicked, w.drop name)
  | (_, w) => (.hang, w.drop name)

/-- Shows what a move returned; the payment stays as it is when the move is refused. -/
def moved (w : World) (name : String) (p : Payment) :
    Except DomainError Payment → Answer × World
  | .ok p => (.returned .ok p, w.keep name p)
  | .error e => (.returned (.failed e) p, w)

/-- Rows of the outbox, or why there are none. -/
def returnedRows : Except DomainError (List OutboxRow) → Returned
  | .ok rs => .records rs
  | .error e => .failed e

/-- Does something to a payment in hand. -/
def act (w : World) (name : String) (p : Payment) : Action → Answer × World
  | .start providerRef => w.moved name p (p.start providerRef w.clock)
  | .complete => w.moved name p (p.complete w.clock)
  | .fail reason => w.moved name p (p.fail reason w.clock)
  | .drain => (.returned (returnedRows p.outboxRows) p.drained, w.keep name p.drained)
  | .outboxRows => (.returned (returnedRows p.outboxRows) p, w)
  | .record => (.returned (.record p.facts) p, w)
  | .save => w.saveKept name p

/-- Serves a request. -/
def http (w : World) (r : Http.Request) (plain : Bool) : Answer × List Event × World :=
  let limits := if plain then Http.Limits.standard else w.limits
  let served := Http.serve w.environment w.deadlines limits anonymousId r w.progress
  (.served served.response (if plain then none else served.row), served.progress.events.reverse,
    w.after served.progress)

/-- Moves the clock. -/
def advance (w : World) (millis : Int) : World :=
  let nanos := millis * 1000000
  { w with
    clock := w.clock.shift nanos
    cache := if w.cacheFollows then { w.cache with clock := w.cache.clock.shift nanos }
      else w.cache }

/-- An answer that leaves no trace of events. -/
def quiet (r : Answer × World) : Answer × List Event × World :=
  (r.1, [], r.2)

/-- Takes a step. -/
def perform (w : World) : Step → Answer × List Event × World
  | .initiate c => w.runProgram .receipt (PayOnce.initiate c w.deadlines)
  | .get id => match readPaymentId id with
    | .error e => (.failed e, [], w)
    | .ok id => w.runProgram .view (viewPayment id)
  | .http r plain => w.http r plain
  | .advance millis => (.ok, [], w.advance millis)
  | .deadlines cache store =>
    (.ok, [], { w with
      deadlines := ⟨cache.getD w.deadlines.cache, store.getD w.deadlines.store⟩ })
  | .storeMode mode => (.ok, [], { w with store := { w.store with mode } })
  | .cacheMode mode => (.ok, [], { w with cache := { w.cache with mode } })
  | .newCache =>
    (.ok, [], { w with cache := { w.cache with memory := {}, clock := w.clock }
                       cacheFollows := true })
  | .storeFaults t fs => (.ok, [], { w with store := w.store.addFaults t fs })
  | .cacheFaults t fs => (.ok, [], { w with cache := w.cache.addFaults t fs })
  | .outboxFails b =>
    (.ok, [], { w with
      store := { w.store with memory := { w.store.memory with outboxFails := b } } })
  | .database replies =>
    (.ok, [], { w with store := { w.store with script := { w.store.script with replies } } })
  | .cacheInsert key value =>
    (.ok, [], { w with
      cache := { w.cache with memory := w.cache.memory.insert w.cache.clock key value } })
  | .cachePeek key => (.text (w.cache.memory.peek w.cache.clock key), [], w)
  | .cache c => quiet (w.callCache c)
  | .storePing => match w.callStore .ping with
    | (.finished (.ok ()), w) => (.ok, [], w)
    | (.finished (.error e), w) => (.failed e, [], w)
    | (.panicked _, w) => (.panicked, [], w)
    | (_, w) => (.hang, [], w)
  | .create name orderId customerId amount currency key =>
    quiet (w.create name orderId customerId amount currency key)
  | .ofFacts name row => match row.toFacts with
    | .error e => (.failed e, [], w)
    | .ok r => quiet ({ w with given := r.id :: w.given }.keepLoaded name (.ofFacts r))
  | .load name id => quiet (w.load name id)
  | .loadKey name key => quiet (w.loadKey name key)
  | .act name a => match w.kept? name with
    | none => (.noSuchPayment, [], w)
    | some p => quiet (w.act name p a)
  | .dump keys =>
    (.dump (keys.flatMap w.store.memory.withKey) w.store.memory.outbox, [], w)

/-- The signal of an event. -/
def signalOf : Event → Option Signal
  | .signal s => some s
  | _ => none

/-- The log entry of an event. -/
def entryOf : Event → Option LogEntry
  | .log e => some e
  | _ => none

/-- What can be seen after a step. -/
def report (w : World) (answer : Answer) (events : List Event) : Report where
  answer
  payments := w.store.memory.payments.length
  outbox := w.store.memory.outbox.length
  lookups := w.store.memory.lookups
  saves := w.store.memory.saves
  cacheCalls := w.cache.memory.calls
  signals := if w.recording then events.filterMap signalOf else []
  entries := events.filterMap entryOf
  statements := w.store.script.sent.reverse

/-- Takes a step and reports. -/
def step (w : World) (s : Step) : Report × World :=
  let w := { w with store := { w.store with script := { w.store.script with sent := [] } } }
  let (answer, events, w) := w.perform s
  (w.report answer events, w)

end World

end PayOnce.Lab
