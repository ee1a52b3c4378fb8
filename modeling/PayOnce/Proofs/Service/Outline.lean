import PayOnce.Proofs.Service.CacheBlind
/-!
The outline of an initiation. Nothing depends on what is written to the log, so an initiation comes
down to a small tree of calls, questions and signals, in which every answer of a collaborator has a
branch of its own.
-/

namespace PayOnce

/-! ## Programs without their log -/

namespace Program

variable {α β : Type}

/-- The program without its log entries. -/
def unlogged : Program α → Program α
  | done a => done a
  | store c next => store c fun r => (next r).unlogged
  | storeWithin limit c next => storeWithin limit c fun r => (next r).unlogged
  | cacheWithin limit c next => cacheWithin limit c fun r => (next r).unlogged
  | ask q next => ask q fun a => (next a).unlogged
  | signal s next => signal s next.unlogged
  | log _ next => next.unlogged
  | wait d next => wait d next.unlogged

theorem unlogged_bind (p : Program α) (f : α → Program β) :
    (p >>= f).unlogged = p.unlogged >>= fun a => (f a).unlogged := by
  change (p.bind f).unlogged = p.unlogged.bind fun a => (f a).unlogged
  induction p <;> simp_all [bind, unlogged]

theorem unlogged_inSpan (span : LogSpan) (p : Program α) :
    (p.inSpan span).unlogged = p.unlogged := by
  induction p <;> simp_all [inSpan, unlogged]

end Program

namespace Initiation

open Program

/-! ## The outline -/

/-- The error that a failed store call is answered with, given the store's error unless the call was
    dropped at its limit. -/
def failure (operation : String) (limit : Span) : Option DomainError → DomainError
  | some (.infrastructure detail) => .infrastructure (operation ++ ": " ++ detail)
  | some e => e
  | none => .infrastructure (operation ++ ": timed out after " ++ limit.text)

/-- Goes on from the answer to a lookup: with the payment that was found, or without one. -/
def fromLookup (operation : String) (limit : Span)
    (found : Payment → Program (Except DomainError Receipt))
    (nothing : Program (Except DomainError Receipt)) :
    Option (Except DomainError (Option Payment)) → Program (Except DomainError Receipt)
  | some (.ok (some p)) => found p
  | some (.ok none) => nothing
  | some (.error e) => .done (.error (failure operation limit (some e)))
  | none => .done (.error (failure operation limit none))

/-- What there is to find in the cache. -/
inductive Reading
  | receipt (r : Receipt)
  | nothing
  /-- Something that is no receipt. -/
  | spoiled
  /-- The cache cannot be read. -/
  | down

/-- What the cache has told when it was read. -/
def Reading.of : Option (Except CacheError (Option String)) → Reading
  | some (.ok (some entry)) => match Receipt.decode (Json.glyphsOf entry) with
    | .ok r => receipt r
    | .error _ => spoiled
  | some (.ok none) => nothing
  | some (.error (.corrupt _)) => spoiled
  | some (.error _) => down
  | none => down

/-- A receipt is read where the cache has told an entry that one is decoded from. -/
theorem Reading.of_eq_receipt_iff (r : Option (Except CacheError (Option String)))
    (receipt : Receipt) :
    Reading.of r = .receipt receipt ↔ ∃ entry, r = some (.ok (some entry)) ∧
      Receipt.decode (Json.glyphsOf entry) = .ok receipt := by
  rcases r with _ | (reason | reason | limit) | _ | entry
  all_goals simp only [Reading.of, reduceCtorEq, false_and, exists_false, Option.some.injEq,
    Except.ok.injEq, exists_eq_left']
  cases Receipt.decode (Json.glyphsOf entry) <;> simp

/-- Ends with a receipt that is put into the cache, if that can be done. -/
def give (key : String) (receipt : Receipt) (limit : Span) : Program (Except DomainError Receipt) :=
  .cacheWithin limit (.set key receipt.toJson.render receiptTtl) fun _ => .done (.ok receipt)

/-- Ends with the receipt for a payment, after a signal. -/
def announce (s : Signal) (p : Payment) (key : String) (limit : Span) :
    Program (Except DomainError Receipt) :=
  .signal s (give key (.ofPayment p) limit)

/-- Takes over the payment that won the race for a key. -/
def refetch (key : String) (deadlines : Deadlines) : Program (Except DomainError Receipt) :=
  .storeWithin deadlines.store (.findByKey key) <|
    fromLookup "idempotency key re-fetch" deadlines.store
      (announce .creationRaceResolved · key deadlines.cache)
      (.done (.error (.infrastructure ("idempotency key " ++ Text.Quoted.text key
        ++ " rejected as duplicate but no payment holds it"))))

/-- Goes on from the answer to a save. -/
def fromSave (key : String) (deadlines : Deadlines) :
    Option (Except DomainError (List OutboxRow) × Payment) → Program (Except DomainError Receipt)
  | some (.ok _, saved) => announce .paymentCreated saved key deadlines.cache
  | some (.error (.duplicateKey _), _) => refetch key deadlines
  | some (.error e, _) => .done (.error (failure "save payment" deadlines.store (some e)))
  | none => .done (.error (failure "save payment" deadlines.store none))

/-- Creates the payment of a draft. -/
def issueAndSave (draft : Draft) (deadlines : Deadlines) : Program (Except DomainError Receipt) :=
  .ask .now fun now => .ask .paymentId fun id =>
    .storeWithin deadlines.store (.save (draft.issue id now)) <|
      fromSave draft.idempotencyKey deadlines

/-- Looks for the payment that holds the key of a draft, and creates it if there is none. -/
def lookOrCreate (draft : Draft) (deadlines : Deadlines) : Program (Except DomainError Receipt) :=
  .storeWithin deadlines.store (.findByKey draft.idempotencyKey) <|
    fromLookup "idempotency key lookup" deadlines.store
      (announce .storeReplay · draft.idempotencyKey deadlines.cache)
      (issueAndSave draft deadlines)

/-- Goes on from what the cache has told. -/
def fromReading (draft : Draft) (deadlines : Deadlines) :
    Reading → Program (Except DomainError Receipt)
  | .receipt r => .signal .cacheReplay (.done (.ok r))
  | .nothing => lookOrCreate draft deadlines
  | .spoiled => .cacheWithin deadlines.cache (.evict draft.idempotencyKey) fun _ =>
    lookOrCreate draft deadlines
  | .down => .signal .cacheDegraded (lookOrCreate draft deadlines)

/-- The outline of an initiation. -/
def outline (c : InitiatePayment) (deadlines : Deadlines) : Program (Except DomainError Receipt) :=
  match c.validate with
  | .error e => .done (.error e)
  | .ok amount => .cacheWithin deadlines.cache (.get c.idempotencyKey) fun r =>
    fromReading (c.draft amount) deadlines (.of r)

/-! ## The parts of an initiation -/

theorem unlogged_evictCorrupt (key reason : String) (limit : Span) :
    (evictCorrupt key reason limit).unlogged =
      .cacheWithin limit (.evict key) fun _ => .done () := by
  refine congrArg (cacheWithin limit _) (funext fun r => ?_)
  -- In time or not, with or without an error: the answer only decides about a warning.
  rcases r with _ | _ | _ <;> rfl

theorem unlogged_keepReceipt (key : String) (receipt : Receipt) (limit : Span) :
    (keepReceipt key receipt limit).unlogged =
      .cacheWithin limit (.set key receipt.toJson.render receiptTtl) fun _ => .done () := by
  refine congrArg (cacheWithin limit _) (funext fun r => ?_)
  rcases r with _ | _ | _ <;> rfl

theorem unlogged_answerWith (p : Payment) (s : Signal) (note key : String) (limit : Span) :
    (answerWith p s note key limit).unlogged = announce s p key limit := by
  have hkeep := unlogged_bind (keepReceipt key (.ofPayment p) limit)
    fun _ => (return .ok (.ofPayment p) : Program (Except DomainError Receipt))
  rw [unlogged_keepReceipt] at hkeep
  exact congrArg (signal s) hkeep

theorem unlogged_reportCommitted (rows : List OutboxRow) :
    (reportCommitted rows).unlogged = .done () := by
  induction rows with
  | nil => rfl
  | cons r rows ih => exact ih

theorem unlogged_confirm (draft : Draft) (p : Payment) (rows : List OutboxRow) (limit : Span) :
    (confirm draft p rows limit).unlogged =
      announce .paymentCreated p draft.idempotencyKey limit := by
  have hkeep := unlogged_bind (keepReceipt draft.idempotencyKey (.ofPayment p) limit) fun _ => do
    report .info "payment initiated" [("payment_id", p.id.text), ("order_id", draft.orderId),
      ("customer_id", draft.customerId), ("amount", p.facts.amount.text)]
    (return .ok (.ofPayment p) : Program (Except DomainError Receipt))
  rw [unlogged_keepReceipt] at hkeep
  unfold confirm
  rw [unlogged_bind, unlogged_reportCommitted]
  exact congrArg (signal _) hkeep

theorem unlogged_lookup_bind {operation key : String} {limit : Span}
    {f : Except DomainError (Option Payment) → Program (Except DomainError Receipt)}
    {found : Payment → Program (Except DomainError Receipt)}
    {nothing : Program (Except DomainError Receipt)}
    (hfound : ∀ p, (f (.ok (some p))).unlogged = found p)
    (hnothing : (f (.ok none)).unlogged = nothing)
    (herror : ∀ e, (f (.error e)).unlogged = .done (.error e)) :
    (lookup operation key limit >>= f).unlogged =
      .storeWithin limit (.findByKey key) (fromLookup operation limit found nothing) := by
  refine congrArg (storeWithin limit _) (funext fun r => ?_)
  change (f (named operation limit r)).unlogged = _
  rcases r with _ | e | _ | p
  · exact herror _
  · cases e <;> exact herror _
  · exact hnothing
  · exact hfound p

theorem unlogged_followWinner (key : String) (deadlines : Deadlines) :
    (followWinner key deadlines).unlogged = refetch key deadlines :=
  unlogged_lookup_bind (fun p => unlogged_answerWith p _ _ key _) rfl fun _ => rfl

theorem unlogged_create {draft : Draft} (hcheck : draft.check = .ok ()) (deadlines : Deadlines) :
    (create draft deadlines).unlogged = issueAndSave draft deadlines := by
  unfold create
  rw [hcheck]
  refine congrArg (ask .now) (funext fun now => congrArg (ask .paymentId) (funext fun id =>
    congrArg (storeWithin _ _) (funext fun r => ?_)))
  rcases r with _ | ⟨e | rows, saved⟩
  · rfl
  · cases e with
    | duplicateKey key => exact unlogged_followWinner draft.idempotencyKey deadlines
    | _ => rfl
  · exact unlogged_confirm draft saved rows deadlines.cache

theorem unlogged_fromStore {draft : Draft} (hcheck : draft.check = .ok ()) (deadlines : Deadlines) :
    (fromStore draft deadlines).unlogged = lookOrCreate draft deadlines :=
  unlogged_lookup_bind (fun p => unlogged_answerWith p _ _ _ _) (unlogged_create hcheck deadlines)
    fun _ => rfl

/-- What has been heard of the cache decides how an initiation goes on. -/
theorem unlogged_heard {draft : Draft} (hcheck : draft.check = .ok ()) (deadlines : Deadlines)
    (r : Option (Except CacheError (Option String))) :
    ((heard draft.idempotencyKey deadlines.cache (timely deadlines.cache r)).unlogged >>=
        fun found => (resume draft deadlines found).unlogged) =
      fromReading draft deadlines (.of r) := by
  have hstore : (resume draft deadlines none).unlogged = lookOrCreate draft deadlines :=
    unlogged_fromStore hcheck deadlines
  have hdown (fields : Fields) :
      ((do emit .cacheDegraded
           report .warn "idempotency cache unavailable, falling back to store" fields
           return none : Program (Option Receipt)).unlogged >>= fun found =>
        (resume draft deadlines found).unlogged) = fromReading draft deadlines .down :=
    congrArg (signal .cacheDegraded) hstore
  have hspoiled (reason : String) :
      ((do evictCorrupt draft.idempotencyKey reason deadlines.cache
           return none : Program (Option Receipt)).unlogged >>= fun found =>
        (resume draft deadlines found).unlogged) = fromReading draft deadlines .spoiled := by
    rw [unlogged_bind, unlogged_evictCorrupt]
    exact congrArg (cacheWithin _ _) (funext fun _ => hstore)
  rcases r with _ | (reason | reason | limit) | _ | entry
  · exact hdown _
  · exact hdown _
  · exact hspoiled reason
  · exact hdown _
  · exact hstore
  · simp only [timely, heard, Reading.of]
    cases Receipt.decode (Json.glyphsOf entry) with
    | ok receipt => rfl
    | error fault => exact hspoiled _

end Initiation

/-- An initiation does what its outline says. -/
theorem unlogged_initiate (c : InitiatePayment) (deadlines : Deadlines) :
    (initiate c deadlines).unlogged = Initiation.outline c deadlines := by
  unfold Initiation.outline
  cases hvalid : c.validate with
  | error e =>
    unfold initiate
    rw [hvalid]
    rfl
  | ok amount =>
    have hcheck := Initiation.check_draft hvalid
    rw [Initiation.initiate_eq hvalid]
    refine congrArg (Program.cacheWithin _ _) (funext fun r => ?_)
    rw [Program.unlogged_bind, Program.unlogged_inSpan]
    simp only [Program.unlogged_inSpan]
    exact Initiation.unlogged_heard hcheck deadlines r

end PayOnce
