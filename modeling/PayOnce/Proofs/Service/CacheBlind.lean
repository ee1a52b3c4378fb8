import PayOnce.Proofs.Service.Calls
/-!
The cache decides nothing. Once an initiation has found no receipt in the cache, everything that it
still asks of the cache is idle work: whatever becomes of it, the program goes on in the same way.
Two runs with the same store do the same, then, whatever caches they have.
-/

namespace PayOnce

/-! ## Idle work -/

/-- Does an event count, whatever cache there is? -/
def Event.essential : Event → Bool
  | store _ => true
  | signal s => s != .cacheDegraded
  | cache _ => false
  | log _ => false

namespace Program

variable {α β : Type}

/-- The program ends with a value that no answer of the cache has a say in, and all that it does on
    its way is to call the cache, to write to the log, and to signal that the cache is degraded. -/
inductive Idle : Program α → α → Prop
  | done (a : α) : Idle (done a) a
  | cacheWithin {limit : Span} {c : CacheCall} {next : Option c.Reply → Program α} {a : α}
      (h : ∀ r, Idle (next r) a) : Idle (cacheWithin limit c next) a
  | log {e : LogEntry} {p : Program α} {a : α} (h : Idle p a) : Idle (log e p) a
  | degraded {p : Program α} {a : α} (h : Idle p a) : Idle (signal .cacheDegraded p) a

/-- The program does idle work at most between steps that have nothing to do with the cache. -/
inductive Blind : Program α → Prop
  | done (a : α) : Blind (done a)
  | storeWithin {limit : Span} {c : StoreCall} {next : Option c.Reply → Program α}
      (h : ∀ r, Blind (next r)) : Blind (storeWithin limit c next)
  | now {next : Instant → Program α} (h : ∀ t, Blind (next t)) : Blind (ask .now next)
  | paymentId {next : Uuid → Program α} (h : ∀ id, Blind (next id)) : Blind (ask .paymentId next)
  | signal {s : Signal} {p : Program α} (h : Blind p) : Blind (signal s p)
  | idle {γ : Type} {p : Program γ} {a : γ} {f : γ → Program α} (hp : Idle p a)
      (h : Blind (f a)) : Blind (p >>= f)

theorem Idle.bind {p : Program α} {a : α} {f : α → Program β} {b : β} (hp : Idle p a)
    (hf : Idle (f a) b) : Idle (p >>= f) b := by
  induction hp with
  | done a => exact hf
  | cacheWithin h ih => exact .cacheWithin fun r => ih r hf
  | log h ih => exact .log (ih hf)
  | degraded h ih => exact .degraded (ih hf)

theorem Blind.bind {p : Program α} {f : α → Program β} (hp : Blind p) (hf : ∀ a, Blind (f a)) :
    Blind (p >>= f) := by
  induction hp with
  | done a => exact hf a
  | storeWithin h ih => exact .storeWithin ih
  | now h ih => exact .now ih
  | paymentId h ih => exact .paymentId ih
  | signal h ih => exact .signal ih
  | @idle γ p a g hp h ih =>
    rw [LawfulMonad.bind_assoc]
    exact .idle hp ih

theorem Idle.inSpan {p : Program α} {a : α} (h : Idle p a) (span : LogSpan) :
    Idle (p.inSpan span) a := by
  induction h with
  | done a => exact .done a
  | cacheWithin h ih => exact .cacheWithin ih
  | log h ih => exact .log ih
  | degraded h ih => exact .degraded ih

theorem Blind.inSpan {p : Program α} (h : Blind p) (span : LogSpan) : Blind (p.inSpan span) := by
  induction h with
  | done a => exact .done a
  | storeWithin h ih => exact .storeWithin ih
  | now h ih => exact .now ih
  | paymentId h ih => exact .paymentId ih
  | signal h ih => exact .signal ih
  | @idle γ p a f hp h ih =>
    have hbind : (p >>= f).inSpan span = (p.inSpan span) >>= fun a => (f a).inSpan span :=
      inSpan_bind span p f
    rw [hbind]
    exact .idle (hp.inSpan span) ih

end Program

/-! ## Runs with different caches -/

/-- The same surroundings with another cache. -/
def Environment.withCache {σ τ υ : Type} (env : Environment σ τ)
    (cache : υ → (c : CacheCall) → Conduct υ c.Reply) : Environment σ υ :=
  { env with cache }

/-- No call brings its caller down. -/
def Calm {τ : Type} (cache : τ → (c : CacheCall) → Conduct τ c.Reply) : Prop :=
  ∀ t c p, (cache t c).ending ≠ .panic p

/-- Two runs have come equally far, apart from what concerns their caches. -/
structure Progress.Agrees {σ τ υ : Type} (s : Progress σ τ) (s' : Progress σ υ) : Prop where
  store : s.store = s'.store
  issued : s.issued = s'.issued
  events : s.events.filter Event.essential = s'.events.filter Event.essential

namespace Progress

variable {σ τ υ ω : Type}

theorem Agrees.symm {s : Progress σ τ} {s' : Progress σ υ} (h : s.Agrees s') : s'.Agrees s :=
  ⟨h.store.symm, h.issued.symm, h.events.symm⟩

theorem Agrees.trans {s : Progress σ τ} {s' : Progress σ υ} {s'' : Progress σ ω}
    (h : s.Agrees s') (h' : s'.Agrees s'') : s.Agrees s'' :=
  ⟨h.store.trans h'.store, h.issued.trans h'.issued, h.events.trans h'.events⟩

end Progress

namespace Program

variable {α σ τ υ : Type}

theorem Idle.run {env : Environment σ τ} (hcalm : Calm env.cache) {p : Program α} {a : α}
    (h : Idle p a) (s : Progress σ τ) :
    ∃ s', p.run env none s = (.finished a, s') ∧ s'.Agrees s := by
  induction h generalizing s with
  | done a => exact ⟨s, rfl, rfl, rfl, rfl⟩
  | @cacheWithin limit c next a h ih =>
    simp only [Program.run]
    rcases (env.cache s.cache c).verdict_cases limit with
      ⟨r, -, -, hverdict⟩ | ⟨q, hpanic, -⟩ | hverdict
    · obtain ⟨t, ht⟩ := hverdict s.elapsed
      rw [ht]
      obtain ⟨s', hrun, hagrees⟩ := ih (some r) _
      exact ⟨s', hrun, hagrees.store, hagrees.issued, hagrees.events⟩
    · exact absurd hpanic (hcalm _ _ _)
    · obtain ⟨t, ht⟩ := hverdict s.elapsed
      rw [ht]
      obtain ⟨s', hrun, hagrees⟩ := ih none _
      exact ⟨s', hrun, hagrees.store, hagrees.issued, hagrees.events⟩
  | log h ih =>
    obtain ⟨s', hrun, hagrees⟩ := ih _
    exact ⟨s', hrun, hagrees.store, hagrees.issued, hagrees.events⟩
  | degraded h ih =>
    obtain ⟨s', hrun, hagrees⟩ := ih _
    exact ⟨s', hrun, hagrees.store, hagrees.issued, hagrees.events⟩

/-- After idle work a run goes on as if there had been none. -/
theorem Idle.run_bind {env : Environment σ τ} (hcalm : Calm env.cache) {β : Type} {p : Program β}
    {b : β} (h : Idle p b) (f : β → Program α) (s : Progress σ τ) :
    ∃ s', (p >>= f).run env none s = (f b).run env none s' ∧ s'.Agrees s := by
  obtain ⟨s', hrun, hagrees⟩ := h.run hcalm s
  refine ⟨s', ?_, hagrees⟩
  calc (p >>= f).run env none s
      = andThen env none f (p.run env none s) := Program.run_bind env none p f s
    _ = (f b).run env none s' := by rw [hrun]; rfl

/-- Runs that have come equally far end alike, if nothing but idle work concerns the cache. -/
theorem Blind.run {env : Environment σ τ} {cache : υ → (c : CacheCall) → Conduct υ c.Reply}
    (hcalm : Calm env.cache) (hcalm' : Calm cache) {p : Program α} (h : Blind p)
    {s : Progress σ τ} {s' : Progress σ υ} (hs : s.Agrees s') :
    (p.run env none s).1 = (p.run (env.withCache cache) none s').1 ∧
      (p.run env none s).2.Agrees (p.run (env.withCache cache) none s').2 := by
  induction h generalizing s s' with
  | done a => exact ⟨rfl, hs⟩
  | @storeWithin limit c next h ih =>
    have hevents : (Event.store c :: s.events).filter Event.essential =
        (Event.store c :: s'.events).filter Event.essential := by
      rw [List.filter_cons_of_pos rfl, List.filter_cons_of_pos rfl, hs.events]
    have hstore : (env.withCache cache).store = env.store := rfl
    simp only [Program.run, hstore, ← hs.store]
    rcases (env.store s.store c).verdict_cases limit with
      ⟨r, -, -, hverdict⟩ | ⟨q, -, hverdict⟩ | hverdict
    · obtain ⟨t, ht⟩ := hverdict s.elapsed
      obtain ⟨t', ht'⟩ := hverdict s'.elapsed
      rw [ht, ht']
      exact ih (some r) ⟨rfl, hs.issued, hevents⟩
    · obtain ⟨t, ht⟩ := hverdict s.elapsed
      obtain ⟨t', ht'⟩ := hverdict s'.elapsed
      rw [ht, ht']
      exact ⟨rfl, rfl, hs.issued, hevents⟩
    · obtain ⟨t, ht⟩ := hverdict s.elapsed
      obtain ⟨t', ht'⟩ := hverdict s'.elapsed
      rw [ht, ht']
      exact ih none ⟨rfl, hs.issued, hevents⟩
  | now h ih => exact ih env.clock hs
  | @paymentId next h ih =>
    simp only [Program.run, ← hs.issued]
    exact ih _ ⟨hs.store, rfl, hs.events⟩
  | @signal g p h ih =>
    refine ih ⟨hs.store, hs.issued, ?_⟩
    rw [List.filter_cons, List.filter_cons, hs.events]
  | @idle γ p a f hp h ih =>
    obtain ⟨t, hrun, hagrees⟩ := hp.run_bind hcalm f s
    have hcalm'' : Calm (env.withCache cache).cache := hcalm'
    obtain ⟨t', hrun', hagrees'⟩ := hp.run_bind hcalm'' f s'
    rw [hrun, hrun']
    exact ih (hagrees.trans (hs.trans hagrees'.symm))

end Program

/-! ## Initiations -/

namespace Initiation

open Program

theorem idle_report (level : Level) (message : String) (fields : Fields) :
    Idle (report level message fields) () :=
  .log (.done ())

/-- A failure of the cache is at most reported. -/
theorem idle_complain (message : String) (r : Except CacheError Unit) :
    Idle (match r with
      | .ok () => return ()
      | .error e => report .warn message [("error", e.message)]) () := by
  cases r with
  | ok => exact .done ()
  | error e => exact idle_report _ _ _

theorem idle_evictCorrupt (key reason : String) (limit : Span) :
    Idle (evictCorrupt key reason limit) () :=
  .bind (idle_report _ _ _) (.cacheWithin fun r => idle_complain _ (timely limit r))

theorem idle_keepReceipt (key : String) (receipt : Receipt) (limit : Span) :
    Idle (keepReceipt key receipt limit) () :=
  .cacheWithin fun r => idle_complain _ (timely limit r)

theorem idle_reportCommitted (rows : List OutboxRow) : Idle (reportCommitted rows) () := by
  induction rows with
  | nil => exact .done ()
  | cons r rows ih => exact .bind (idle_report _ _ _) ih

theorem idle_degraded : Idle (emit .cacheDegraded) () :=
  .degraded (.done ())

theorem blind_emit (s : Signal) : Blind (emit s) :=
  .signal (.done ())

theorem blind_answerWith (p : Payment) (signal : Signal) (note key : String) (limit : Span) :
    Blind (answerWith p signal note key limit) :=
  .bind (blind_emit _) fun _ =>
    .idle (idle_report _ _ _) (.idle (idle_keepReceipt _ _ _) (.done _))

theorem blind_lookup (operation key : String) (limit : Span) :
    Blind (lookup operation key limit) :=
  .storeWithin fun _ => .done _

theorem blind_followWinner (key : String) (deadlines : Deadlines) :
    Blind (followWinner key deadlines) := by
  refine .bind (blind_lookup _ _ _) fun found => ?_
  rcases found with e | _ | winner
  · exact .done _
  · exact .done _
  · exact blind_answerWith _ _ _ _ _

theorem blind_confirm (draft : Draft) (saved : Payment) (committed : List OutboxRow)
    (limit : Span) : Blind (confirm draft saved committed limit) :=
  .idle (idle_reportCommitted _) (.bind (blind_emit _) fun _ =>
    .idle (idle_keepReceipt _ _ _) (.idle (idle_report _ _ _) (.done _)))

theorem blind_create (draft : Draft) (deadlines : Deadlines) : Blind (create draft deadlines) := by
  unfold create
  cases draft.check with
  | error e => exact .done _
  | ok =>
    refine .now fun now => .paymentId fun id => .storeWithin fun r => ?_
    rcases r with _ | ⟨answer, saved⟩
    · exact .done _
    · simp only [Program.bind]
      -- What the answer of the store comes to: a lost race, another failure or a commit.
      split
      · exact blind_followWinner _ _
      · exact .done _
      · exact blind_confirm _ _ _ _

/-! ## The first look into the cache -/

/-- What is done with the answer to the first call. -/
def heard (key : String) (limit : Span) :
    Except CacheError (Option String) → Program (Option Receipt)
  | .ok none => return none
  | .ok (some entry) => match Receipt.decode (Json.glyphsOf entry) with
    | .ok receipt => do
      .emit .cacheReplay
      return some receipt
    | .error fault => do
      evictCorrupt key fault.message limit
      return none
  | .error (.corrupt reason) => do
    evictCorrupt key reason limit
    return none
  | .error e => do
    .emit .cacheDegraded
    report .warn "idempotency cache unavailable, falling back to store" [("error", e.message)]
    return none

theorem receiptFromCache_eq (key : String) (limit : Span) :
    receiptFromCache key limit =
      .cacheWithin limit (.get key) fun r => heard key limit (timely limit r) := rfl

/-- What is done where the cache holds no receipt. -/
def fromStore (draft : Draft) (deadlines : Deadlines) : Program (Except DomainError Receipt) := do
  match ← lookup "idempotency key lookup" draft.idempotencyKey deadlines.store with
  | .error e => return .error e
  | .ok (some existing) =>
    answerWith existing .storeReplay "idempotent replay from store" draft.idempotencyKey
      deadlines.cache
  | .ok none => create draft deadlines

/-- What is done where the cache holds a receipt, or none. -/
def resume (draft : Draft) (deadlines : Deadlines) :
    Option Receipt → Program (Except DomainError Receipt)
  | some receipt => do
    report .info "idempotent replay from cache" [("payment_id", receipt.paymentId.text)]
    return .ok receipt
  | none => fromStore draft deadlines

theorem perform_eq (draft : Draft) (deadlines : Deadlines) :
    perform draft deadlines =
      receiptFromCache draft.idempotencyKey deadlines.cache >>= resume draft deadlines := by
  refine congrArg (Program.bind _) (funext fun found => ?_)
  cases found <;> rfl

/-- A valid command first asks the cache, and goes on from what it has heard. -/
theorem initiate_eq {c : InitiatePayment} {amount : Money} (hvalid : c.validate = .ok amount)
    (deadlines : Deadlines) :
    initiate c deadlines = .cacheWithin deadlines.cache (.get c.idempotencyKey) fun r =>
      (heard c.idempotencyKey deadlines.cache (timely deadlines.cache r)).inSpan (span c) >>=
        fun found => (resume (c.draft amount) deadlines found).inSpan (span c) := by
  unfold initiate
  rw [hvalid]
  simp only [perform_eq]
  exact congrArg (cacheWithin _ _) (funext fun r => inSpan_bind _ _ _)

theorem blind_fromStore (draft : Draft) (deadlines : Deadlines) :
    Blind (fromStore draft deadlines) := by
  refine .bind (blind_lookup _ _ _) fun found => ?_
  rcases found with e | _ | existing
  · exact .done _
  · exact blind_create _ _
  · exact blind_answerWith _ _ _ _ _

/-- No receipt can be read from the answer. -/
def Unreadable (r : Except CacheError (Option String)) : Prop :=
  ∀ entry receipt, r = .ok (some entry) → Receipt.decode (Json.glyphsOf entry) ≠ .ok receipt

theorem idle_heard {r : Except CacheError (Option String)} (h : Unreadable r) (key : String)
    (limit : Span) : Idle (heard key limit r) none := by
  have hevict (reason : String) :
      Idle (evictCorrupt key reason limit >>= fun _ => return (none : Option Receipt)) none :=
    .bind (idle_evictCorrupt _ _ _) (.done none)
  have hdegraded (fields : Fields) :
      Idle (emit .cacheDegraded >>= fun _ =>
        report .warn "idempotency cache unavailable, falling back to store" fields >>= fun _ =>
          return (none : Option Receipt)) none :=
    .bind idle_degraded (.bind (idle_report _ _ _) (.done none))
  rcases r with (reason | reason | limit') | _ | entry
  · exact hdegraded _
  · exact hevict reason
  · exact hdegraded _
  · exact .done none
  · cases hdecode : Receipt.decode (Json.glyphsOf entry) with
    | ok receipt => exact absurd hdecode (h entry receipt rfl)
    | error fault =>
      simp only [heard, hdecode]
      exact hevict _

/-- The cache gives no receipt for a key in time. -/
def NoReceipt {τ : Type} (cache : τ → (c : CacheCall) → Conduct τ c.Reply) (t : τ) (key : String)
    (limit : Span) : Prop :=
  ∀ r, (cache t (.get key)).ending = .answer r → (cache t (.get key)).delay ≤ limit → Unreadable r

variable {σ τ : Type}

/-- Where the cache gives no receipt, an initiation goes on as if it had not been asked. -/
theorem run_initiate {env : Environment σ τ} (hcalm : Calm env.cache) {c : InitiatePayment}
    {deadlines : Deadlines} {s : Progress σ τ}
    (hget : NoReceipt env.cache s.cache c.idempotencyKey deadlines.cache) {amount : Money}
    (hvalid : c.validate = .ok amount) :
    ∃ s', (initiate c deadlines).run env none s =
        ((fromStore (c.draft amount) deadlines).inSpan (span c)).run env none s' ∧
      s'.Agrees s := by
  have hheard {r : Except CacheError (Option String)} (hr : Unreadable r) (s : Progress σ τ) :=
    ((idle_heard hr c.idempotencyKey deadlines.cache).inSpan (span c)).run_bind hcalm
      (fun found => (resume (c.draft amount) deadlines found).inSpan (span c)) s
  rw [initiate_eq hvalid]
  simp only [Program.run]
  rcases (env.cache s.cache (.get c.idempotencyKey)).verdict_cases deadlines.cache with
    ⟨r, hanswer, hdelay, hverdict⟩ | ⟨p, hpanic, -⟩ | hverdict
  · obtain ⟨t, ht⟩ := hverdict s.elapsed
    rw [ht]
    obtain ⟨s', hrun, hagrees⟩ := hheard (hget r hanswer hdelay) _
    exact ⟨s', hrun, hagrees.store, hagrees.issued, hagrees.events⟩
  · exact absurd hpanic (hcalm _ _ _)
  · -- A late answer is as good as an error.
    obtain ⟨t, ht⟩ := hverdict s.elapsed
    rw [ht]
    have hlate : Unreadable (timely deadlines.cache none) := by
      intro entry receipt heq
      cases heq
    obtain ⟨s', hrun, hagrees⟩ := hheard hlate _
    exact ⟨s', hrun, hagrees.store, hagrees.issued, hagrees.events⟩

/-- A cache that cannot be reached. -/
def unreachable : Unit → (c : CacheCall) → Conduct Unit c.Reply :=
  fun _ c => .immediate () () (Lab.failedCacheReply (.unavailable "connection refused") c)

theorem calm_unreachable : Calm unreachable := by
  intro t c p h
  cases h

theorem noReceipt_unreachable (t : Unit) (key : String) (limit : Span) :
    NoReceipt unreachable t key limit := by
  rintro r hanswer - entry receipt rfl
  cases hanswer

/-- The cache is never a correctness dependency. Where it gives no receipt in time, and whatever it
    does with later calls short of bringing the program down, an initiation answers as it does with
    a cache that cannot be reached, makes the same calls to the store, gives the same signals apart
    from those of a degraded cache, and leaves the same store. -/
theorem cache_never_decides (c : InitiatePayment) (deadlines : Deadlines) {σ τ : Type}
    (env : Environment σ τ) (s : Progress σ τ) (hcalm : Calm env.cache)
    (hget : NoReceipt env.cache s.cache c.idempotencyKey deadlines.cache) :
    let cached := (initiate c deadlines).run env none s
    let uncached := (initiate c deadlines).run (env.withCache unreachable) none
      ⟨s.store, (), s.issued, s.elapsed, s.events⟩
    cached.1 = uncached.1 ∧ cached.2.store = uncached.2.store ∧
      cached.2.issued = uncached.2.issued ∧
      cached.2.events.filter Event.essential = uncached.2.events.filter Event.essential := by
  cases hvalid : c.validate with
  | error e =>
    have hrefused : initiate c deadlines = .done (.error e) := by
      unfold initiate
      rw [hvalid]
      rfl
    rw [hrefused]
    exact ⟨rfl, rfl, rfl, rfl⟩
  | ok amount =>
    obtain ⟨t, hrun, hagrees⟩ := run_initiate hcalm hget hvalid
    have hcalm' : Calm (env.withCache unreachable).cache := calm_unreachable
    obtain ⟨t', hrun', hagrees'⟩ := run_initiate (s := ⟨s.store, (), s.issued, s.elapsed, s.events⟩)
      hcalm' (noReceipt_unreachable _ _ _) hvalid
    have hstart : s.Agrees (⟨s.store, (), s.issued, s.elapsed, s.events⟩ : Progress σ Unit) :=
      ⟨rfl, rfl, rfl⟩
    have hsame : t.Agrees t' := hagrees.trans (hstart.trans hagrees'.symm)
    have hblind := (blind_fromStore (c.draft amount) deadlines).inSpan (span c)
    obtain ⟨houtcome, hends⟩ := hblind.run hcalm calm_unreachable hsame
    rw [hrun, hrun']
    exact ⟨houtcome, hends.store, hends.issued, hends.events⟩

/-- A cache that holds something else than receipts, cannot remove it, and hangs on every write. -/
def spoiled : Unit → (c : CacheCall) → Conduct Unit c.Reply
  | _, .get _ => .immediate () () (.ok (some "no receipt"))
  | _, .set .. => .silent ()
  | _, .evict _ => .immediate () () (.error (.unavailable "connection reset"))
  | _, .ping => .immediate () () (.ok ())

/-- A store in memory beside a spoiled cache. -/
def besideSpoiled : Environment MemoryStore Unit where
  store s c := .immediate s (s.handle c).2 (s.handle c).1
  cache := spoiled
  clock := ⟨10, 0⟩
  paymentId n := ⟨BitVec.ofNat 128 (n + 1)⟩
  correlationId := ⟨99⟩

/-- With a spoiled cache a payment is created all the same. -/
theorem cache_never_decides_spoiled :
    let c : InitiatePayment := ⟨⟨99⟩, "order-1", "customer-1", 100, "USD", "key-1"⟩
    let cached := (initiate c .standard).run besideSpoiled none ⟨{}, (), 0, 0, []⟩
    let uncached := (initiate c .standard).run (besideSpoiled.withCache unreachable) none
      ⟨{}, (), 0, 0, []⟩
    cached.1 = .finished (.ok ⟨⟨1⟩, .pending⟩) ∧ cached.2.store = uncached.2.store ∧
      cached.2.events.filter Event.essential = uncached.2.events.filter Event.essential := by
  have hcalm : Calm spoiled := by
    rintro ⟨⟩ c p h
    cases c <;> cases h
  have hjunk : (Receipt.decode (Json.glyphsOf "no receipt")).toOption = none := by decide +kernel
  have hget (key : String) (limit : Span) : NoReceipt spoiled () key limit := by
    rintro r hanswer - entry receipt rfl hdecode
    cases hanswer
    rw [hdecode] at hjunk
    cases hjunk
  obtain ⟨hanswer, hstore, -, hevents⟩ := cache_never_decides
    ⟨⟨99⟩, "order-1", "customer-1", 100, "USD", "key-1"⟩ .standard besideSpoiled ⟨{}, (), 0, 0, []⟩
    hcalm (hget _ _)
  exact ⟨hanswer.trans (by decide +kernel), hstore, hevents⟩

end Initiation

end PayOnce
