import PayOnce.Proofs.Service.Rules
/-!
What a receipt tells, and where the payment comes from that an initiation writes. A receipt names
the payment that holds its key and a status that this payment has had. A new payment is made from
the fields of the command at a time that the clock has shown to the initiation.
-/

namespace PayOnce

/-! ## Drafts of commands -/

/-- The payment that a command asks for, with its currency in normal form. -/
def InitiatePayment.asked (c : InitiatePayment) : Draft :=
  c.draft ⟨c.amount, Money.normalCurrency c.currency⟩

/-- The money of a well-formed command is the one that it asks for. -/
theorem InitiatePayment.draft_eq_asked {c : InitiatePayment} {amount : Money}
    (h : c.validate = .ok amount) : c.draft amount = c.asked := by
  unfold validate at h
  obtain ⟨_, -, h⟩ := bind_eq_ok_iff.1 h
  obtain ⟨_, -, h⟩ := bind_eq_ok_iff.1 h
  split at h
  · cases h
  obtain ⟨_, -, h⟩ := bind_eq_ok_iff.1 h
  obtain ⟨_, -, h⟩ := bind_eq_ok_iff.1 h
  unfold Money.make at h
  split at h
  · cases h
  · split at h
    · cases h
      rfl
    · cases h

/-! ## Receipts and the store -/

namespace MemoryStore

/-- A receipt for a key names the stored payment that holds it, in a status that this payment has
    now or had before. -/
def Shows (s : MemoryStore) (key : String) (receipt : Receipt) : Prop :=
  ∃ r ∈ s.payments, r.idempotencyKey = key ∧ r.id = receipt.paymentId ∧
    Relation.ReflTransGen Status.Edge receipt.status r.status

/-- An entry of the cache is the text of such a receipt. -/
def Attests (s : MemoryStore) (key value : String) : Prop :=
  ∃ receipt, Receipt.decode (Json.glyphsOf value) = .ok receipt ∧ s.Shows key receipt

variable {s t : MemoryStore} {key value : String} {receipt : Receipt}

/-- A stored record is shown by its own receipt. -/
theorem shows_ofFacts {r : PaymentFacts} (hr : r ∈ s.payments) :
    s.Shows r.idempotencyKey (.ofPayment (.ofFacts r)) :=
  ⟨r, hr, rfl, rfl, .refl⟩

theorem Ages.shows (h : s.Ages t) (hs : s.Shows key receipt) : t.Shows key receipt := by
  obtain ⟨old, hold, rfl, hid, hstatus⟩ := hs
  obtain ⟨r, hr, hsucceeds⟩ := h old hold
  exact ⟨r, hr, hsucceeds.origin.key, hsucceeds.origin.id.trans hid,
    hstatus.trans hsucceeds.status⟩

theorem Ages.attests (h : s.Ages t) (hs : s.Attests key value) : t.Attests key value := by
  obtain ⟨receipt, hdecode, hshows⟩ := hs
  exact ⟨receipt, hdecode, h.shows hshows⟩

/-- The text of a receipt attests what the receipt shows. -/
theorem Shows.attests (h : s.Shows key receipt) : s.Attests key receipt.toJson.render :=
  ⟨receipt, Receipt.decode_render receipt, h⟩

end MemoryStore

/-! ## The rules of an initiation -/

/-- What an initiation knows of the world: the store, and the times that the clock has shown. -/
structure Stand where
  store : MemoryStore
  times : List Instant

namespace Initiation

open Program

/-- The times that an exchange tells. -/
def readings : Exchange → List Instant
  | .now t => [t]
  | _ => []

/-- What the answer in an exchange tells of the store. -/
def Tells (s : MemoryStore) : Exchange → Prop
  | .store (.findByKey key) (some (.ok (some p))) => s.Shows key (.ofPayment p)
  | .store (.save p) (some (.ok _, q)) => s.Shows p.facts.idempotencyKey (.ofPayment q)
  | .cache (.get key) (some (.ok (some value))) => s.Attests key value
  | _ => True

/-- The rules of an initiation. It saves nothing but what its command asks for, at a time that it
    has read from the clock, and gives nothing to the cache but what a receipt may tell. -/
def faith (c : InitiatePayment) : Rules Stand where
  drift w w' := w.store.Ages w'.store ∧ w'.times = w.times
  allows w
    | .store (.findByKey _) => True
    | .store (.save p) => ∃ id now, now ∈ w.times ∧ p = c.asked.issue id now
    | .store (.findById _) => False
    | .store .ping => False
    | .cache (.set key value _) => w.store.Attests key value
    | _ => True
  leads w _ x w' := w.store.Ages w'.store ∧ w'.times = readings x ++ w.times ∧ Tells w'.store x
  drift_refl _ := ⟨.refl _, rfl⟩
  drift_trans _ _ _ h h' := ⟨h.1.trans h'.1, h'.2.trans h.2⟩

/-- A receipt that is answered shows the payment that holds the key of the command. -/
def Honours (c : InitiatePayment) (r : Except DomainError Receipt) (w : Stand) : Prop :=
  ∀ receipt, r = .ok receipt → w.store.Shows c.idempotencyKey receipt

theorem honours_drift (c : InitiatePayment) (r : Except DomainError Receipt) (w w' : Stand)
    (hdrift : (faith c).drift w w') (h : Honours c r w) : Honours c r w' :=
  fun receipt hr => hdrift.1.shows (h receipt hr)

theorem honours_error {c : InitiatePayment} {e : DomainError} {w : Stand} :
    Honours c (.error e) w := by
  rintro _ ⟨⟩

/-! ### The parts of the outline -/

section Parts

variable {c : InitiatePayment} {w : Stand}

theorem honours_give {receipt : Receipt} (h : w.store.Shows c.idempotencyKey receipt)
    (limit : Span) :
    (give c.idempotencyKey receipt limit).Obeys (faith c) (Honours c) w := by
  intro w' hdrift
  have hshows := hdrift.1.shows h
  refine ⟨hshows.attests, ?_⟩
  rintro r w'' ⟨hages, -⟩ _ ⟨⟩
  exact hages.shows hshows

theorem honours_announce {p : Payment} (h : w.store.Shows c.idempotencyKey (.ofPayment p))
    (signal : Signal) (limit : Span) :
    (announce signal p c.idempotencyKey limit).Obeys (faith c) (Honours c) w := by
  intro w' hdrift
  refine ⟨trivial, ?_⟩
  rintro w'' ⟨hages, -⟩
  exact honours_give (hages.shows (hdrift.1.shows h)) limit

/-- A payment that a lookup has found may be announced. -/
theorem honours_lookup {operation : String} {limit : Span}
    {found : Payment → Program (Except DomainError Receipt)}
    {nothing : Program (Except DomainError Receipt)}
    (hfound : ∀ p w', w'.store.Shows c.idempotencyKey (.ofPayment p) →
      (found p).Obeys (faith c) (Honours c) w')
    (hnothing : ∀ w', nothing.Obeys (faith c) (Honours c) w') :
    Program.Obeys (faith c) (Honours c)
      (.storeWithin limit (.findByKey c.idempotencyKey) (fromLookup operation limit found nothing))
      w := by
  intro w' hdrift
  refine ⟨trivial, ?_⟩
  rintro r w'' ⟨-, -, htells⟩
  rcases r with _ | e | _ | p
  · exact honours_error
  · exact honours_error
  · exact hnothing w''
  · exact hfound p w'' htells

theorem honours_refetch (deadlines : Deadlines) :
    (refetch c.idempotencyKey deadlines).Obeys (faith c) (Honours c) w :=
  honours_lookup (fun _ _ h => honours_announce h _ _) fun _ => honours_error

theorem honours_issueAndSave (deadlines : Deadlines) :
    (issueAndSave c.asked deadlines).Obeys (faith c) (Honours c) w := by
  intro w₁ hdrift₁
  refine ⟨trivial, ?_⟩
  rintro now w₂ ⟨-, htimes₂, -⟩ w₃ hdrift₃
  refine ⟨trivial, ?_⟩
  rintro id w₄ ⟨-, htimes₄, -⟩ w₅ hdrift₅
  -- What was read from the clock before stays known.
  have hread : now ∈ w₅.times := by
    rw [hdrift₅.2, htimes₄, hdrift₃.2, htimes₂]
    exact List.mem_cons_self
  refine ⟨⟨id, now, hread, rfl⟩, ?_⟩
  rintro r w₆ ⟨-, -, htells⟩
  rcases r with _ | ⟨e | rows, saved⟩
  · exact honours_error
  · cases e with
    | duplicateKey key => exact honours_refetch deadlines
    | _ => exact honours_error
  · exact honours_announce htells _ _

theorem honours_lookOrCreate (deadlines : Deadlines) :
    (lookOrCreate c.asked deadlines).Obeys (faith c) (Honours c) w :=
  honours_lookup (fun _ _ h => honours_announce h _ _) fun _ => honours_issueAndSave deadlines

theorem honours_fromReading {r : Option (Except CacheError (Option String))} (deadlines : Deadlines)
    (h : Tells w.store (.cache (.get c.idempotencyKey) r)) :
    (fromReading c.asked deadlines (.of r)).Obeys (faith c) (Honours c) w := by
  have hevict : (fromReading c.asked deadlines .spoiled).Obeys (faith c) (Honours c) w :=
    fun _ _ => ⟨trivial, fun _ _ _ => honours_lookOrCreate deadlines⟩
  have hdown : (fromReading c.asked deadlines .down).Obeys (faith c) (Honours c) w :=
    fun _ _ => ⟨trivial, fun _ _ => honours_lookOrCreate deadlines⟩
  rcases r with _ | (reason | reason | limit) | _ | entry
  · exact hdown
  · exact hdown
  · exact hevict
  · exact hdown
  · exact honours_lookOrCreate deadlines
  · obtain ⟨receipt, hdecode, hshows⟩ := h
    have hof : Reading.of (some (.ok (some entry))) = .receipt receipt := by
      simp only [Reading.of, hdecode]
    rw [hof]
    intro w' hdrift
    refine ⟨trivial, ?_⟩
    rintro w'' ⟨hages, -⟩ _ ⟨⟩
    exact hages.shows (hdrift.1.shows hshows)

end Parts

theorem honours_initiate (c : InitiatePayment) (deadlines : Deadlines) (w : Stand) :
    (initiate c deadlines).Obeys (faith c) (Honours c) w := by
  rw [← obeys_unlogged, unlogged_initiate]
  unfold outline
  cases hvalid : c.validate with
  | error e => exact honours_error
  | ok amount =>
    intro w' hdrift
    refine ⟨trivial, ?_⟩
    rintro r w'' ⟨-, -, htells⟩
    rw [c.draft_eq_asked hvalid]
    exact honours_fromReading deadlines htells

/-! ## Calls of an initiation -/

section Calls

variable {c : InitiatePayment} {w : Stand}

/-- An initiation saves payments that have just been made. -/
theorem fits_of_faith {call : StoreCall} (h : (faith c).allows w (.store call))
    (hs : w.store.Consistent) : ∀ p, call = .save p → w.store.Fits p := by
  rintro p rfl
  obtain ⟨id, now, -, rfl⟩ := h
  exact MemoryStore.fits_issue hs c.asked id now

theorem tells_handle {s : MemoryStore} (hs : s.Consistent) {call : StoreCall} :
    Tells (s.handle call).2 (.store call (some (s.handle call).1)) := by
  cases call with
  | findById id => trivial
  | ping => trivial
  | findByKey key =>
    rw [handle_findByKey]
    cases hfind : s.findKey? key with
    | none => trivial
    | some r =>
      obtain ⟨hr, rfl⟩ := MemoryStore.mem_of_findKey? hfind
      exact MemoryStore.shows_ofFacts hr
  | save p =>
    rw [MemoryStore.handle_save]
    rcases s.save_cases p with ⟨-, -, hsave⟩ | ⟨e, -, hsave⟩ | ⟨-, hsave⟩
    · rw [hsave]
      have hmem : p.facts ∈ (s.written p).payments := (MemoryStore.mem_putRow hs.ids).2 (.inl rfl)
      exact MemoryStore.shows_ofFacts hmem
    · rw [hsave]
      trivial
    · rw [hsave]
      trivial

/-- Whatever happens to a call to the store in memory, the store keeps the rules. -/
theorem leads_store {call : StoreCall} (hallows : (faith c).allows w (.store call))
    (hs : w.store.Consistent) {f : Lab.Fault DomainError} {limit : Span} {t : MemoryStore}
    {r : Option call.Reply} (h : (w.store.faulty f call).outcome limit = (t, some r)) :
    (faith c).leads w limit (.store call r) ⟨t, w.times⟩ := by
  refine ⟨(w.store.touched_faulty h).ages hs (fits_of_faith hallows hs), rfl, ?_⟩
  rcases outcome_conduct f w.store (w.store.handle call).2 (w.store.handle call).1
    (Lab.failedReply · call) (Lab.missedReply call) limit with hnormal | ⟨-, t', o, heq, -, hreply⟩
  · cases hnormal.symm.trans h
    exact tells_handle hs
  · cases heq.symm.trans h
    cases r with
    | none => cases call <;> trivial
    | some x =>
      rcases hreply x rfl with ⟨e, rfl⟩ | hmissed
      · cases call <;> trivial
      · cases call with
        | findByKey key =>
          cases hmissed
          trivial
        | ping => trivial
        | findById id => trivial
        | save p => cases hmissed

/-- So does the cache, as long as everything in it attests what the store knows. -/
theorem leads_cache {m m' : MemoryCache} (hkeeps : m.Keeps w.store.Attests) {call : CacheCall}
    {now : Instant} {f : Lab.Fault CacheError} {limit : Span} {r : Option call.Reply}
    (h : (m.faulty now f call).outcome limit = (m', some r)) :
    (faith c).leads w limit (.cache call r) w := by
  refine ⟨.refl _, rfl, ?_⟩
  cases call with
  | set key value ttl => trivial
  | evict key => trivial
  | ping => trivial
  | get key =>
    rcases r with _ | x | _ | value
    · trivial
    · trivial
    · trivial
    · exact hkeeps.faulty_get h

theorem attests_of_faith {call : CacheCall} (h : (faith c).allows w (.cache call)) :
    ∀ key value ttl, call = .set key value ttl → w.store.Attests key value := by
  rintro key value ttl rfl
  exact h

end Calls

end Initiation

end PayOnce
