import PayOnce.Proofs.Service.Rules
/-!
What the signals of one initiation tell. Whatever the collaborators do, an answer with a receipt
comes with exactly one of the four signals that name its source, an error comes with none of them,
and the signal that the cache is degraded comes first and tells that the cache could not be read.
-/

namespace PayOnce

/-! ## Exchanges by their kind -/

/-- The signal names the source of a receipt. -/
def Signal.namesSource : Signal → Bool
  | cacheDegraded => false
  | cacheReplay => true
  | storeReplay => true
  | creationRaceResolved => true
  | paymentCreated => true

namespace Exchange

/-- What came of reading the cache. -/
def read? : Exchange → Option (Option (Except CacheError (Option String)))
  | cache (.get _) r => some r
  | cache (.set ..) _ => none
  | cache (.evict _) _ => none
  | cache .ping _ => none
  | store _ _ => none
  | now _ => none
  | paymentId _ => none
  | signal _ => none

/-- What came of looking for a key in the store. -/
def lookup? : Exchange → Option (Option (Except DomainError (Option Payment)))
  | store (.findByKey _) r => some r
  | store (.findById _) _ => none
  | store (.save _) _ => none
  | store .ping _ => none
  | cache _ _ => none
  | now _ => none
  | paymentId _ => none
  | signal _ => none

/-- What came of a save. -/
def save? : Exchange → Option (Option (Except DomainError (List OutboxRow) × Payment))
  | store (.save _) r => some r
  | store (.findByKey _) _ => none
  | store (.findById _) _ => none
  | store .ping _ => none
  | cache _ _ => none
  | now _ => none
  | paymentId _ => none
  | signal _ => none

/-- The exchange is a call to the store. -/
def isStoreCall : Exchange → Bool
  | store _ _ => true
  | cache _ _ => false
  | now _ => false
  | paymentId _ => false
  | signal _ => false

/-- The cache could not be read; an entry that is no receipt has been read all the same. -/
def cacheLost : Option (Except CacheError (Option String)) → Bool
  | none => true
  | some (.ok _) => false
  | some (.error (.corrupt _)) => false
  | some (.error (.unavailable _)) => true
  | some (.error (.timeout _)) => true

end Exchange

/-! ## Accounts -/

section Accounts

variable (es : List Exchange) (x : Exchange)

/-- The signals that were given. -/
def signals : List Signal :=
  es.filterMap Exchange.signal?

/-- The signals that name the source of a receipt. -/
def sources : List Signal :=
  (signals es).filter Signal.namesSource

/-- What came of reading the cache. -/
def reads : List (Option (Except CacheError (Option String))) :=
  es.filterMap Exchange.read?

/-- What came of the lookups in the store. -/
def lookups : List (Option (Except DomainError (Option Payment))) :=
  es.filterMap Exchange.lookup?

/-- What came of the saves. -/
def saves : List (Option (Except DomainError (List OutboxRow) × Payment)) :=
  es.filterMap Exchange.save?

/-- The signal that tells that the cache could not be read, where it has to be given. -/
def degradation : List Signal :=
  if (reads es).any Exchange.cacheLost then [.cacheDegraded] else []

@[simp] theorem signals_concat : signals (es ++ [x]) = signals es ++ x.signal?.toList := by
  cases h : x.signal? <;> simp [signals, h]

@[simp] theorem sources_concat :
    sources (es ++ [x]) = sources es ++ x.signal?.toList.filter Signal.namesSource := by
  simp [sources]

@[simp] theorem reads_concat : reads (es ++ [x]) = reads es ++ x.read?.toList := by
  cases h : x.read? <;> simp [reads, h]

@[simp] theorem lookups_concat : lookups (es ++ [x]) = lookups es ++ x.lookup?.toList := by
  cases h : x.lookup? <;> simp [lookups, h]

@[simp] theorem saves_concat : saves (es ++ [x]) = saves es ++ x.save?.toList := by
  cases h : x.save? <;> simp [saves, h]

/-- The signals are in order: the one that tells of a degraded cache is given once, and first, if
    the cache could not be read; and the source of the receipt is named at most once. -/
def InOrder : Prop :=
  signals es = degradation es ++ sources es ∧ (sources es).length ≤ 1

/-- The signals tell where a receipt comes from. -/
structure Sourced : Prop where
  one : ∃ s, sources es = [s]
  cacheReplay : .cacheReplay ∈ signals es ↔ ∀ x ∈ es, x.isStoreCall = false
  storeReplay : .storeReplay ∈ signals es ↔ ∃ p, (lookups es)[0]? = some (some (.ok (some p)))
  creationRaceResolved : .creationRaceResolved ∈ signals es ↔
    (∃ key q, saves es = [some (.error (.duplicateKey key), q)]) ∧
      ∃ p, (lookups es)[1]? = some (some (.ok (some p)))
  paymentCreated : .paymentCreated ∈ signals es ↔ ∃ rows q, saves es = [some (.ok rows, q)]

/-- The signals tell of an answer. -/
def Accounts : Except DomainError Receipt → Prop
  | .ok _ => Sourced es
  | .error _ => sources es = []

end Accounts

theorem degradation_cases (es : List Exchange) :
    degradation es = [] ∨ degradation es = [.cacheDegraded] := by
  unfold degradation
  split
  · exact .inr rfl
  · exact .inl rfl

/-- A lookup is a call to the store. -/
theorem isStoreCall_of_lookups {es : List Exchange} (h : lookups es ≠ []) :
    ¬ ∀ x ∈ es, x.isStoreCall = false := by
  intro hnone
  apply h
  refine List.filterMap_eq_nil_iff.2 fun x hx => ?_
  have hx := hnone x hx
  cases x with
  | store c r => cases hx
  | _ => rfl

namespace Initiation

/-- What has come of the lookups and the saves so far, while no source has been named. -/
structure Stage (es : List Exchange)
    (ls : List (Option (Except DomainError (Option Payment))))
    (ss : List (Option (Except DomainError (List OutboxRow) × Payment))) : Prop where
  signals : signals es = degradation es
  lookups : lookups es = ls
  saves : saves es = ss

namespace Stage

variable {es : List Exchange} {ls : List (Option (Except DomainError (Option Payment)))}
  {ss : List (Option (Except DomainError (List OutboxRow) × Payment))}

theorem sources (h : Stage es ls ss) : sources es = [] := by
  unfold PayOnce.sources
  rw [h.signals]
  rcases degradation_cases es with hd | hd <;> rw [hd] <;> rfl

theorem inOrder (h : Stage es ls ss) : InOrder es := by
  unfold InOrder
  rw [h.signals, h.sources, List.append_nil]
  exact ⟨rfl, Nat.zero_le 1⟩

/-- An exchange that is neither a signal nor a read of the cache. -/
theorem concat (h : Stage es ls ss) {x : Exchange} (hsignal : x.signal? = none)
    (hread : x.read? = none) :
    Stage (es ++ [x]) (ls ++ x.lookup?.toList) (ss ++ x.save?.toList) := by
  refine ⟨?_, ?_, ?_⟩
  · simpa [degradation, hsignal, hread] using h.signals
  · simp [h.lookups]
  · simp [h.saves]

theorem inOrder_signal (h : Stage es ls ss) {s : Signal} (hs : s.namesSource = true) :
    InOrder (es ++ [.signal s]) := by
  have hsources : PayOnce.sources (es ++ [.signal s]) = [s] := by
    simp [h.sources, Exchange.signal?, hs]
  refine ⟨?_, by rw [hsources]; exact Nat.le_refl 1⟩
  rw [hsources]
  simp [degradation, Exchange.signal?, Exchange.read?, h.signals]

/-- The source that is named now is the only one. -/
theorem mem_signals (h : Stage es ls ss) {s : Signal} (hs : s.namesSource = true) (s' : Signal) :
    s ∈ PayOnce.signals (es ++ [.signal s']) ↔ s = s' := by
  have hdegraded : s ∉ degradation es := by
    rcases degradation_cases es with hd | hd
    · simp [hd]
    · rintro hmem
      rw [hd, List.mem_singleton] at hmem
      subst hmem
      cases hs
  simp [h.signals, hdegraded, Exchange.signal?]

/-- The source that is named now is the right one if it is named where the calls to the store have
    come to what they should have come to, and no other source would be right. -/
theorem sourced (h : Stage es ls ss) {s : Signal} (hs : s.namesSource = true)
    (hcache : s = .cacheReplay ↔ ∀ x ∈ es, x.isStoreCall = false)
    (hstore : s = .storeReplay ↔ ∃ p, ls[0]? = some (some (.ok (some p))))
    (hresolved : s = .creationRaceResolved ↔
      (∃ key q, ss = [some (.error (.duplicateKey key), q)]) ∧
        ∃ p, ls[1]? = some (some (.ok (some p))))
    (hcreated : s = .paymentCreated ↔ ∃ rows q, ss = [some (.ok rows, q)]) :
    Sourced (es ++ [.signal s]) where
  one := ⟨s, by simp [h.sources, Exchange.signal?, hs]⟩
  cacheReplay := by
    rw [h.mem_signals rfl, eq_comm, hcache]
    simp [or_imp, forall_and, Exchange.isStoreCall]
  storeReplay := by
    rw [h.mem_signals rfl, eq_comm, hstore]
    simp [h.lookups, Exchange.lookup?]
  creationRaceResolved := by
    rw [h.mem_signals rfl, eq_comm, hresolved]
    simp [h.lookups, h.saves, Exchange.lookup?, Exchange.save?]
  paymentCreated := by
    rw [h.mem_signals rfl, eq_comm, hcreated]
    simp [h.saves, Exchange.save?]

end Stage

section Obeys

variable {σ τ : Type} {env : Environment σ τ} {j : Journal σ τ}
  {ls : List (Option (Except DomainError (Option Payment)))}
  {ss : List (Option (Except DomainError (List OutboxRow) × Payment))}

/-- What an initiation ends with. -/
def Closed (r : Except DomainError Receipt) (j : Journal σ τ) : Prop :=
  InOrder j.exchanges ∧ Accounts j.exchanges r

/-- No source is named for an error. -/
theorem Stage.closed (h : Stage j.exchanges ls ss) (e : DomainError) : Closed (.error e) j :=
  ⟨h.inOrder, h.sources⟩

/-- The receipt is put into the cache, which changes nothing in the accounts. -/
theorem obeys_give {receipt : Receipt} (horder : InOrder j.exchanges)
    (hsourced : Sourced j.exchanges) (key : String) (limit : Span) :
    (give key receipt limit).Obeys (env.rules InOrder) Closed j := by
  rintro _ rfl
  refine ⟨horder, ?_⟩
  intro r j' hleads
  cases hleads
  refine ⟨?_, ?_⟩
  · simpa [InOrder, degradation, Exchange.signal?, Exchange.read?] using horder
  · obtain ⟨hone, hcache, hstore, hresolved, hcreated⟩ := hsourced
    constructor
    · simpa [Exchange.signal?] using hone
    · simpa [Exchange.signal?, Exchange.isStoreCall, or_imp, forall_and] using hcache
    · simpa [Exchange.signal?, Exchange.lookup?] using hstore
    · simpa [Exchange.signal?, Exchange.lookup?, Exchange.save?] using hresolved
    · simpa [Exchange.signal?, Exchange.save?] using hcreated

theorem obeys_announce (h : Stage j.exchanges ls ss) {s : Signal} (hs : s.namesSource = true)
    (hsourced : Sourced (j.exchanges ++ [.signal s])) (p : Payment) (key : String) (limit : Span) :
    (announce s p key limit).Obeys (env.rules InOrder) Closed j := by
  rintro _ rfl
  refine ⟨trivial, ?_⟩
  rintro _ ⟨⟩
  exact obeys_give (h.inOrder_signal hs) hsourced key limit

/-- A lookup leads on according to its answer. -/
theorem obeys_lookup (h : Stage j.exchanges ls ss) (operation key : String) (limit : Span)
    {found : Payment → Program (Except DomainError Receipt)}
    {nothing : Program (Except DomainError Receipt)}
    (hfound : ∀ (j' : Journal σ τ) p, Stage j'.exchanges (ls ++ [some (.ok (some p))]) ss →
      (found p).Obeys (env.rules InOrder) Closed j')
    (hnothing : ∀ j' : Journal σ τ, Stage j'.exchanges (ls ++ [some (.ok none)]) ss →
      nothing.Obeys (env.rules InOrder) Closed j') :
    (Program.storeWithin limit (.findByKey key) (fromLookup operation limit found nothing)).Obeys
      (env.rules InOrder) Closed j := by
  rintro _ rfl
  refine ⟨h.inOrder, ?_⟩
  intro r j' hleads
  have hstage : Stage j'.exchanges (ls ++ [r]) ss := by
    cases hleads
    simpa [Exchange.lookup?, Exchange.save?] using h.concat (x := .store (.findByKey key) r) rfl rfl
  rcases r with _ | e | _ | p
  · exact hstage.closed _
  · exact hstage.closed _
  · exact hnothing j' hstage
  · exact hfound j' p hstage

theorem obeys_refetch (key : String) {key' : String} {q : Payment}
    (h : Stage j.exchanges [some (.ok none)] [some (.error (.duplicateKey key'), q)])
    (deadlines : Deadlines) :
    (refetch key deadlines).Obeys (env.rules InOrder) Closed j := by
  refine obeys_lookup h _ key _ ?_ ?_
  · intro j' p hstage
    refine obeys_announce hstage rfl (hstage.sourced rfl ?_ ?_ ?_ ?_) p key _
    · simpa using isStoreCall_of_lookups (hstage.lookups ▸ List.cons_ne_nil _ _)
    · simp
    · simp
    · simp
  · intro j' hstage
    exact hstage.closed _

theorem obeys_issueAndSave (h : Stage j.exchanges [some (.ok none)] []) (draft : Draft)
    (deadlines : Deadlines) :
    (issueAndSave draft deadlines).Obeys (env.rules InOrder) Closed j := by
  rintro j rfl
  refine ⟨trivial, ?_⟩
  rintro now _ ⟨⟩ _ rfl
  refine ⟨trivial, ?_⟩
  rintro id _ ⟨⟩ _ rfl
  have hbefore := (h.concat (x := .now env.clock) rfl rfl).concat
    (x := .paymentId (env.paymentId j.issued)) rfl rfl
  refine ⟨hbefore.inOrder, ?_⟩
  intro r j' hleads
  have hstage : Stage j'.exchanges [some (.ok none)] [r] := by
    cases hleads
    exact hbefore.concat (x := .store (.save _) r) rfl rfl
  rcases r with _ | ⟨e | rows, saved⟩
  · exact hstage.closed _
  · cases e with
    | duplicateKey key => exact obeys_refetch _ hstage deadlines
    | _ => exact hstage.closed _
  · refine obeys_announce hstage rfl (hstage.sourced rfl ?_ ?_ ?_ ?_) saved _ _
    · simpa using isStoreCall_of_lookups (hstage.lookups ▸ List.cons_ne_nil _ _)
    · simp
    · simp
    · simp

theorem obeys_lookOrCreate (h : Stage j.exchanges [] []) (draft : Draft) (deadlines : Deadlines) :
    (lookOrCreate draft deadlines).Obeys (env.rules InOrder) Closed j := by
  refine obeys_lookup h _ _ _ ?_ ?_
  · intro j' p hstage
    refine obeys_announce hstage rfl (hstage.sourced rfl ?_ ?_ ?_ ?_) p _ _
    · simpa using isStoreCall_of_lookups (hstage.lookups ▸ List.cons_ne_nil _ _)
    · simp
    · simp
    · simp
  · intro j' hstage
    exact obeys_issueAndSave hstage draft deadlines

/-- The cache is lost where it cannot be read. -/
theorem cacheLost_iff (r : Option (Except CacheError (Option String))) :
    Exchange.cacheLost r = true ↔ Reading.of r = .down := by
  rcases r with _ | (reason | reason | limit) | _ | entry
  all_goals simp only [Exchange.cacheLost, Reading.of, Bool.false_eq_true, reduceCtorEq, false_iff]
  split <;> simp

/-- Once the cache has been read, a degraded one is reported. -/
theorem obeys_fromReading (key : String) {r : Option (Except CacheError (Option String))}
    (hj : j.exchanges = [.cache (.get key) r]) (draft : Draft) (deadlines : Deadlines) :
    (fromReading draft deadlines (.of r)).Obeys (env.rules InOrder) Closed j := by
  have hlost := cacheLost_iff r
  -- As long as the cache is not lost, no signal is due.
  have hstage (hkept : Reading.of r ≠ .down) : Stage j.exchanges [] [] := by
    have hfalse : Exchange.cacheLost r = false := Bool.eq_false_iff.2 fun h => hkept (hlost.1 h)
    rw [hj]
    refine ⟨?_, rfl, rfl⟩
    simp [signals, degradation, reads, Exchange.signal?, Exchange.read?, hfalse]
  generalize Reading.of r = reading at hlost hstage ⊢
  cases reading with
  | receipt receipt =>
    have hstage := hstage (by simp)
    rintro j rfl
    refine ⟨trivial, ?_⟩
    rintro _ ⟨⟩
    refine ⟨hstage.inOrder_signal rfl, hstage.sourced rfl ?_ ?_ ?_ ?_⟩
    · simp [hj, Exchange.isStoreCall]
    · simp
    · simp
    · simp
  | nothing => exact obeys_lookOrCreate (hstage (by simp)) draft deadlines
  | spoiled =>
    have hstage := hstage (by simp)
    rintro j rfl
    refine ⟨hstage.inOrder, ?_⟩
    rintro r' j' hleads
    have hstage' : Stage j'.exchanges [] [] := by
      cases hleads
      exact hstage.concat (x := .cache (.evict _) r') rfl rfl
    exact obeys_lookOrCreate hstage' draft deadlines
  | down =>
    rintro j rfl
    refine ⟨trivial, ?_⟩
    rintro _ ⟨⟩
    have htrue : Exchange.cacheLost r = true := hlost.2 rfl
    refine obeys_lookOrCreate ⟨?_, ?_, ?_⟩ draft deadlines
    · simp [hj, signals, degradation, reads, List.filterMap_cons, Exchange.signal?, Exchange.read?,
        htrue]
    · simp [hj, lookups, Exchange.lookup?]
    · simp [hj, saves, Exchange.save?]

end Obeys

/-- Every run of an initiation keeps its accounts, and keeps its signals in order wherever it stops
    short. -/
theorem accounts_initiate {σ τ : Type} (env : Environment σ τ) (budget : Option Span)
    (c : InitiatePayment) (deadlines : Deadlines) (s : Progress σ τ) :
    InOrder ((initiate c deadlines).exchanges env budget s) ∧
      ∀ r, ((initiate c deadlines).run env budget s).1 = .finished r →
        Accounts ((initiate c deadlines).exchanges env budget s) r := by
  have hnone : Stage [] [] [] := ⟨rfl, rfl, rfl⟩
  have houtline : (outline c deadlines).Obeys (env.rules InOrder) Closed (s.journal []) := by
    unfold outline
    cases c.validate with
    | error e => exact Stage.closed (j := s.journal []) hnone e
    | ok amount =>
      rintro _ rfl
      refine ⟨hnone.inOrder, ?_⟩
      intro r j' hleads
      refine obeys_fromReading c.idempotencyKey ?_ _ deadlines
      cases hleads
      rfl
  rw [← unlogged_initiate, Program.obeys_unlogged] at houtline
  have hleaves := houtline.run budget
  rw [List.nil_append] at hleaves
  generalize ((initiate c deadlines).run env budget s).1 = outcome at hleaves ⊢
  cases outcome with
  | finished a =>
    obtain ⟨horder, haccounts⟩ := hleaves
    refine ⟨horder, ?_⟩
    rintro _ ⟨⟩
    exact haccounts
  | cutOff => exact ⟨hleaves, nofun⟩
  | hung => exact ⟨hleaves, nofun⟩
  | panicked p => exact ⟨hleaves, nofun⟩

end Initiation

end PayOnce
