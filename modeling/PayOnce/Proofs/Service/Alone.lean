import PayOnce.Lab.World
import PayOnce.Proofs.Service.Order
/-!
An initiation by itself. Every call that it makes has a limit, so it always ends; and what the
program runner makes of it, over collaborators in memory and their queued faults, is what comes of
some sequence of actions of the system in which initiations run side by side.
-/

namespace PayOnce

/-! ## Programs that never wait without a limit -/

namespace Program

variable {α β : Type}

/-- Every call has a limit, and nothing is asked but the clock and ids of payments. -/
def Limited : Program α → Prop
  | done _ => True
  | store _ _ => False
  | storeWithin _ _ next => ∀ r, (next r).Limited
  | cacheWithin _ _ next => ∀ r, (next r).Limited
  | ask .now next => ∀ a, (next a).Limited
  | ask .paymentId next => ∀ a, (next a).Limited
  | ask .correlationId _ => False
  | ask .elapsed _ => False
  | signal _ next => next.Limited
  | log _ next => next.Limited
  | wait _ next => next.Limited

theorem Limited.bind {p : Program α} {f : α → Program β} (hp : p.Limited)
    (hf : ∀ a, (f a).Limited) : (p >>= f).Limited := by
  change (p.bind f).Limited
  induction p with
  | done a => exact hf a
  | store c next ih => exact hp.elim
  | storeWithin limit c next ih => exact fun r => ih r (hp r)
  | cacheWithin limit c next ih => exact fun r => ih r (hp r)
  | ask q next ih =>
    cases q with
    | now => exact fun a => ih a (hp a)
    | paymentId => exact fun a => ih a (hp a)
    | correlationId => exact hp.elim
    | elapsed => exact hp.elim
  | signal s next ih => exact ih hp
  | log e next ih => exact ih hp
  | wait d next ih => exact ih hp

theorem Limited.inSpan {p : Program α} (hp : p.Limited) (span : LogSpan) :
    (p.inSpan span).Limited := by
  induction p with
  | done a => trivial
  | store c next ih => exact hp.elim
  | storeWithin limit c next ih => exact fun r => ih r (hp r)
  | cacheWithin limit c next ih => exact fun r => ih r (hp r)
  | ask q next ih =>
    cases q with
    | now => exact fun a => ih a (hp a)
    | paymentId => exact fun a => ih a (hp a)
    | correlationId => exact hp.elim
    | elapsed => exact hp.elim
  | signal s next ih => exact ih hp
  | log e next ih => exact ih hp
  | wait d next ih => exact ih hp

theorem limited_callStoreWithin (limit : Span) (c : StoreCall) :
    (callStoreWithin limit c).Limited := fun _ => trivial

theorem limited_callCacheWithin (limit : Span) (c : CacheCall) :
    (callCacheWithin limit c).Limited := fun _ => trivial

end Program

namespace Initiation

open Program

theorem limited_evictCorrupt (key reason : String) (limit : Span) :
    (evictCorrupt key reason limit).Limited := by
  refine (limited_callCacheWithin limit (.evict key)).bind ?_
  intro r
  cases timely limit r <;> trivial

theorem limited_receiptFromCache (key : String) (limit : Span) :
    (receiptFromCache key limit).Limited := by
  have hevict (reason : String) :
      (do evictCorrupt key reason limit; return none : Program (Option Receipt)).Limited :=
    (limited_evictCorrupt key reason limit).bind fun _ => trivial
  unfold receiptFromCache
  refine (limited_callCacheWithin limit (.get key)).bind ?_
  intro r
  split
  · trivial
  · split
    · trivial
    · exact hevict _
  · exact hevict _
  · trivial

theorem limited_keepReceipt (key : String) (receipt : Receipt) (limit : Span) :
    (keepReceipt key receipt limit).Limited := by
  refine (limited_callCacheWithin limit _).bind ?_
  intro r
  cases timely limit r <;> trivial

theorem limited_lookup (operation key : String) (limit : Span) :
    (lookup operation key limit).Limited :=
  (limited_callStoreWithin limit _).bind fun _ => trivial

theorem limited_answerWith (p : Payment) (signal : Signal) (note key : String) (limit : Span) :
    (answerWith p signal note key limit).Limited :=
  (limited_keepReceipt key _ limit).bind fun _ => trivial

theorem limited_followWinner (key : String) (deadlines : Deadlines) :
    (followWinner key deadlines).Limited := by
  refine (limited_lookup _ key deadlines.store).bind ?_
  rintro (e | _ | winner)
  · trivial
  · trivial
  · exact limited_answerWith _ _ _ _ _

theorem limited_reportCommitted (rows : List OutboxRow) : (reportCommitted rows).Limited := by
  induction rows with
  | nil => trivial
  | cons r rows ih => exact ih

theorem limited_confirm (draft : Draft) (p : Payment) (rows : List OutboxRow) (limit : Span) :
    (confirm draft p rows limit).Limited := by
  refine (limited_reportCommitted rows).bind ?_
  intro _
  exact (limited_keepReceipt _ _ limit).bind fun _ => trivial

theorem limited_create (draft : Draft) (deadlines : Deadlines) :
    (create draft deadlines).Limited := by
  unfold create
  split
  · trivial
  · intro now id
    refine (limited_callStoreWithin deadlines.store _).bind ?_
    rintro (_ | ⟨answer, saved⟩)
    · trivial
    · simp only
      split
      · exact limited_followWinner _ _
      · trivial
      · exact limited_confirm _ _ _ _

theorem limited_perform (draft : Draft) (deadlines : Deadlines) :
    (perform draft deadlines).Limited := by
  refine (limited_receiptFromCache _ deadlines.cache).bind ?_
  rintro (_ | receipt)
  · refine (limited_lookup _ _ deadlines.store).bind ?_
    rintro (e | _ | existing)
    · trivial
    · exact limited_create _ _
    · exact limited_answerWith _ _ _ _ _
  · trivial

end Initiation

/-- An initiation never waits without a limit. -/
theorem limited_initiate (c : InitiatePayment) (deadlines : Deadlines) :
    (initiate c deadlines).Limited := by
  refine Program.Limited.inSpan ?_ _
  cases c.validate with
  | error e => trivial
  | ok amount => exact Initiation.limited_perform _ _

/-! ## Calls that go alike -/

/-- Two collaborators treat a call alike: the caller sees no difference, and their states stay
    related. -/
structure Conduct.Alike {σ τ ρ : Type} (R : σ → τ → Prop) (c : Conduct σ ρ) (d : Conduct τ ρ) :
    Prop where
  underway : R c.underway d.underway
  delay : c.delay = d.delay
  settled : R c.settled d.settled
  ending : c.ending = d.ending

section Alike

variable {σ τ ρ : Type} {R : σ → τ → Prop}

theorem alike_immediate {s s' : σ} {t t' : τ} (h : R s t) (h' : R s' t') (r : ρ) :
    (Conduct.immediate s s' r).Alike R (.immediate t t' r) :=
  ⟨h, rfl, h', rfl⟩

theorem alike_conduct {ε : Type} (f : Lab.Fault ε) {s : σ} {t : τ} (h : R s t)
    {c : Conduct σ ρ} {d : Conduct τ ρ} (hcd : c.Alike R d) (failed : ε → ρ) (missed : Option ρ) :
    (f.conduct s c failed missed).Alike R (f.conduct t d failed missed) := by
  cases f with
  | ok => exact hcd
  | hang => exact ⟨h, rfl, h, rfl⟩
  | delay d => exact ⟨h, congrArg (d + ·) hcd.delay, hcd.settled, hcd.ending⟩
  | commitThenHang => exact ⟨hcd.settled, rfl, hcd.settled, rfl⟩
  | fail e => exact alike_immediate h h _
  | miss =>
    cases missed with
    | none => exact hcd
    | some r => exact alike_immediate h h r
  | panic p => exact ⟨h, rfl, h, rfl⟩

/-- What the runner makes of a limited call is the outcome for its caller, whenever it starts. -/
theorem Conduct.Alike.outcome {c : Conduct σ ρ} {d : Conduct τ ρ} (h : c.Alike R d)
    (limit start : Span) :
    (∃ t r y, c.verdict (some limit) none start = .ended t r ∧
        d.outcome limit = (y, some (some r)) ∧ R c.settled y) ∨
      (∃ t y, c.verdict (some limit) none start = .expired t ∧
        d.outcome limit = (y, some none) ∧ R c.underway y) ∨
      ∃ t p y, c.verdict (some limit) none start = .panicked t p ∧
        d.outcome limit = (y, none) ∧ R c.settled y := by
  obtain ⟨underway, delay, settled, ending⟩ := c
  obtain ⟨underway', delay', settled', ending'⟩ := d
  obtain ⟨hunderway, rfl, hsettled, rfl⟩ := h
  -- Without a budget, only the delay and the ending decide, not the instant of the start.
  by_cases hdelay : delay ≤ limit
  · cases ending with
    | answer r =>
      refine .inl ⟨start + delay, r, settled', ?_, ?_, hsettled⟩
      · simp [Conduct.verdict, withinBudget, hdelay]
      · simp [Conduct.outcome, Conduct.verdict, withinBudget, hdelay]
    | never =>
      refine .inr (.inl ⟨start + limit, underway', ?_, ?_, hunderway⟩)
      · simp [Conduct.verdict, withinBudget]
      · simp [Conduct.outcome, Conduct.verdict, withinBudget]
    | panic p =>
      refine .inr (.inr ⟨start + delay, p, settled', ?_, ?_, hsettled⟩)
      · simp [Conduct.verdict, withinBudget, hdelay]
      · simp [Conduct.outcome, Conduct.verdict, withinBudget, hdelay]
  · refine .inr (.inl ⟨start + limit, underway', ?_, ?_, hunderway⟩)
    · cases ending <;> simp [Conduct.verdict, withinBudget, hdelay]
    · cases ending <;> simp [Conduct.outcome, Conduct.verdict, withinBudget, hdelay]

end Alike

/-- The store of an experiment is a store in memory. -/
def Lab.StoreSide.Is (a : Lab.StoreSide) (s : MemoryStore) : Prop :=
  a.mode = .memory ∧ a.memory = s

/-- The cache of an experiment is a cache in memory with a clock. -/
def Lab.CacheSide.Is (now : Instant) (a : Lab.CacheSide) (m : MemoryCache) : Prop :=
  a.mode = .memory ∧ a.memory = m ∧ a.clock = now

/-- Whatever fault comes next in the queues, some fault of the system is like it. -/
theorem alike_store {a : Lab.StoreSide} {s : MemoryStore} (h : a.Is s) (c : StoreCall) :
    ∃ f, (a.conduct c).Alike Lab.StoreSide.Is (s.faulty f c) := by
  have hnormal {b : Lab.StoreSide} (hb : b.Is s) :
      (b.normal c).Alike Lab.StoreSide.Is (.immediate s (s.handle c).2 (s.handle c).1) := by
    obtain ⟨memory, script, mode, faults⟩ := b
    obtain ⟨rfl, rfl⟩ := hb
    exact alike_immediate ⟨rfl, rfl⟩ ⟨rfl, rfl⟩ _
  unfold Lab.StoreSide.conduct
  split
  · exact ⟨.ok, hnormal h⟩
  · next f rest hfaults =>
    have hrest : Lab.StoreSide.Is
        { a with faults := fun t => if t = .of c then rest else a.faults t } s := h
    exact ⟨f, alike_conduct f hrest (hnormal hrest) _ _⟩

theorem alike_cache {a : Lab.CacheSide} {now : Instant} {m : MemoryCache} (h : a.Is now m)
    (c : CacheCall) :
    ∃ f, (a.conduct c).Alike (Lab.CacheSide.Is now) (m.faulty now f c) := by
  have hnormal {b : Lab.CacheSide} (hb : b.Is now m) :
      (b.normal c).Alike (Lab.CacheSide.Is now)
        (.immediate m (m.handle now c).2 (m.handle now c).1) := by
    obtain ⟨memory, clock, mode, faults⟩ := b
    obtain ⟨rfl, rfl, rfl⟩ := hb
    exact alike_immediate ⟨rfl, rfl, rfl⟩ ⟨rfl, rfl, rfl⟩ _
  unfold Lab.CacheSide.conduct
  split
  · exact ⟨.ok, hnormal h⟩
  · next f rest hfaults =>
    have hrest : Lab.CacheSide.Is now
        { a with faults := fun t => if t = .of c then rest else a.faults t } m := h
    exact ⟨f, alike_conduct f hrest (hnormal hrest) _ _⟩

/-! ## Runs by themselves -/

namespace Traffic

/-- The progress of a run shows the same collaborators as the system. -/
structure Shows (env : Environment Lab.StoreSide Lab.CacheSide)
    (g : Progress Lab.StoreSide Lab.CacheSide) (s : Traffic) : Prop where
  store : g.store.Is s.desk.store
  cache : g.cache.Is env.clock s.cache
  clock : env.clock = s.clock

/-- The end of a run, as the system has it. -/
def Ends (r : Outcome (Except DomainError Receipt)) (f : Flight) : Prop :=
  match r with
  | .finished a => f.answer = some a
  | .panicked _ => f.rest = none
  | .cutOff => False
  | .hung => False

theorem onFlight_of_rest {s : Traffic} {i : Nat} {f : Flight}
    {p : Program (Except DomainError Receipt)} (hf : s.flights[i]? = some f)
    (hp : f.rest = some p) (act : Flight → Program (Except DomainError Receipt) → Traffic) :
    s.onFlight i act = act f p := by
  unfold onFlight
  rw [hf]
  simp only [hp]

theorem getElem?_set_of_getElem? {α : Type} {l : List α} {i : Nat} {a : α} (h : l[i]? = some a)
    (b : α) : (l.set i b)[i]? = some b :=
  List.getElem?_set_self (List.getElem?_eq_some_iff.1 h).1

theorem getElem?_goOn {s : Traffic} {i : Nat} {f : Flight} (hf : s.flights[i]? = some f)
    (rest : Option (Program (Except DomainError Receipt))) :
    (s.goOn i f rest).flights[i]? = some { f with rest } :=
  getElem?_set_of_getElem? hf _

theorem step_store {s : Traffic} {i : Nat} {f : Flight} {limit : Span} {c : StoreCall}
    {next : Option c.Reply → Program (Except DomainError Receipt)} (hf : s.flights[i]? = some f)
    (hp : f.rest = some (.storeWithin limit c next)) {fault : Lab.Fault DomainError}
    {store : MemoryStore} {r : Option (Option c.Reply)}
    (hcall : (s.desk.store.faulty fault c).outcome limit = (store, r)) :
    s.step (.store i fault) = { s with desk := { s.desk with store } }.goOn i f (r.map next) := by
  refine (onFlight_of_rest hf hp _).trans ?_
  simp only [hcall]

theorem step_cache {s : Traffic} {i : Nat} {f : Flight} {limit : Span} {c : CacheCall}
    {next : Option c.Reply → Program (Except DomainError Receipt)} (hf : s.flights[i]? = some f)
    (hp : f.rest = some (.cacheWithin limit c next)) {fault : Lab.Fault CacheError}
    {cache : MemoryCache} {r : Option (Option c.Reply)}
    (hcall : (s.cache.faulty s.clock fault c).outcome limit = (cache, r)) :
    s.step (.cache i fault) = { s with cache }.goOn i f (r.map next) := by
  refine (onFlight_of_rest hf hp _).trans ?_
  simp only [hcall]

/-- Some actions lead an initiation of a command to the end of a run, with the same
    collaborators. -/
def CanEnd (env : Environment Lab.StoreSide Lab.CacheSide) (i : Nat) (c : InitiatePayment)
    (x : Outcome (Except DomainError Receipt) × Progress Lab.StoreSide Lab.CacheSide)
    (s : Traffic) : Prop :=
  ∃ (acts : List Action) (f : Flight), (acts.foldl step s).flights[i]? = some f ∧ f.command = c ∧
    Ends x.1 f ∧ Shows env x.2 (acts.foldl step s)

theorem CanEnd.step {env : Environment Lab.StoreSide Lab.CacheSide} {i : Nat}
    {c : InitiatePayment}
    {x : Outcome (Except DomainError Receipt) × Progress Lab.StoreSide Lab.CacheSide}
    {s t : Traffic} {a : Action} (hstep : s.step a = t) (h : CanEnd env i c x t) :
    CanEnd env i c x s := by
  subst hstep
  obtain ⟨acts, f, hacts⟩ := h
  exact ⟨a :: acts, f, hacts⟩

/-- A run of a limited program by itself, over collaborators in memory with any queued faults, ends,
    and in the system of initiations side by side it can end in the same way. -/
theorem run_alone {env : Environment Lab.StoreSide Lab.CacheSide}
    (hstore : env.store = Lab.StoreSide.conduct) (hcache : env.cache = Lab.CacheSide.conduct)
    {p : Program (Except DomainError Receipt)} (hp : p.Limited) {i : Nat} {f : Flight}
    {cmd : InitiatePayment} {s : Traffic} {g : Progress Lab.StoreSide Lab.CacheSide}
    (hf : s.flights[i]? = some f) (hcmd : f.command = cmd) (hrest : f.rest = some p)
    (hshows : Shows env g s) : CanEnd env i cmd (p.run env none g) s := by
  -- By induction on the tree of the program: each node takes one action of the system.
  induction p generalizing f s g with
  | done a =>
    refine ⟨[], f, hf, hcmd, ?_, hshows⟩
    simp only [Ends, Program.run, Flight.answer, hrest]
  | store c next ih => exact hp.elim
  | storeWithin limit c next ih =>
    -- The fault that comes next in the queue is put into the action.
    obtain ⟨fault, halike⟩ := alike_store hshows.store c
    rw [← hstore] at halike
    simp only [Program.run]
    rcases halike.outcome limit g.elapsed with
      ⟨t, r, y, hverdict, houtcome, hy⟩ | ⟨t, y, hverdict, houtcome, hy⟩ |
      ⟨t, q, y, hverdict, houtcome, hy⟩
    · rw [hverdict]
      refine .step (step_store hf hrest houtcome) ?_
      exact ih (some r) (hp _) (getElem?_goOn hf _) hcmd rfl ⟨hy, hshows.cache, hshows.clock⟩
    · rw [hverdict]
      refine .step (step_store hf hrest houtcome) ?_
      exact ih none (hp _) (getElem?_goOn hf _) hcmd rfl ⟨hy, hshows.cache, hshows.clock⟩
    · rw [hverdict]
      refine .step (step_store hf hrest houtcome) ?_
      exact ⟨[], _, getElem?_goOn hf _, hcmd, rfl, hy, hshows.cache, hshows.clock⟩
  | cacheWithin limit c next ih =>
    obtain ⟨fault, halike⟩ := alike_cache hshows.cache c
    rw [← hcache] at halike
    simp only [Program.run]
    rcases halike.outcome limit g.elapsed with
      ⟨t, r, y, hverdict, houtcome, hy⟩ | ⟨t, y, hverdict, houtcome, hy⟩ |
      ⟨t, q, y, hverdict, houtcome, hy⟩
    · rw [hshows.clock] at houtcome
      rw [hverdict]
      refine .step (step_cache hf hrest houtcome) ?_
      exact ih (some r) (hp _) (getElem?_goOn hf _) hcmd rfl ⟨hshows.store, hy, hshows.clock⟩
    · rw [hshows.clock] at houtcome
      rw [hverdict]
      refine .step (step_cache hf hrest houtcome) ?_
      exact ih none (hp _) (getElem?_goOn hf _) hcmd rfl ⟨hshows.store, hy, hshows.clock⟩
    · rw [hshows.clock] at houtcome
      rw [hverdict]
      refine .step (step_cache hf hrest houtcome) ?_
      exact ⟨[], _, getElem?_goOn hf _, hcmd, rfl, hshows.store, hy, hshows.clock⟩
  | ask q next ih =>
    cases q with
    | now =>
      have hstep : s.step (.pass i) = s.goOn i f (some (next s.clock)) :=
        onFlight_of_rest hf hrest _
      refine .step hstep ?_
      have hih := ih s.clock (hp _) (getElem?_goOn hf (some (next s.clock))) hcmd rfl
        ⟨hshows.store, hshows.cache, hshows.clock⟩
      rw [← hshows.clock] at hih ⊢
      exact hih
    | paymentId =>
      refine .step (a := .issue i (env.paymentId g.issued)) (onFlight_of_rest hf hrest _) ?_
      exact ih _ (hp _) (getElem?_set_of_getElem? hf _) hcmd rfl
        ⟨hshows.store, hshows.cache, hshows.clock⟩
    | correlationId => exact hp.elim
    | elapsed => exact hp.elim
  | signal e next ih =>
    have hstep : s.step (.pass i) = s.goOn i f (some next) := onFlight_of_rest hf hrest _
    refine .step hstep ?_
    exact ih hp (getElem?_goOn hf _) hcmd rfl ⟨hshows.store, hshows.cache, hshows.clock⟩
  | log e next ih =>
    have hstep : s.step (.pass i) = s.goOn i f (some next) := onFlight_of_rest hf hrest _
    refine .step hstep ?_
    exact ih hp (getElem?_goOn hf _) hcmd rfl ⟨hshows.store, hshows.cache, hshows.clock⟩
  | wait d next ih =>
    have hstep : s.step (.pass i) = s.goOn i f (some next) := onFlight_of_rest hf hrest _
    refine .step hstep ?_
    exact ih hp (getElem?_goOn hf _) hcmd rfl ⟨hshows.store, hshows.cache, hshows.clock⟩

/-- A run of an initiation in a world whose collaborators are in memory always ends, and the same
    initiation, beginning in a system with the same store, cache and clock, can end in the same
    way. -/
theorem initiate_alone {w : Lab.World} {s : Traffic} (h : Shows w.environment w.progress s)
    (c : InitiatePayment) (deadlines : Deadlines) :
    CanEnd w.environment s.flights.length c
      ((initiate c deadlines).run w.environment none w.progress) s := by
  refine .step (a := .begin c deadlines) rfl ?_
  exact run_alone rfl rfl (limited_initiate c deadlines) List.getElem?_concat_length rfl rfl
    ⟨h.store, h.cache, h.clock⟩

end Traffic

end PayOnce
