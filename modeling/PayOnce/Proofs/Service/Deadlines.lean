import PayOnce.Proofs.Service.Outline
/-!
Deadlines. Whoever makes only calls that are given up at their deadlines, and only so many of them,
ends in time, however late the collaborators are. An initiation makes at most three calls to each of
its two collaborators.
-/

namespace PayOnce

/-- Whom a program may have to wait for. -/
inductive Partner
  | store
  | cache
deriving DecidableEq, Repr

/-- The deadline of a call to a partner. -/
def Deadlines.of (d : Deadlines) : Partner → Span
  | .store => d.store
  | .cache => d.cache

/-- The partner that is called, where an event is a call. -/
def Event.partner? : Event → Option Partner
  | store _ => some .store
  | cache _ => some .cache
  | signal _ => none
  | log _ => none

/-- A call of a run, and how long the program was kept waiting by it. -/
structure Delay where
  partner : Partner
  length : Span
deriving DecidableEq, Repr

/-- Every call is answered sooner or later, or never; none brings its caller down. -/
structure Environment.Steady {σ τ : Type} (env : Environment σ τ) : Prop where
  store : ∀ s c p, (env.store s c).ending ≠ .panic p
  cache : Calm env.cache

/-- What comes of a limited call that cannot bring its caller down. It takes the time that an answer
    takes, but no more than the limit. -/
theorem Conduct.verdict_steady {σ ρ : Type} {c : Conduct σ ρ} (h : ∀ p, c.ending ≠ .panic p)
    (limit start : Span) :
    (∃ r t, t ≤ limit ∧ c.verdict (some limit) none start = .ended (start + t) r) ∨
      c.verdict (some limit) none start = .expired (start + limit) := by
  obtain ⟨underway, delay, settled, ending⟩ := c
  by_cases hdelay : delay ≤ limit
  · cases ending with
    | answer r => exact .inl ⟨r, delay, hdelay, by simp [verdict, withinBudget, hdelay]⟩
    | never => exact .inr (by simp [verdict, withinBudget])
    | panic p => exact absurd rfl (h p)
  · right
    cases ending <;> simp [verdict, withinBudget, hdelay]

namespace Program

variable {α σ τ : Type}

/-! ## Delays of a run -/

/-- How long the calls of a run that nothing cuts off keep it waiting, the first one first. -/
def delays (env : Environment σ τ) : Program α → Progress σ τ → List Delay
  | done _, _ => []
  | store c next, s =>
    let conduct := env.store s.store c
    let s' := { s with store := conduct.underway, events := .store c :: s.events }
    match conduct.verdict none none s.elapsed with
    | .ended t r => ⟨.store, t - s.elapsed⟩ ::
      (next r).delays env { s' with store := conduct.settled, elapsed := t }
    | _ => []
  | storeWithin limit c next, s =>
    let conduct := env.store s.store c
    let s' := { s with store := conduct.underway, events := .store c :: s.events }
    match conduct.verdict (some limit) none s.elapsed with
    | .ended t r => ⟨.store, t - s.elapsed⟩ ::
      (next (some r)).delays env { s' with store := conduct.settled, elapsed := t }
    | .expired t => ⟨.store, t - s.elapsed⟩ :: (next none).delays env { s' with elapsed := t }
    | _ => []
  | cacheWithin limit c next, s =>
    let conduct := env.cache s.cache c
    let s' := { s with cache := conduct.underway, events := .cache c :: s.events }
    match conduct.verdict (some limit) none s.elapsed with
    | .ended t r => ⟨.cache, t - s.elapsed⟩ ::
      (next (some r)).delays env { s' with cache := conduct.settled, elapsed := t }
    | .expired t => ⟨.cache, t - s.elapsed⟩ :: (next none).delays env { s' with elapsed := t }
    | _ => []
  | ask .now next, s => (next env.clock).delays env s
  | ask .paymentId next, s =>
    (next (env.paymentId s.issued)).delays env { s with issued := s.issued + 1 }
  | ask .correlationId next, s => (next env.correlationId).delays env s
  | ask .elapsed next, s => (next s.elapsed).delays env s
  | signal g next, s => next.delays env { s with events := .signal g :: s.events }
  | log e next, s => next.delays env { s with events := .log e :: s.events }
  | wait d next, s => next.delays env { s with elapsed := s.elapsed + d }

/-! ## Programs that keep to their deadlines -/

/-- Whatever it is told, the program makes at most so many calls to the cache and so many to the
    store, each with the deadline of its partner, and waits for nothing else. -/
def Spends (d : Deadlines) : Program α → (cache store : Nat) → Prop
  | done _, _, _ => True
  | storeWithin limit _ next, n, m + 1 => limit = d.store ∧ ∀ r, (next r).Spends d n m
  | cacheWithin limit _ next, n + 1, m => limit = d.cache ∧ ∀ r, (next r).Spends d n m
  | storeWithin _ _ _, _, 0 => False
  | cacheWithin _ _ _, 0, _ => False
  | store _ _, _, _ => False
  | ask _ next, n, m => ∀ a, (next a).Spends d n m
  | signal _ next, n, m => next.Spends d n m
  | log _ next, n, m => next.Spends d n m
  | wait _ _, _, _ => False

/-- The log takes no time. -/
theorem spends_unlogged {d : Deadlines} (p : Program α) (n m : Nat) :
    p.unlogged.Spends d n m ↔ p.Spends d n m := by
  induction p generalizing n m with
  | done a => exact .rfl
  | store c next ih => exact .rfl
  | storeWithin limit c next ih => cases m <;> simp only [unlogged, Spends, ih]
  | cacheWithin limit c next ih => cases n <;> simp only [unlogged, Spends, ih]
  | ask q next ih => simp only [unlogged, Spends, ih]
  | signal s next ih => simp only [unlogged, Spends, ih]
  | log e next ih => simp only [unlogged, Spends, ih]
  | wait d next ih => exact .rfl

/-! ## Runs in time -/

/-- How a run has got from one progress to another one: it was kept waiting by its calls only, at
    most `n` of them to the cache and `m` to the store, each time no longer than the deadline. -/
structure Timely (d : Deadlines) (n m : Nat) (ds : List Delay) (s s' : Progress σ τ) : Prop where
  cutOff : ∀ x ∈ ds, x.length ≤ d.of x.partner
  cacheCalls : ds.countP (·.partner == .cache) ≤ n
  storeCalls : ds.countP (·.partner == .store) ≤ m
  calls : s'.events.filterMap Event.partner? =
    (ds.map (·.partner)).reverse ++ s.events.filterMap Event.partner?
  elapsed : s'.elapsed = s.elapsed + (ds.map (·.length)).sum

variable {d : Deadlines} {n m : Nat} {ds : List Delay} {s s₁ s' : Progress σ τ}

theorem Timely.nil (h : s'.events.filterMap Event.partner? = s.events.filterMap Event.partner?)
    (helapsed : s'.elapsed = s.elapsed) : Timely d n m [] s s' :=
  ⟨by simp, by simp, by simp, h, helapsed⟩

/-- A call to the store comes before the delays of the rest. -/
theorem Timely.store {t : Span} (ht : t ≤ d.store) (h : Timely d n m ds s₁ s')
    (hcalls : s₁.events.filterMap Event.partner? = .store :: s.events.filterMap Event.partner?)
    (helapsed : s₁.elapsed = s.elapsed + t) :
    Timely d n (m + 1) (⟨.store, t⟩ :: ds) s s' where
  cutOff := List.forall_mem_cons.2 ⟨ht, h.cutOff⟩
  cacheCalls := by simpa using h.cacheCalls
  storeCalls := by simpa using h.storeCalls
  calls := by simp [h.calls, hcalls]
  elapsed := by simp [h.elapsed, helapsed, Nat.add_assoc]

/-- A call to the cache comes before the delays of the rest. -/
theorem Timely.cache {t : Span} (ht : t ≤ d.cache) (h : Timely d n m ds s₁ s')
    (hcalls : s₁.events.filterMap Event.partner? = .cache :: s.events.filterMap Event.partner?)
    (helapsed : s₁.elapsed = s.elapsed + t) :
    Timely d (n + 1) m (⟨.cache, t⟩ :: ds) s s' where
  cutOff := List.forall_mem_cons.2 ⟨ht, h.cutOff⟩
  cacheCalls := by simpa using h.cacheCalls
  storeCalls := by simpa using h.storeCalls
  calls := by simp [h.calls, hcalls]
  elapsed := by simp [h.elapsed, helapsed, Nat.add_assoc]

/-- All delays together are no longer than the deadlines of all calls. -/
theorem sum_delays_le (h : ∀ x ∈ ds, x.length ≤ d.of x.partner) :
    (ds.map (·.length)).sum ≤
      ds.countP (·.partner == .cache) * d.cache + ds.countP (·.partner == .store) * d.store := by
  induction ds with
  | nil => exact Nat.zero_le _
  | cons x ds ih =>
    obtain ⟨hx, hds⟩ := List.forall_mem_cons.1 h
    have hsum := Nat.add_le_add hx (ih hds)
    obtain ⟨partner, length⟩ := x
    refine hsum.trans (Nat.le_of_eq ?_)
    cases partner with
    | store => simp [Deadlines.of, Nat.add_mul, Nat.add_left_comm, Nat.add_comm]
    | cache =>
      simp only [Deadlines.of, List.countP_cons, beq_self_eq_true, if_true, Nat.add_mul,
        Nat.one_mul]
      simp [Nat.add_comm, Nat.add_assoc]

theorem Timely.elapsed_le (h : Timely d n m ds s s') :
    s'.elapsed ≤ s.elapsed + (n * d.cache + m * d.store) := by
  have hcache := Nat.mul_le_mul_right d.cache h.cacheCalls
  have hstore := Nat.mul_le_mul_right d.store h.storeCalls
  rw [h.elapsed]
  exact Nat.add_le_add_left ((sum_delays_le h.cutOff).trans (Nat.add_le_add hcache hstore)) _

/-- A program that keeps to its deadlines ends in time with a value. -/
theorem Spends.run {env : Environment σ τ} (henv : env.Steady) {p : Program α}
    (h : p.Spends d n m) (s : Progress σ τ) :
    ∃ a s', p.run env none s = (.finished a, s') ∧ Timely d n m (p.delays env s) s s' := by
  -- By induction on the tree of the program: each call uses up one of the calls that are left.
  induction p generalizing n m s with
  | done a => exact ⟨a, s, rfl, .nil rfl rfl⟩
  | store c next ih => exact h.elim
  | storeWithin limit c next ih =>
    cases m with
    | zero => exact h.elim
    | succ m =>
      obtain ⟨rfl, hnext⟩ : limit = d.store ∧ ∀ r, (next r).Spends d n m := h
      simp only [Program.run, delays]
      rcases Conduct.verdict_steady (henv.store s.store c) d.store s.elapsed with
        ⟨r, t, ht, hverdict⟩ | hverdict
      · rw [hverdict]
        obtain ⟨a, s', hrun, htimely⟩ := ih (some r) (hnext _) _
        exact ⟨a, s', hrun, htimely.store (by simpa using ht) rfl (by simp)⟩
      · rw [hverdict]
        obtain ⟨a, s', hrun, htimely⟩ := ih none (hnext _) _
        exact ⟨a, s', hrun, htimely.store (by simp) rfl (by simp)⟩
  | cacheWithin limit c next ih =>
    cases n with
    | zero => exact h.elim
    | succ n =>
      obtain ⟨rfl, hnext⟩ : limit = d.cache ∧ ∀ r, (next r).Spends d n m := h
      simp only [Program.run, delays]
      rcases Conduct.verdict_steady (henv.cache s.cache c) d.cache s.elapsed with
        ⟨r, t, ht, hverdict⟩ | hverdict
      · rw [hverdict]
        obtain ⟨a, s', hrun, htimely⟩ := ih (some r) (hnext _) _
        exact ⟨a, s', hrun, htimely.cache (by simpa using ht) rfl (by simp)⟩
      · rw [hverdict]
        obtain ⟨a, s', hrun, htimely⟩ := ih none (hnext _) _
        exact ⟨a, s', hrun, htimely.cache (by simp) rfl (by simp)⟩
  | ask q next ih =>
    have hnext : ∀ a, (next a).Spends d n m := h
    cases q with
    | now => exact ih _ (hnext _) s
    | paymentId =>
      obtain ⟨a, s', hrun, htimely⟩ := ih (env.paymentId s.issued) (hnext _) _
      exact ⟨a, s', hrun, ⟨htimely.cutOff, htimely.cacheCalls, htimely.storeCalls, htimely.calls,
        htimely.elapsed⟩⟩
    | correlationId => exact ih _ (hnext _) s
    | elapsed => exact ih _ (hnext _) s
  | signal g next ih =>
    obtain ⟨a, s', hrun, htimely⟩ := ih h _
    exact ⟨a, s', hrun, ⟨htimely.cutOff, htimely.cacheCalls, htimely.storeCalls, htimely.calls,
      htimely.elapsed⟩⟩
  | log e next ih =>
    obtain ⟨a, s', hrun, htimely⟩ := ih h _
    exact ⟨a, s', hrun, ⟨htimely.cutOff, htimely.cacheCalls, htimely.storeCalls, htimely.calls,
      htimely.elapsed⟩⟩
  | wait t next ih => exact h.elim

end Program

/-! ## Initiations -/

namespace Initiation

open Program

theorem spends_announce (signal : Signal) (p : Payment) (key : String) (d : Deadlines) (n m : Nat) :
    (announce signal p key d.cache).Spends d (n + 1) m :=
  ⟨rfl, fun _ => trivial⟩

/-- A lookup that fails is the end; otherwise it is followed by what is done with a payment or
    without one. -/
theorem spends_fromLookup {d : Deadlines} {n m : Nat} {operation : String}
    {found : Payment → Program (Except DomainError Receipt)}
    {nothing : Program (Except DomainError Receipt)} (hfound : ∀ p, (found p).Spends d n m)
    (hnothing : nothing.Spends d n m) (r : Option (Except DomainError (Option Payment))) :
    (fromLookup operation d.store found nothing r).Spends d n m := by
  rcases r with _ | e | _ | p
  · trivial
  · trivial
  · exact hnothing
  · exact hfound p

theorem spends_refetch (key : String) (d : Deadlines) (n : Nat) :
    (refetch key d).Spends d (n + 1) 1 :=
  ⟨rfl, spends_fromLookup (fun p => spends_announce _ p key d n _) trivial⟩

/-- After a save there is at most one more lookup. -/
theorem spends_fromSave (key : String) (d : Deadlines) (n : Nat)
    (r : Option (Except DomainError (List OutboxRow) × Payment)) :
    (fromSave key d r).Spends d (n + 1) 1 := by
  rcases r with _ | ⟨e | rows, saved⟩
  · trivial
  · cases e with
    | duplicateKey key' => exact spends_refetch key d n
    | _ => trivial
  · exact spends_announce _ saved key d n 1

theorem spends_issueAndSave (draft : Draft) (d : Deadlines) (n : Nat) :
    (issueAndSave draft d).Spends d (n + 1) 2 :=
  fun _ _ => ⟨rfl, spends_fromSave _ d n⟩

theorem spends_lookOrCreate (draft : Draft) (d : Deadlines) (n : Nat) :
    (lookOrCreate draft d).Spends d (n + 1) 3 :=
  ⟨rfl, spends_fromLookup (fun p => spends_announce _ p _ d n _) (spends_issueAndSave draft d n)⟩

/-- An entry that is of no use costs one more call to the cache. -/
theorem spends_fromReading (draft : Draft) (d : Deadlines) (reading : Reading) :
    (fromReading draft d reading).Spends d 2 3 := by
  cases reading with
  | receipt r => trivial
  | nothing => exact spends_lookOrCreate draft d 1
  | spoiled => exact ⟨rfl, fun _ => spends_lookOrCreate draft d 0⟩
  | down => exact spends_lookOrCreate draft d 1

end Initiation

theorem spends_initiate (c : InitiatePayment) (d : Deadlines) : (initiate c d).Spends d 3 3 := by
  rw [← Program.spends_unlogged, unlogged_initiate, Initiation.outline]
  cases c.validate with
  | error e => trivial
  | ok amount => exact ⟨rfl, fun r => Initiation.spends_fromReading _ d _⟩

/-- An initiation always ends with an answer, whatever the collaborators answer and however late, if
    they answer at all. It makes at most three calls to the cache and three to the store, each given
    up at its deadline, and takes no longer than all of these deadlines together. -/
theorem initiation_never_hangs (c : InitiatePayment) (d : Deadlines) {σ τ : Type}
    {env : Environment σ τ} (henv : env.Steady) (s : Progress σ τ) :
    ∃ answer s', (initiate c d).run env none s = (.finished answer, s') ∧
      Program.Timely d 3 3 ((initiate c d).delays env s) s s' ∧
      s'.elapsed ≤ s.elapsed + (3 * d.cache + 3 * d.store) := by
  obtain ⟨answer, s', hrun, htimely⟩ := (spends_initiate c d).run henv s
  exact ⟨answer, s', hrun, htimely, htimely.elapsed_le⟩

/-- The payment that has won the race for a key, as a store that is told how late to be finds it at
    its third call. -/
def lateWinner : Payment :=
  Draft.issue ⟨"order-1", "customer-1", ⟨100, "USD"⟩, "key-1"⟩ ⟨1⟩ ⟨10, 0⟩

/-- Everything is as late as it can be. The cache holds no receipt and is too late to remove what it
    holds or to take a receipt in; the store finds nothing, refuses a save for its key, and then
    finds the winner. Its state is the number of calls so far. -/
def late (d : Deadlines) : Environment Nat Unit where
  store
    | n, .findByKey _ => ⟨n + 1, d.store, n + 1, .answer (.ok (if n = 0 then none else lateWinner))⟩
    | n, .save p => ⟨n + 1, d.store, n + 1, .answer (.error (.duplicateKey "key-1"), p)⟩
    | n, .findById id => ⟨n + 1, d.store, n + 1, .answer (.error (.notFound id))⟩
    | n, .ping => ⟨n + 1, d.store, n + 1, .answer (.ok ())⟩
  cache
    | t, .get _ => ⟨t, d.cache, t, .answer (.ok (some "no receipt"))⟩
    | t, _ => .silent t
  clock := ⟨10, 0⟩
  paymentId n := ⟨BitVec.ofNat 128 (n + 2)⟩
  correlationId := ⟨0⟩

/-- All six calls are made, and the answer comes at the last moment. -/
theorem initiation_never_hangs_everythingLate : ∃ s',
    (initiate ⟨⟨7⟩, "order-1", "customer-1", 100, "USD", "key-1"⟩ .standard).run (late .standard)
      none ⟨0, (), 0, 0, []⟩ = (.finished (.ok ⟨⟨1⟩, .pending⟩), s') ∧
    s'.elapsed = 3 * Deadlines.standard.cache + 3 * Deadlines.standard.store := by
  have hsteady : (late .standard).Steady := by
    refine ⟨?_, ?_⟩
    · rintro n c p h
      cases c <;> cases h
    · rintro t c p h
      cases c <;> cases h
  obtain ⟨answer, s', hrun, -, -⟩ := initiation_never_hangs
    ⟨⟨7⟩, "order-1", "customer-1", 100, "USD", "key-1"⟩ .standard hsteady ⟨0, (), 0, 0, []⟩
  have hanswer : ((initiate ⟨⟨7⟩, "order-1", "customer-1", 100, "USD", "key-1"⟩ .standard).run
      (late .standard) none ⟨0, (), 0, 0, []⟩).1 = .finished (.ok ⟨⟨1⟩, .pending⟩) := by
    decide +kernel
  have helapsed : ((initiate ⟨⟨7⟩, "order-1", "customer-1", 100, "USD", "key-1"⟩ .standard).run
      (late .standard) none ⟨0, (), 0, 0, []⟩).2.elapsed
      = 3 * Deadlines.standard.cache + 3 * Deadlines.standard.store := by
    decide +kernel
  rw [hrun] at hanswer helapsed
  simp only at hanswer
  exact ⟨s', hanswer ▸ hrun, helapsed⟩

end PayOnce
