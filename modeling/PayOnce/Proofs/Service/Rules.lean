import PayOnce.Proofs.Service.Calls
import PayOnce.Proofs.Service.Outline
/-!
Rules for programs. Terms tell what a program may count on as far as the store goes; rules follow
every exchange that it has with the world: calls with their answers or the lack of them, readings of
the clock, new ids and signals. A program obeys some rules if it does only what they allow, whatever
it is told, and ends as a postcondition says.
-/

namespace PayOnce

/-- What a program turns to the world with. -/
inductive Request
  | store (c : StoreCall)
  | cache (c : CacheCall)
  | now
  | paymentId
  | signal (s : Signal)

/-- A request and what has come of it; a call may end without an answer. -/
inductive Exchange
  | store (c : StoreCall) (r : Option c.Reply)
  | cache (c : CacheCall) (r : Option c.Reply)
  | now (t : Instant)
  | paymentId (id : Uuid)
  | signal (s : Signal)

/-- The rules of a world. -/
structure Rules (κ : Type) where
  /-- What others may do to the world between two steps. -/
  drift : κ → κ → Prop
  /-- The requests that a program may make. -/
  allows : κ → Request → Prop
  /-- The exchanges that may take place within a limit, and the world afterwards. -/
  leads : κ → Span → Exchange → κ → Prop
  drift_refl : ∀ w, drift w w
  drift_trans : ∀ u v w, drift u v → drift v w → drift u w

namespace Program

variable {α κ : Type} {R : Rules κ}

/-- The program obeys the rules, and whatever it ends with satisfies a postcondition. It waits for
    nothing but calls with a limit. -/
def Obeys (R : Rules κ) (post : α → κ → Prop) : Program α → κ → Prop
  | done a, w => post a w
  | store _ _, _ => False
  | storeWithin limit c next, w => ∀ w', R.drift w w' →
    R.allows w' (.store c) ∧
      ∀ r w'', R.leads w' limit (.store c r) w'' → (next r).Obeys R post w''
  | cacheWithin limit c next, w => ∀ w', R.drift w w' →
    R.allows w' (.cache c) ∧
      ∀ r w'', R.leads w' limit (.cache c r) w'' → (next r).Obeys R post w''
  | ask .now next, w => ∀ w', R.drift w w' →
    R.allows w' .now ∧ ∀ t w'', R.leads w' 0 (.now t) w'' → (next t).Obeys R post w''
  | ask .paymentId next, w => ∀ w', R.drift w w' →
    R.allows w' .paymentId ∧
      ∀ id w'', R.leads w' 0 (.paymentId id) w'' → (next id).Obeys R post w''
  | ask .correlationId _, _ => False
  | ask .elapsed _, _ => False
  | signal s next, w => ∀ w', R.drift w w' →
    R.allows w' (.signal s) ∧ ∀ w'', R.leads w' 0 (.signal s) w'' → next.Obeys R post w''
  | log _ next, w => next.Obeys R post w
  | wait _ _, _ => False

/-- What a program obeys it still obeys after a drift, if its end does not mind either. -/
theorem Obeys.drift {post : α → κ → Prop} (hpost : ∀ a w w', R.drift w w' → post a w → post a w')
    {p : Program α} {w w' : κ} (h : p.Obeys R post w) (hdrift : R.drift w w') :
    p.Obeys R post w' := by
  induction p with
  | done a => exact hpost a w w' hdrift h
  | store c next ih => exact h.elim
  | storeWithin limit c next ih => exact fun v hv => h v (R.drift_trans _ _ _ hdrift hv)
  | cacheWithin limit c next ih => exact fun v hv => h v (R.drift_trans _ _ _ hdrift hv)
  | ask q next ih =>
    cases q with
    | now => exact fun v hv => h v (R.drift_trans _ _ _ hdrift hv)
    | paymentId => exact fun v hv => h v (R.drift_trans _ _ _ hdrift hv)
    | correlationId => exact h.elim
    | elapsed => exact h.elim
  | signal s next ih => exact fun v hv => h v (R.drift_trans _ _ _ hdrift hv)
  | log e next ih => exact ih h
  | wait d next ih => exact h.elim

/-- A program that ends well ends as well as that implies. -/
theorem Obeys.mono {post post' : α → κ → Prop} (hpost : ∀ a w, post a w → post' a w)
    {p : Program α} {w : κ} (h : p.Obeys R post w) : p.Obeys R post' w := by
  induction p generalizing w with
  | done a => exact hpost a w h
  | store c next ih => exact h.elim
  | storeWithin limit c next ih =>
    exact fun w' hw => ⟨(h w' hw).1, fun r w'' hr => ih r ((h w' hw).2 r w'' hr)⟩
  | cacheWithin limit c next ih =>
    exact fun w' hw => ⟨(h w' hw).1, fun r w'' hr => ih r ((h w' hw).2 r w'' hr)⟩
  | ask q next ih =>
    cases q with
    | now => exact fun w' hw => ⟨(h w' hw).1, fun t w'' ht => ih t ((h w' hw).2 t w'' ht)⟩
    | paymentId =>
      exact fun w' hw => ⟨(h w' hw).1, fun id w'' hid => ih id ((h w' hw).2 id w'' hid)⟩
    | correlationId => exact h.elim
    | elapsed => exact h.elim
  | signal s next ih => exact fun w' hw => ⟨(h w' hw).1, fun w'' hs => ih ((h w' hw).2 w'' hs)⟩
  | log e next ih => exact ih h
  | wait d next ih => exact h.elim

/-- Rules do not look at the log. -/
theorem obeys_unlogged {post : α → κ → Prop} (p : Program α) (w : κ) :
    p.unlogged.Obeys R post w ↔ p.Obeys R post w := by
  induction p generalizing w with
  | done a => exact .rfl
  | store c next ih => exact .rfl
  | storeWithin limit c next ih => simp only [unlogged, Obeys, ih]
  | cacheWithin limit c next ih => simp only [unlogged, Obeys, ih]
  | ask q next ih => cases q <;> simp only [unlogged, Obeys, ih]
  | signal s next ih => simp only [unlogged, Obeys, ih]
  | log e next ih => exact ih w
  | wait d next ih => exact .rfl

end Program

/-! ## What comes of a call -/

/-- A budget can cut a call off; apart from that it has no say in what comes of it. -/
theorem Conduct.verdict_budget {σ ρ : Type} (c : Conduct σ ρ) (limit start : Span)
    (budget : Option Span) :
    c.verdict (some limit) budget start = .cutOff ∨
      c.verdict (some limit) budget start = c.verdict (some limit) none start := by
  obtain ⟨underway, delay, settled, ending⟩ := c
  have hcut (b : Bool) (v : Verdict ρ) :
      (if b then v else .cutOff) = .cutOff ∨ (if b then v else .cutOff) = v := by
    cases b
    · exact .inl rfl
    · exact .inr rfl
  by_cases hdelay : delay ≤ limit
  · cases ending <;>
      simp only [verdict, hdelay, withinBudget, Option.all_some, decide_true, if_true]
      <;> exact hcut _ _
  · cases ending <;> simp only [verdict, hdelay, withinBudget, Option.all_some, decide_false,
      if_true, Bool.false_eq_true, if_false] <;> exact hcut _ _

/-- What a caller with a limit is left with, and what comes of the call whenever it starts. -/
theorem Conduct.outcome_cases {σ ρ : Type} (c : Conduct σ ρ) (limit : Span) :
    (∃ r, c.outcome limit = (c.settled, some (some r)) ∧
        ∀ start, ∃ t, c.verdict (some limit) none start = .ended t r) ∨
      (c.outcome limit = (c.settled, none) ∧
        ∀ start, ∃ t p, c.verdict (some limit) none start = .panicked t p) ∨
      c.outcome limit = (c.underway, some none) ∧
        ∀ start, ∃ t, c.verdict (some limit) none start = .expired t := by
  unfold outcome
  rcases c.verdict_cases limit with ⟨r, -, -, h⟩ | ⟨p, -, h⟩ | h
  · obtain ⟨t, ht⟩ := h 0
    exact .inl ⟨r, by rw [ht], h⟩
  · obtain ⟨t, ht⟩ := h 0
    exact .inr (.inl ⟨by rw [ht], fun start => (h start).imp fun _ hp => ⟨p, hp⟩⟩)
  · obtain ⟨t, ht⟩ := h 0
    exact .inr (.inr ⟨by rw [ht], h⟩)

theorem Conduct.outcome_of_ended {σ ρ : Type} {c : Conduct σ ρ} {limit start t : Span}
    {budget : Option Span} {r : ρ} (h : c.verdict (some limit) budget start = .ended t r) :
    c.outcome limit = (c.settled, some (some r)) := by
  rcases c.verdict_budget limit start budget with hb | hb
  · rw [hb] at h
    cases h
  · rw [hb] at h
    rcases c.outcome_cases limit with ⟨r', houtcome, hv⟩ | ⟨-, hv⟩ | ⟨-, hv⟩
    · obtain ⟨t', ht⟩ := hv start
      cases h.symm.trans ht
      exact houtcome
    · obtain ⟨t', p, ht⟩ := hv start
      cases h.symm.trans ht
    · obtain ⟨t', ht⟩ := hv start
      cases h.symm.trans ht

theorem Conduct.outcome_of_expired {σ ρ : Type} {c : Conduct σ ρ} {limit start t : Span}
    {budget : Option Span} (h : c.verdict (some limit) budget start = .expired t) :
    c.outcome limit = (c.underway, some none) := by
  rcases c.verdict_budget limit start budget with hb | hb
  · rw [hb] at h
    cases h
  · rw [hb] at h
    rcases c.outcome_cases limit with ⟨r', -, hv⟩ | ⟨-, hv⟩ | ⟨houtcome, -⟩
    · obtain ⟨t', ht⟩ := hv start
      cases h.symm.trans ht
    · obtain ⟨t', p, ht⟩ := hv start
      cases h.symm.trans ht
    · exact houtcome

/-! ## Runs and their exchanges -/

variable {σ τ : Type}

/-- The exchanges of a run, the first one first. -/
def Program.exchanges {α : Type} (env : Environment σ τ) (budget : Option Span) :
    Program α → Progress σ τ → List Exchange
  | done _, _ => []
  | store c next, s =>
    let conduct := env.store s.store c
    let s := { s with store := conduct.underway, events := .store c :: s.events }
    match conduct.verdict none budget s.elapsed with
    | .ended t r => .store c (some r) ::
      (next r).exchanges env budget { s with store := conduct.settled, elapsed := t }
    | _ => []
  | storeWithin limit c next, s =>
    let conduct := env.store s.store c
    let s := { s with store := conduct.underway, events := .store c :: s.events }
    match conduct.verdict (some limit) budget s.elapsed with
    | .ended t r => .store c (some r) ::
      (next (some r)).exchanges env budget { s with store := conduct.settled, elapsed := t }
    | .expired t => .store c none :: (next none).exchanges env budget { s with elapsed := t }
    | _ => []
  | cacheWithin limit c next, s =>
    let conduct := env.cache s.cache c
    let s := { s with cache := conduct.underway, events := .cache c :: s.events }
    match conduct.verdict (some limit) budget s.elapsed with
    | .ended t r => .cache c (some r) ::
      (next (some r)).exchanges env budget { s with cache := conduct.settled, elapsed := t }
    | .expired t => .cache c none :: (next none).exchanges env budget { s with elapsed := t }
    | _ => []
  | ask .now next, s => .now env.clock :: (next env.clock).exchanges env budget s
  | ask .paymentId next, s => .paymentId (env.paymentId s.issued) ::
    (next (env.paymentId s.issued)).exchanges env budget { s with issued := s.issued + 1 }
  | ask .correlationId next, s => (next env.correlationId).exchanges env budget s
  | ask .elapsed next, s => (next s.elapsed).exchanges env budget s
  | signal g next, s =>
    .signal g :: next.exchanges env budget { s with events := .signal g :: s.events }
  | log e next, s => next.exchanges env budget { s with events := .log e :: s.events }
  | wait d next, s =>
    let t := s.elapsed + d
    if withinBudget budget t then next.exchanges env budget { s with elapsed := t } else []

/-- How far a run has come, apart from the time, and the exchanges on its way. -/
structure Journal (σ τ : Type) where
  store : σ
  cache : τ
  issued : Nat
  exchanges : List Exchange

/-- What an exchange with some surroundings leads to. -/
inductive Environment.Leads (env : Environment σ τ) (j : Journal σ τ) (limit : Span) :
    Exchange → Journal σ τ → Prop
  | store {c : StoreCall} {r : Option c.Reply} {store : σ}
      (h : (env.store j.store c).outcome limit = (store, some r)) :
      Leads env j limit (.store c r)
        { j with store, exchanges := j.exchanges ++ [.store c r] }
  | cache {c : CacheCall} {r : Option c.Reply} {cache : τ}
      (h : (env.cache j.cache c).outcome limit = (cache, some r)) :
      Leads env j limit (.cache c r)
        { j with cache, exchanges := j.exchanges ++ [.cache c r] }
  | now : Leads env j limit (.now env.clock)
      { j with exchanges := j.exchanges ++ [.now env.clock] }
  | paymentId : Leads env j limit (.paymentId (env.paymentId j.issued))
      { j with
        issued := j.issued + 1
        exchanges := j.exchanges ++ [.paymentId (env.paymentId j.issued)] }
  | signal {g : Signal} : Leads env j limit (.signal g)
      { j with exchanges := j.exchanges ++ [.signal g] }

/-- The rules of some surroundings for a program that has them to itself and makes its calls only
    after exchanges that satisfy a condition. -/
def Environment.rules (env : Environment σ τ) (I : List Exchange → Prop) : Rules (Journal σ τ) where
  drift j j' := j' = j
  allows j
    | .store _ => I j.exchanges
    | .cache _ => I j.exchanges
    | _ => True
  leads := env.Leads
  drift_refl _ := rfl
  drift_trans _ _ _ h h' := h'.trans h

/-- The journal of a run that has come so far. -/
def Progress.journal (s : Progress σ τ) (es : List Exchange) : Journal σ τ :=
  ⟨s.store, s.cache, s.issued, es⟩

/-- A run ends with a good value, or it stops short where a condition holds. -/
def Outcome.Leaves {α : Type} (post : α → Prop) (I : Prop) : Outcome α → Prop
  | finished a => post a
  | cutOff => I
  | hung => I
  | panicked _ => I

/-- Whatever a program ends with in a run, it ends with under the rules of its surroundings; and
    where a run stops short, it stops at a call. -/
theorem Program.Obeys.run {α : Type} {env : Environment σ τ} {I : List Exchange → Prop}
    {post : α → Journal σ τ → Prop} {p : Program α} {s : Progress σ τ} {es : List Exchange}
    (h : p.Obeys (env.rules I) post (s.journal es)) (budget : Option Span) :
    (p.run env budget s).1.Leaves
      (fun a => post a ((p.run env budget s).2.journal (es ++ p.exchanges env budget s)))
      (I (es ++ p.exchanges env budget s)) := by
  induction p generalizing s es with
  | done a =>
    rw [exchanges, List.append_nil]
    exact h
  | store c next ih => exact h.elim
  | storeWithin limit c next ih =>
    obtain ⟨hbefore, hnext⟩ := h _ rfl
    simp only [Program.run, exchanges]
    generalize hverdict : (env.store s.store c).verdict (some limit) budget s.elapsed = v
    cases v with
    | ended t r =>
      rw [List.append_cons]
      exact ih (some r) (s := { s with
        store := (env.store s.store c).settled
        elapsed := t
        events := .store c :: s.events })
        (hnext (some r) _ (.store (Conduct.outcome_of_ended hverdict)))
    | expired t =>
      rw [List.append_cons]
      exact ih none (s := { s with
        store := (env.store s.store c).underway
        elapsed := t
        events := .store c :: s.events })
        (hnext none _ (.store (Conduct.outcome_of_expired hverdict)))
    | panicked t p =>
      rw [List.append_nil]
      exact hbefore
    | cutOff =>
      rw [List.append_nil]
      exact hbefore
    | hung =>
      rw [List.append_nil]
      exact hbefore
  | cacheWithin limit c next ih =>
    obtain ⟨hbefore, hnext⟩ := h _ rfl
    simp only [Program.run, exchanges]
    generalize hverdict : (env.cache s.cache c).verdict (some limit) budget s.elapsed = v
    cases v with
    | ended t r =>
      rw [List.append_cons]
      exact ih (some r) (s := { s with
        cache := (env.cache s.cache c).settled
        elapsed := t
        events := .cache c :: s.events })
        (hnext (some r) _ (.cache (Conduct.outcome_of_ended hverdict)))
    | expired t =>
      rw [List.append_cons]
      exact ih none (s := { s with
        cache := (env.cache s.cache c).underway
        elapsed := t
        events := .cache c :: s.events })
        (hnext none _ (.cache (Conduct.outcome_of_expired hverdict)))
    | panicked t p =>
      rw [List.append_nil]
      exact hbefore
    | cutOff =>
      rw [List.append_nil]
      exact hbefore
    | hung =>
      rw [List.append_nil]
      exact hbefore
  | ask q next ih =>
    cases q with
    | now =>
      simp only [Program.run, exchanges]
      rw [List.append_cons]
      exact ih env.clock ((h _ rfl).2 _ _ .now)
    | paymentId =>
      simp only [Program.run, exchanges]
      rw [List.append_cons]
      exact ih _ (s := { s with issued := s.issued + 1 }) ((h _ rfl).2 _ _ .paymentId)
    | correlationId => exact h.elim
    | elapsed => exact h.elim
  | signal g next ih =>
    simp only [Program.run, exchanges]
    rw [List.append_cons]
    exact ih (s := { s with events := .signal g :: s.events }) ((h _ rfl).2 _ .signal)
  | log e next ih =>
    exact ih (s := { s with events := .log e :: s.events }) h
  | wait d next ih => exact h.elim

/-! ### Runs as they are seen -/

/-- The signal that an event is. -/
def Event.signal? : Event → Option Signal
  | signal s => some s
  | store _ => none
  | cache _ => none
  | log _ => none

/-- The signal that an exchange is. -/
def Exchange.signal? : Exchange → Option Signal
  | signal s => some s
  | store _ _ => none
  | cache _ _ => none
  | now _ => none
  | paymentId _ => none

/-- The signals of a run are those of its exchanges. -/
theorem Program.signals_run {α : Type} (env : Environment σ τ) (budget : Option Span)
    (p : Program α) (s : Progress σ τ) :
    (p.run env budget s).2.events.filterMap Event.signal? =
      ((p.exchanges env budget s).filterMap Exchange.signal?).reverse
        ++ s.events.filterMap Event.signal? := by
  induction p generalizing s with
  | done a => rfl
  | store c next ih =>
    simp only [Program.run, exchanges]
    cases (env.store s.store c).verdict none budget s.elapsed with
    | ended t r => exact ih r _
    | _ => rfl
  | storeWithin limit c next ih =>
    simp only [Program.run, exchanges]
    cases (env.store s.store c).verdict (some limit) budget s.elapsed with
    | ended t r => exact ih (some r) _
    | expired t => exact ih none _
    | _ => rfl
  | cacheWithin limit c next ih =>
    simp only [Program.run, exchanges]
    cases (env.cache s.cache c).verdict (some limit) budget s.elapsed with
    | ended t r => exact ih (some r) _
    | expired t => exact ih none _
    | _ => rfl
  | ask q next ih => cases q <;> exact ih _ _
  | signal g next ih =>
    simp only [Program.run, exchanges]
    rw [ih]
    simp [Exchange.signal?, Event.signal?]
  | log e next ih => exact ih _
  | wait d next ih =>
    simp only [Program.run, exchanges]
    split
    · exact ih _
    · rfl

end PayOnce
