import PayOnce.Lab.Collaborators
import PayOnce.Proofs.Cache.Memory
import PayOnce.Proofs.Service.Initiation
import PayOnce.Proofs.Store.Ages
/-!
Calls of an initiation to the collaborators in memory, whatever happens to them. A fault may take an
answer away or put another one in its place, but the collaborator is left as it was or as the call
leaves it.
-/

namespace PayOnce

/-- What a caller with a limit is left with: the state afterwards, and the answer or the lack of
    one, unless the caller has been brought down by a panic. -/
def Conduct.outcome {σ ρ : Type} (c : Conduct σ ρ) (limit : Span) : σ × Option (Option ρ) :=
  match c.verdict (some limit) none 0 with
  | .ended _ r => (c.settled, some (some r))
  | .expired _ => (c.underway, some none)
  | .panicked _ _ => (c.settled, none)
  | .cutOff | .hung => (c.underway, none)

/-- What comes of a limited call without a budget: an answer or a panic in time, or nothing. -/
theorem Conduct.verdict_cases {σ ρ : Type} (c : Conduct σ ρ) (limit : Span) :
    (∃ r, c.ending = .answer r ∧ c.delay ≤ limit ∧
        ∀ start, ∃ t, c.verdict (some limit) none start = .ended t r) ∨
      (∃ p, c.ending = .panic p ∧
        ∀ start, ∃ t, c.verdict (some limit) none start = .panicked t p) ∨
      ∀ start, ∃ t, c.verdict (some limit) none start = .expired t := by
  obtain ⟨underway, delay, settled, ending⟩ := c
  by_cases hdelay : delay ≤ limit
  · cases ending with
    | answer r => exact .inl ⟨r, rfl, hdelay, fun start => by simp [verdict, withinBudget, hdelay]⟩
    | panic p => exact .inr (.inl ⟨p, rfl, fun start => by simp [verdict, withinBudget, hdelay]⟩)
    | never => exact .inr (.inr fun start => by simp [verdict, withinBudget])
  · refine .inr (.inr fun start => ?_)
    cases ending <;> simp [verdict, withinBudget, hdelay]

/-- A call to the store to which something happens. -/
def MemoryStore.faulty (s : MemoryStore) (f : Lab.Fault DomainError) (c : StoreCall) :
    Conduct MemoryStore c.Reply :=
  f.conduct s (.immediate s (s.handle c).2 (s.handle c).1) (Lab.failedReply · c)
    (Lab.missedReply c)

/-- A call to the cache to which something happens. -/
def MemoryCache.faulty (m : MemoryCache) (now : Instant) (f : Lab.Fault CacheError)
    (c : CacheCall) : Conduct MemoryCache c.Reply :=
  f.conduct m (.immediate m (m.handle now c).2 (m.handle now c).1) (Lab.failedCacheReply · c)
    (some (Lab.missedCacheReply c))

/-! ## What a fault can do -/

theorem outcome_immediate {σ ρ : Type} (before after : σ) (r : ρ) (limit : Span) :
    (Conduct.immediate before after r).outcome limit = (after, some (some r)) := by
  simp [Conduct.outcome, Conduct.verdict, Conduct.immediate, withinBudget]

theorem outcome_silent {σ ρ : Type} (s : σ) (limit : Span) :
    (Conduct.silent s : Conduct σ ρ).outcome limit = (s, some none) := by
  simp [Conduct.outcome, Conduct.verdict, Conduct.silent, withinBudget]

/-- An answer that takes a while is either in time, or the call is dropped before it has had its
    effect. -/
theorem outcome_delayed {σ ρ : Type} (before after : σ) (r : ρ) (d limit : Span) :
    (⟨before, d, after, .answer r⟩ : Conduct σ ρ).outcome limit = (after, some (some r)) ∨
      (⟨before, d, after, .answer r⟩ : Conduct σ ρ).outcome limit = (before, some none) := by
  by_cases hd : d ≤ limit
  · left
    simp [Conduct.outcome, Conduct.verdict, withinBudget, hd]
  · right
    simp [Conduct.outcome, Conduct.verdict, withinBudget, hd]

/-- Either the call goes as it would without a fault, or it has its effect but is never answered, or
    it has no effect, and then its answer is lost, replaced by a failure, or replaced by finding
    nothing. -/
theorem outcome_fault {ε σ ρ : Type} (f : Lab.Fault ε) (before after : σ) (r : ρ)
    (failed : ε → ρ) (missed : Option ρ) (limit : Span) :
    f ≠ .commitThenHang ∧
        (f.conduct before (.immediate before after r) failed missed).outcome limit
          = (after, some (some r)) ∨
      f = .commitThenHang ∧
        (f.conduct before (.immediate before after r) failed missed).outcome limit
          = (after, some none) ∨
      f ≠ .ok ∧ f ≠ .commitThenHang ∧ ∃ o,
        (f.conduct before (.immediate before after r) failed missed).outcome limit = (before, o) ∧
          ∀ x, o = some (some x) → (∃ e, f = .fail e ∧ x = failed e) ∨ missed = some x := by
  cases f with
  | ok => exact .inl ⟨by simp, outcome_immediate _ _ _ _⟩
  | hang => exact .inr (.inr ⟨by simp, by simp, some none, outcome_silent _ _, by simp⟩)
  | delay d =>
    rcases outcome_delayed before after r (d + 0) limit with h | h
    · exact .inl ⟨by simp, h⟩
    · exact .inr (.inr ⟨by simp, by simp, some none, h, by simp⟩)
  | commitThenHang => exact .inr (.inl ⟨rfl, outcome_silent _ _⟩)
  | fail e =>
    refine .inr (.inr ⟨by simp, by simp, _, outcome_immediate _ _ _ _, ?_⟩)
    rintro x ⟨⟩
    exact .inl ⟨e, rfl, rfl⟩
  | miss =>
    cases missed with
    | none => exact .inl ⟨by simp, outcome_immediate _ _ _ _⟩
    | some m =>
      refine .inr (.inr ⟨by simp, by simp, _, outcome_immediate _ _ _ _, ?_⟩)
      rintro x ⟨⟩
      exact .inr rfl
  | panic p =>
    refine .inr (.inr ⟨by simp, by simp, none, ?_, by simp⟩)
    simp [Lab.Fault.conduct, Conduct.outcome, Conduct.verdict, withinBudget]

/-- Either the call goes as it would without a fault, or something is wrong with its answer, and the
    collaborator is left as it was or as the call leaves it. -/
theorem outcome_conduct {ε σ ρ : Type} (f : Lab.Fault ε) (before after : σ) (r : ρ)
    (failed : ε → ρ) (missed : Option ρ) (limit : Span) :
    (f.conduct before (.immediate before after r) failed missed).outcome limit
        = (after, some (some r)) ∨
      f ≠ .ok ∧ ∃ s o, (f.conduct before (.immediate before after r) failed missed).outcome limit
          = (s, o) ∧ (s = before ∨ s = after) ∧
        ∀ x, o = some (some x) → (∃ e, x = failed e) ∨ missed = some x := by
  rcases outcome_fault f before after r failed missed limit with
    ⟨-, h⟩ | ⟨hf, h⟩ | ⟨hok, -, o, h, hreply⟩
  · exact .inl h
  · exact .inr ⟨by simp [hf], after, some none, h, .inr rfl, by simp⟩
  · refine .inr ⟨hok, before, o, h, .inl rfl, ?_⟩
    intro x hx
    rcases hreply x hx with ⟨e, -, he⟩ | hmissed
    · exact .inl ⟨e, he⟩
    · exact .inr hmissed

/-! ## Calls to the store -/

namespace MemoryStore

/-- What a call may do to the store: the tables stay as they are, or the payment that is to be
    saved is written, where it may. -/
def Touched (s : MemoryStore) (c : StoreCall) (t : MemoryStore) : Prop :=
  (t.payments = s.payments ∧ t.outbox = s.outbox ∧ t.outboxFails = s.outboxFails) ∨
    ∃ p, c = .save p ∧ s.mayWrite p.facts = .ok () ∧ t = s.written p

theorem touched_self (s : MemoryStore) (c : StoreCall) : s.Touched c s :=
  .inl ⟨rfl, rfl, rfl⟩

theorem handle_save (s : MemoryStore) (p : Payment) :
    s.handle (.save p) = (((s.save p).1, (s.save p).2.1), (s.save p).2.2) := rfl

theorem touched_handle (s : MemoryStore) (c : StoreCall) : s.Touched c (s.handle c).2 := by
  cases c with
  | findByKey key => exact .inl ⟨rfl, rfl, rfl⟩
  | findById id => exact .inl ⟨rfl, rfl, rfl⟩
  | ping => exact .inl ⟨rfl, rfl, rfl⟩
  | save p =>
    rw [handle_save]
    rcases s.save_cases p with ⟨hmay, -, hsave⟩ | ⟨e, -, hsave⟩ | ⟨-, hsave⟩
    · rw [hsave]
      exact .inr ⟨p, rfl, hmay, rfl⟩
    · rw [hsave]
      exact .inl ⟨rfl, rfl, rfl⟩
    · rw [hsave]
      exact .inl ⟨rfl, rfl, rfl⟩

theorem touched_faulty (s : MemoryStore) {f : Lab.Fault DomainError} {c : StoreCall}
    {limit : Span} {t : MemoryStore} {r : Option (Option c.Reply)}
    (h : (s.faulty f c).outcome limit = (t, r)) : s.Touched c t := by
  rcases outcome_conduct f s (s.handle c).2 (s.handle c).1 (Lab.failedReply · c)
    (Lab.missedReply c) limit with heq | ⟨-, t', o, heq, ht, -⟩
  · cases heq.symm.trans h
    exact s.touched_handle c
  · cases heq.symm.trans h
    rcases ht with rfl | rfl
    · exact touched_self _ c
    · exact s.touched_handle c

namespace Touched

variable {s t : MemoryStore} {c : StoreCall}

theorem ages (h : s.Touched c t) (hs : s.Consistent) (hfits : ∀ p, c = .save p → s.Fits p) :
    s.Ages t := by
  rcases h with ⟨hpayments, -, -⟩ | ⟨p, hc, hmay, rfl⟩
  · exact .of_payments hpayments
  · exact (hfits p hc).ages_written hs hmay

theorem grows (h : s.Touched c t) (hs : s.Consistent) (hfits : ∀ p, c = .save p → s.Fits p) :
    s.Extends t :=
  (h.ages hs hfits).extends

/-- What is stored after a call succeeds a stored record, or it is a new payment under a key that
    nobody held. -/
theorem mem_payments (h : s.Touched c t) (hs : s.Consistent)
    (hfits : ∀ p, c = .save p → s.Fits p) {r : PaymentFacts} (hr : r ∈ t.payments) :
    (∃ old ∈ s.payments, r.Succeeds old) ∨
      ∃ p, c = .save p ∧ r = p.facts ∧ s.findKey? r.idempotencyKey = none := by
  rcases h with ⟨hpayments, -, -⟩ | ⟨p, hc, hmay, rfl⟩
  · exact .inl ⟨r, hpayments ▸ hr, .refl r⟩
  · rcases (hfits p hc).mem_written hs hmay hr with hold | ⟨rfl, hkey⟩
    · exact .inl hold
    · exact .inr ⟨p, hc, rfl, hkey⟩

theorem works (h : s.Touched c t) : t.outboxFails = s.outboxFails := by
  rcases h with ⟨-, -, hfails⟩ | ⟨p, -, -, rfl⟩
  · exact hfails
  · rfl

/-- Nothing but the payment that is saved becomes stored. -/
theorem fresh (h : s.Touched c t) {id : Uuid} (hid : s.findId? id = none)
    (hne : ∀ p, c = .save p → p.id ≠ id) : t.findId? id = none := by
  rcases h with ⟨hpayments, -, -⟩ | ⟨p, hc, -, rfl⟩
  · exact (findId?_congr hpayments id).trans hid
  · exact (findId?_written s p id).trans ((if_neg (hne p hc)).trans hid)

end Touched

end MemoryStore

/-- The store may be touched under payments in hand. -/
theorem Desk.Sound.touched {k : Desk} (h : k.Sound) {c : StoreCall} {t : MemoryStore}
    (ht : k.store.Touched c t) (hfits : ∀ p, c = .save p → k.store.Fits p) :
    Sound { k with store := t } := by
  rcases ht with ⟨hpayments, houtbox, -⟩ | ⟨p, hc, hmay, rfl⟩
  · exact h.of_payments hpayments houtbox
  · exact h.written (hfits p hc) hmay

/-! ## Calls to the cache -/

namespace MemoryCache

variable {P : String → String → Prop} {m m' : MemoryCache} {now : Instant}
  {f : Lab.Fault CacheError} {limit : Span}

/-- A condition on the entries is kept whatever happens to a call. -/
theorem Keeps.faulty (hkeeps : m.Keeps P) {c : CacheCall}
    (hset : ∀ key value ttl, c = .set key value ttl → P key value) {r : Option (Option c.Reply)}
    (h : (m.faulty now f c).outcome limit = (m', r)) : m'.Keeps P := by
  have hafter := hkeeps.handle now hset
  rcases outcome_conduct f m (m.handle now c).2 (m.handle now c).1 (Lab.failedCacheReply · c)
    (some (Lab.missedCacheReply c)) limit with heq | ⟨-, t, o, heq, ht, -⟩
  · cases heq.symm.trans h
    exact hafter
  · cases heq.symm.trans h
    rcases ht with rfl | rfl
    · exact hkeeps
    · exact hafter

/-- Nothing that can happen to a read makes the cache tell what it was not given. -/
theorem Keeps.faulty_get (hkeeps : m.Keeps P) {key value : String}
    (h : (m.faulty now f (.get key)).outcome limit = (m', some (some (.ok (some value))))) :
    P key value := by
  rcases outcome_conduct f m (m.handle now (.get key)).2 (m.handle now (.get key)).1
    (Lab.failedCacheReply · (.get key)) (some (Lab.missedCacheReply (.get key))) limit
    with heq | ⟨-, t, o, heq, -, hreply⟩
  · have hread := congrArg Prod.snd (heq.symm.trans h)
    exact hkeeps.handle_get (Option.some.inj (Option.some.inj hread))
  · cases heq.symm.trans h
    rcases hreply _ rfl with ⟨e, he⟩ | hmissed
    · cases he
    · cases hmissed

end MemoryCache

namespace Initiation

/-! ## The terms of an initiation -/

variable {e : Circumstances} {w : Counter}

/-- An initiation saves payments that have just been made. -/
theorem fits_of_allows {c : StoreCall} (h : (terms e).allows w c) (hs : w.store.Consistent) :
    ∀ p, c = .save p → w.store.Fits p := by
  rintro p rfl
  obtain ⟨d, id, now, rfl, -⟩ := h
  exact MemoryStore.fits_issue hs d id now

theorem handle_findByKey (s : MemoryStore) (key : String) :
    (s.handle (.findByKey key)).1 = .ok ((s.findKey? key).map Payment.ofFacts) := rfl

theorem found_handle (s : MemoryStore) (key : String) (ids : List Uuid) :
    Found e key (s.handle (.findByKey key)).1 ⟨(s.handle (.findByKey key)).2, ids⟩ := by
  cases hfind : s.findKey? key with
  | none =>
    have hreply : (s.handle (.findByKey key)).1 = .ok none := by
      rw [handle_findByKey, hfind]
      rfl
    rw [hreply]
    exact fun _ id => MemoryStore.not_holds_of_findKey? hfind id
  | some r =>
    have hreply : (s.handle (.findByKey key)).1 = .ok (some (.ofFacts r)) := by
      rw [handle_findByKey, hfind]
      rfl
    rw [hreply]
    obtain ⟨hr, hkey⟩ := MemoryStore.mem_of_findKey? hfind
    exact ⟨r, hr, hkey, rfl⟩

/-- A new payment that a sound store refuses is refused because its key is held. -/
theorem saved_handle {p : Payment} (hp : (terms e).allows w (.save p)) (hs : w.store.Consistent)
    (hworks : e.sound → w.store.outboxFails = false) :
    Saved e p (w.store.handle (.save p)).1 ⟨(w.store.handle (.save p)).2, w.ids⟩ := by
  rw [MemoryStore.handle_save]
  rcases w.store.save_cases p with ⟨hmay, -, hsave⟩ | ⟨x, hrefused, hsave⟩ | ⟨hfails, hsave⟩
  · -- The row that was put in is the one that holds the key now.
    rw [hsave]
    exact ⟨rfl, p.facts, (MemoryStore.mem_putRow hs.ids).2 (.inl rfl), rfl, rfl⟩
  · rw [hsave]
    intro hsound
    obtain ⟨d, id, now, rfl, hfresh⟩ := hp
    have hnone : w.store.findId? (d.issue id now).facts.id = none := (hfresh hsound).2
    -- The id is fresh, so there is no version to conflict with.
    rcases MemoryStore.mayWrite_error hrefused with ⟨hstored, -⟩ | ⟨r, hkey, rfl⟩
    · rw [hnone] at hstored
      cases hstored
    · obtain ⟨hr, hrkey⟩ := MemoryStore.mem_of_findKey? hkey
      exact ⟨rfl, r.id, r, hr, hrkey, rfl⟩
  · rw [hsave]
    intro hsound
    have := hworks hsound
    rw [hfails] at this
    cases this

/-- The store in memory keeps the terms, whatever happens to a call. -/
theorem answers_faulty {c : StoreCall} (hallows : (terms e).allows w c) (hs : w.store.Consistent)
    (hworks : e.sound → w.store.outboxFails = false) {f : Lab.Fault DomainError}
    (hok : e.sound → f = .ok) {limit : Span} {t : MemoryStore} {r : Option c.Reply}
    (h : (w.store.faulty f c).outcome limit = (t, some r)) :
    (terms e).answers w c r ⟨t, w.ids⟩ := by
  have hextends := (w.store.touched_faulty h).grows hs (fits_of_allows hallows hs)
  rcases outcome_conduct f w.store (w.store.handle c).2 (w.store.handle c).1
    (Lab.failedReply · c) (Lab.missedReply c) limit with hnormal | ⟨hne, t', o, heq, -, hreply⟩
  · cases hnormal.symm.trans h
    cases c with
    | findByKey key => exact ⟨hextends, found_handle _ key w.ids⟩
    | save p => exact ⟨hextends, saved_handle hallows hs hworks⟩
    | findById id => exact hallows.elim
    | ping => exact hallows.elim
  · cases heq.symm.trans h
    -- Something has happened to the call, so the store was not sound.
    have hnot : ¬ e.sound := fun hsound => hne (hok hsound)
    cases r with
    | none => cases c <;> exact ⟨hextends, hnot⟩
    | some x =>
      cases c with
      | findByKey key =>
        refine ⟨hextends, ?_⟩
        rcases hreply x rfl with ⟨e', rfl⟩ | hmissed
        · exact hnot
        · cases hmissed
          exact fun hsound => absurd hsound hnot
      | save p =>
        refine ⟨hextends, ?_⟩
        rcases hreply x rfl with ⟨e', rfl⟩ | hmissed
        · exact fun hsound => absurd hsound hnot
        · cases hmissed
      | findById id => exact hallows.elim
      | ping => exact hallows.elim

/-! ### Calls to the cache -/

/-- An initiation gives nothing to the cache but what the cache may vouch for. -/
theorem vouches_of_allowsCache {c : CacheCall} (h : (terms e).allowsCache w c)
    (hhonest : e.honest) :
    ∀ key value ttl, c = .set key value ttl → w.store.Vouches key value := by
  rintro key value ttl rfl
  exact h hhonest

/-- The cache keeps vouching for what it holds under calls of an initiation. -/
theorem keeps_handle {m : MemoryCache} (hkeeps : e.honest → m.Keeps w.store.Vouches)
    {c : CacheCall} (hallows : (terms e).allowsCache w c) (now : Instant) (hhonest : e.honest) :
    (m.handle now c).2.Keeps w.store.Vouches :=
  (hkeeps hhonest).handle now (vouches_of_allowsCache hallows hhonest)

/-- It does so whatever happens to a call. -/
theorem keeps_faulty {m : MemoryCache} (hkeeps : e.honest → m.Keeps w.store.Vouches)
    {c : CacheCall} (hallows : (terms e).allowsCache w c) {now : Instant}
    {f : Lab.Fault CacheError} {limit : Span} {m' : MemoryCache} {r : Option (Option c.Reply)}
    (h : (m.faulty now f c).outcome limit = (m', r)) (hhonest : e.honest) :
    m'.Keeps w.store.Vouches :=
  (hkeeps hhonest).faulty (vouches_of_allowsCache hallows hhonest) h

theorem cacheAnswers_faulty {m : MemoryCache} (hkeeps : e.honest → m.Keeps w.store.Vouches)
    {c : CacheCall} {now : Instant} {f : Lab.Fault CacheError} {limit : Span} {m' : MemoryCache}
    {r : Option c.Reply} (h : (m.faulty now f c).outcome limit = (m', some r)) :
    (terms e).cacheAnswers w c r := by
  cases c with
  | set key value ttl => trivial
  | evict key => trivial
  | ping => trivial
  | get key =>
    rcases r with _ | x | _ | value
    · trivial
    · trivial
    · trivial
    · exact fun hhonest => (hkeeps hhonest).faulty_get h

/-- Nothing is promised of a cache that makes things up. -/
theorem cacheAnswers_forged (h : ¬ e.honest) (c : CacheCall) (r : Option c.Reply) :
    (terms e).cacheAnswers w c r := by
  cases c with
  | set key value ttl => trivial
  | evict key => trivial
  | ping => trivial
  | get key =>
    rcases r with _ | _ | _ | value
    · trivial
    · trivial
    · trivial
    · exact fun hhonest => absurd hhonest h

end Initiation

end PayOnce
