import PayOnce.Proofs.Cache.Memory
import PayOnce.Proofs.Payment.Receipt
import PayOnce.Proofs.Service.Rules
import PayOnce.Proofs.Time.Order
/-!
What an initiation leaves behind in the cache that ends with a receipt. A set does not overwrite a
live entry, so whatever is no receipt has to be gone before the receipt is put in; and what a read
takes for live, a set must take for live too.
-/

namespace PayOnce

namespace MemoryCache

/-! ## Reads and sets that fit together -/

/-- The entry that a key has at an instant, if there is a receipt in it. -/
def usable? (m : MemoryCache) (now : Instant) (key : String) : Option CacheEntry :=
  (m.find? key).filter fun e =>
    now.before e.expiresAt && (Receipt.decode (Json.glyphsOf e.value)).isOk

/-- There was no receipt under a key, and now there is nothing. Under other keys all is as it
    was. -/
structure Bare (now : Instant) (key : String) (m m' : MemoryCache) : Prop where
  unusable : m.usable? now key = none
  gone : m'.find? key = none
  others : ∀ key', key' ≠ key → m'.find? key' = m.find? key'

/-- A cache holds a receipt under a key, in the entry that another one held already, or else in a
    new one that stays for a day. Under other keys it holds what the other one holds. -/
structure Warm (now : Instant) (key : String) (r : Receipt) (m m' : MemoryCache) : Prop where
  entry : m'.find? key =
    some ((m.usable? now key).getD ⟨r.toJson.render, now.plus (.ofDays 1)⟩)
  receipt : ∃ value, m'.peek now key = some value ∧ Receipt.decode (Json.glyphsOf value) = .ok r
  others : ∀ key', key' ≠ key → m'.find? key' = m.find? key'

variable {m m' : MemoryCache} {now : Instant} {key : String}

theorem peek_of_find? {e : CacheEntry} (hfind : m.find? key = some e)
    (hlive : now.before e.expiresAt = true) : m.peek now key = some e.value := by
  simp only [peek, hfind, hlive, if_true]

/-- What is no receipt may be removed. -/
theorem bare_without (hunusable : m.usable? now key = none)
    (hentries : m'.entries = m.without key) : Bare now key m m' := by
  have hfind (key' : String) :
      m'.find? key' = find? { m with entries := m.without key } key' := by
    simp only [find?, hentries]
  refine ⟨hunusable, (hfind key).trans (m.find?_without_self key), ?_⟩
  intro key' hne
  exact (hfind key').trans (m.find?_without_of_ne hne.symm)

/-- What a read of a key makes of the cache, and what it tells. -/
theorem read_cases (m : MemoryCache) (now : Instant) (key : String) {x : (CacheCall.get key).Reply}
    (h : m.handle now (.get key) = (x, m')) :
    (∃ r, Initiation.Reading.of (some x) = .receipt r ∧ Warm now key r m m') ∨
      (Initiation.Reading.of (some x) = .nothing ∧ Bare now key m m') ∨
      (Initiation.Reading.of (some x) = .spoiled ∧ m.usable? now key = none ∧
        m'.entries = m.entries) := by
  simp only [handle] at h
  rcases m.counted.get_cases now key with
    ⟨hfind, hget⟩ | ⟨e, hfind, hlive, hget⟩ | ⟨e, hfind, hlive, hget⟩
  · change m.find? key = none at hfind
    have hunusable : m.usable? now key = none := by simp [usable?, hfind]
    rw [hget] at h
    cases h
    exact .inr (.inl ⟨rfl, hunusable, hfind, fun _ _ => rfl⟩)
  · change m.find? key = some e at hfind
    have hunusable : m.usable? now key = none := by simp [usable?, hfind, hlive]
    rw [hget] at h
    cases h
    exact .inr (.inl ⟨rfl, bare_without hunusable rfl⟩)
  · change m.find? key = some e at hfind
    rw [hget] at h
    cases h
    cases hdecode : Receipt.decode (Json.glyphsOf e.value) with
    | ok r =>
      have husable : m.usable? now key = some e := by
        simp [usable?, hfind, hlive, hdecode, Except.isOk, Except.toBool]
      refine .inl ⟨r, by simp only [Initiation.Reading.of, hdecode], ?_, ⟨e.value, ?_, hdecode⟩,
        fun _ _ => rfl⟩
      · rw [husable]
        exact hfind
      · exact peek_of_find? hfind hlive
    | error fault =>
      have hunusable : m.usable? now key = none := by
        simp [usable?, hfind, hdecode, Except.isOk, Except.toBool]
      exact .inr (.inr ⟨by simp only [Initiation.Reading.of, hdecode], hunusable, rfl⟩)

/-- A receipt is taken in where there is nothing. -/
theorem Bare.set (h : Bare now key m m') (r : Receipt) :
    Warm now key r m (m'.handle now (.set key r.toJson.render receiptTtl)).2 := by
  have hfind : m'.counted.find? key = none := h.gone
  have hpeek : m'.counted.peek now key = none := by
    simp only [peek, hfind]
  let e : CacheEntry := ⟨r.toJson.render, now.plus (.ofDays 1)⟩
  have hset : (m'.handle now (.set key r.toJson.render receiptTtl)).2 = m'.counted.put key e := by
    have httl : ¬ receiptTtl > longestTtl := by decide +kernel
    simp only [handle, MemoryCache.set, hpeek, if_neg httl]
    rfl
  have hput := m'.counted.find?_put_self key e
  have hlive : now.before e.expiresAt = true := by
    simp only [e, now.before_plus_day]
  rw [hset]
  refine ⟨?_, ⟨e.value, peek_of_find? hput hlive, r.decode_render⟩, ?_⟩
  · rw [h.unusable]
    exact hput
  · intro key' hne
    rw [find?_put_of_ne _ hne.symm]
    exact h.others key' hne

end MemoryCache

namespace Initiation

/-- The cache in memory answers every call at once. -/
def Prompt {σ : Type} (env : Environment σ MemoryCache) : Prop :=
  ∀ m c, env.cache m c = .immediate m (m.handle env.clock c).2 (m.handle env.clock c).1

section Warms

variable {σ : Type} {env : Environment σ MemoryCache} {j : Journal σ MemoryCache} {m : MemoryCache}
  {key : String}

theorem Prompt.outcome (h : Prompt env) {m m' : MemoryCache} {c : CacheCall} {limit : Span}
    {r : Option c.Reply} (hcall : (env.cache m c).outcome limit = (m', some r)) :
    ∃ x, r = some x ∧ m.handle env.clock c = (x, m') := by
  rw [h, outcome_immediate] at hcall
  cases hcall
  exact ⟨_, rfl, rfl⟩

/-- If the answer is a receipt, the cache is warm. -/
def Warms (env : Environment σ MemoryCache) (m : MemoryCache) (key : String)
    (x : Except DomainError Receipt) (j : Journal σ MemoryCache) : Prop :=
  ∀ r, x = .ok r → m.Warm env.clock key r j.cache

theorem warms_error (e : DomainError) (j : Journal σ MemoryCache) : Warms env m key (.error e) j :=
  nofun

theorem warms_give (henv : Prompt env) (hbare : m.Bare env.clock key j.cache) (r : Receipt)
    (limit : Span) : (give key r limit).Obeys (env.rules fun _ => True) (Warms env m key) j := by
  rintro j rfl
  refine ⟨trivial, ?_⟩
  intro x j' hleads
  cases hleads with | cache hcall =>
  obtain ⟨x, -, hset⟩ := henv.outcome hcall
  have hwarm := hbare.set r
  rw [hset] at hwarm
  rintro _ ⟨⟩
  exact hwarm

theorem warms_announce (henv : Prompt env) (hbare : m.Bare env.clock key j.cache) (s : Signal)
    (p : Payment) (limit : Span) :
    (announce s p key limit).Obeys (env.rules fun _ => True) (Warms env m key) j := by
  rintro j rfl
  refine ⟨trivial, ?_⟩
  rintro _ ⟨⟩
  apply warms_give henv
  exact hbare

theorem warms_refetch (henv : Prompt env) (hbare : m.Bare env.clock key j.cache)
    (deadlines : Deadlines) :
    (refetch key deadlines).Obeys (env.rules fun _ => True) (Warms env m key) j := by
  rintro j rfl
  refine ⟨trivial, ?_⟩
  rintro r _ ⟨-⟩
  rcases r with _ | e | _ | winner
  · exact warms_error _ _
  · exact warms_error _ _
  · exact warms_error _ _
  · apply warms_announce henv
    exact hbare

theorem warms_issueAndSave (henv : Prompt env) {draft : Draft}
    (hbare : m.Bare env.clock draft.idempotencyKey j.cache) (deadlines : Deadlines) :
    (issueAndSave draft deadlines).Obeys (env.rules fun _ => True)
      (Warms env m draft.idempotencyKey) j := by
  rintro j rfl
  refine ⟨trivial, ?_⟩
  rintro now _ ⟨⟩ _ rfl
  refine ⟨trivial, ?_⟩
  rintro id _ ⟨⟩ _ rfl
  refine ⟨trivial, ?_⟩
  rintro r _ ⟨-⟩
  rcases r with _ | ⟨e | rows, saved⟩
  · exact warms_error _ _
  · cases e with
    | duplicateKey key =>
      apply warms_refetch henv
      exact hbare
    | _ => exact warms_error _ _
  · apply warms_announce henv
    exact hbare

theorem warms_lookOrCreate (henv : Prompt env) {draft : Draft}
    (hbare : m.Bare env.clock draft.idempotencyKey j.cache) (deadlines : Deadlines) :
    (lookOrCreate draft deadlines).Obeys (env.rules fun _ => True)
      (Warms env m draft.idempotencyKey) j := by
  rintro j rfl
  refine ⟨trivial, ?_⟩
  rintro r _ ⟨-⟩
  rcases r with _ | e | _ | p
  · exact warms_error _ _
  · exact warms_error _ _
  · apply warms_issueAndSave henv
    exact hbare
  · apply warms_announce henv
    exact hbare

/-- An initiation warms the cache that it starts with. -/
theorem warms_outline (henv : Prompt env) (c : InitiatePayment) (deadlines : Deadlines) :
    (outline c deadlines).Obeys (env.rules fun _ => True)
      (Warms env j.cache c.idempotencyKey) j := by
  unfold outline
  cases c.validate with
  | error e => exact warms_error _ _
  | ok amount =>
    rintro j rfl
    refine ⟨trivial, ?_⟩
    intro x j' hleads
    cases hleads with | cache hcall =>
    obtain ⟨x, rfl, hget⟩ := henv.outcome hcall
    rcases MemoryCache.read_cases _ _ _ hget with
      ⟨r, hreading, hwarm⟩ | ⟨hreading, hbare⟩ | ⟨hreading, hunusable, hentries⟩
    · -- The receipt that is there already is the answer.
      simp only [hreading]
      rintro _ rfl
      refine ⟨trivial, ?_⟩
      rintro _ ⟨⟩ _ ⟨⟩
      exact hwarm
    · simp only [hreading]
      apply warms_lookOrCreate henv
      exact hbare
    · simp only [hreading]
      rintro j' rfl
      refine ⟨trivial, ?_⟩
      intro y j' hleads
      cases hleads with | cache hcall =>
      obtain ⟨y, -, hevict⟩ := henv.outcome hcall
      apply warms_lookOrCreate henv
      apply MemoryCache.bare_without hunusable
      cases hevict
      exact congrArg (List.filter _) hentries

end Warms

/-! ## Success leaves the cache warm -/

/-- An initiation that is answered with a receipt leaves it in the cache, where it is live and is
    read back. An entry that held a receipt before is still the same, and any other one, be it
    expired or no receipt, has given way to a new entry that expires a day from now. What the cache
    holds under other keys is as it was. All of this holds over whatever the store does. -/
theorem success_leaves_cache_warm {σ : Type} {env : Environment σ MemoryCache} (henv : Prompt env)
    {c : InitiatePayment} {deadlines : Deadlines} {budget : Option Span}
    {s s' : Progress σ MemoryCache} {r : Receipt}
    (hrun : (initiate c deadlines).run env budget s = (.finished (.ok r), s')) :
    (∃ value, s'.cache.peek env.clock c.idempotencyKey = some value ∧
      Receipt.decode (Json.glyphsOf value) = .ok r) ∧
    s'.cache.find? c.idempotencyKey =
      some ((s.cache.usable? env.clock c.idempotencyKey).getD
        ⟨r.toJson.render, env.clock.plus (.ofDays 1)⟩) ∧
    ∀ key, key ≠ c.idempotencyKey → s'.cache.find? key = s.cache.find? key := by
  have hobeys := warms_outline (j := s.journal []) henv c deadlines
  rw [← unlogged_initiate, Program.obeys_unlogged] at hobeys
  have hleaves := hobeys.run budget
  rw [hrun] at hleaves
  have hwarm := hleaves r rfl
  exact ⟨hwarm.receipt, hwarm.entry, hwarm.others⟩

/-- A store in which someone else creates the payment between the lookup and the save, beside a
    cache in memory. The state of the store is the number of calls so far. -/
def outrun : Environment Nat MemoryCache where
  store
    | n, .findByKey _ => .immediate n (n + 1) <| .ok <| if n = 0 then none else some <|
      Draft.issue ⟨"order-1", "customer-1", ⟨100, "USD"⟩, "key-1"⟩ ⟨1⟩ ⟨10, 0⟩
    | n, .save p => .immediate n (n + 1) (.error (.duplicateKey "key-1"), p)
    | n, .findById id => .immediate n (n + 1) (.error (.notFound id))
    | n, .ping => .immediate n (n + 1) (.ok ())
  cache m c := .immediate m (m.handle ⟨10, 0⟩ c).2 (m.handle ⟨10, 0⟩ c).1
  clock := ⟨10, 0⟩
  paymentId n := ⟨BitVec.ofNat 128 (n + 2)⟩
  correlationId := ⟨0⟩

/-- The receipt for the winner's payment takes the place of a live entry that is no receipt. An
    entry under another key stays, though it has expired. -/
theorem success_leaves_cache_warm_outrun :
    let junk : CacheEntry := ⟨"no receipt", ⟨1000, 0⟩⟩
    let other : CacheEntry := ⟨"no receipt", ⟨5, 0⟩⟩
    ∃ s', (initiate ⟨⟨7⟩, "order-1", "customer-1", 100, "USD", "key-1"⟩ .standard).run outrun none
        ⟨0, { entries := [("key-1", junk), ("key-2", other)] }, 0, 0, []⟩ =
        (.finished (.ok ⟨⟨1⟩, .pending⟩), s') ∧
      (∃ e, s'.cache.find? "key-1" = some e ∧ e.expiresAt = ⟨86410, 0⟩) ∧
      s'.cache.find? "key-2" = some other := by
  intro junk other
  let start : Progress Nat MemoryCache :=
    ⟨0, { entries := [("key-1", junk), ("key-2", other)] }, 0, 0, []⟩
  let run := (initiate ⟨⟨7⟩, "order-1", "customer-1", 100, "USD", "key-1"⟩ .standard).run outrun
    none start
  have hfirst : run.1 = .finished (.ok ⟨⟨1⟩, .pending⟩) := by decide +kernel
  have hrun : run = (.finished (.ok ⟨⟨1⟩, .pending⟩), run.2) := Prod.ext hfirst rfl
  obtain ⟨-, hentry, hothers⟩ := success_leaves_cache_warm (fun _ _ => rfl) hrun
  refine ⟨run.2, hrun, ⟨_, hentry, ?_⟩, ?_⟩
  · decide +kernel
  · exact hothers "key-2" (by decide)

end Initiation

end PayOnce
