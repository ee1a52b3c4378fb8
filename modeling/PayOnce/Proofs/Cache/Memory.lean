import PayOnce.Cache.Memory
/-!
Where the entries of the cache in memory come from. Entries are only written by sets, so a condition
that every value satisfies when it is set is satisfied by every value that is read.
-/

namespace PayOnce.MemoryCache

/-- The three ways in which a read ends. -/
theorem get_cases (c : MemoryCache) (now : Instant) (key : String) :
    (c.find? key = none ∧ c.get now key = (none, c)) ∨
      (∃ e, c.find? key = some e ∧ now.before e.expiresAt = false ∧
        c.get now key = (none, { c with entries := c.without key })) ∨
      ∃ e, c.find? key = some e ∧ now.before e.expiresAt = true ∧
        c.get now key = (some e.value, c) := by
  unfold get
  cases c.find? key with
  | none => exact .inl ⟨rfl, rfl⟩
  | some e =>
    cases hlive : now.before e.expiresAt with
    | false => exact .inr (.inl ⟨e, rfl, hlive, by simp [hlive]⟩)
    | true => exact .inr (.inr ⟨e, rfl, hlive, by simp [hlive]⟩)

/-- Every entry, live or expired, satisfies a condition on its key and its value. -/
def Keeps (P : String → String → Prop) (c : MemoryCache) : Prop :=
  ∀ x ∈ c.entries, P x.1 x.2.value

variable {P Q : String → String → Prop} {c : MemoryCache}

theorem Keeps.mono (h : c.Keeps P) (hPQ : ∀ key value, P key value → Q key value) : c.Keeps Q :=
  fun x hx => hPQ _ _ (h x hx)

theorem Keeps.without (h : c.Keeps P) (key : String) :
    Keeps P { c with entries := c.without key } :=
  fun x hx => h x ((List.mem_filter.1 hx).1)

theorem Keeps.put (h : c.Keeps P) {key : String} {e : CacheEntry} (he : P key e.value) :
    (c.put key e).Keeps P := by
  intro x hx
  rcases List.mem_cons.1 hx with rfl | hx
  · exact he
  · exact h.without key x hx

theorem Keeps.find? (h : c.Keeps P) {key : String} {e : CacheEntry} (he : c.find? key = some e) :
    P key e.value := by
  obtain ⟨before, after, hentries, -⟩ := List.lookup_eq_some_iff.1 he
  have hmem : (key, e) ∈ c.entries := by
    rw [hentries]
    exact List.mem_append_right _ List.mem_cons_self
  exact h _ hmem

/-- A live value satisfies the condition of its entry. -/
theorem Keeps.peek (h : c.Keeps P) {now : Instant} {key value : String}
    (hpeek : c.peek now key = some value) : P key value := by
  unfold MemoryCache.peek at hpeek
  split at hpeek
  · next e he =>
    split at hpeek
    · cases hpeek
      exact h.find? he
    · cases hpeek
  · cases hpeek

theorem Keeps.get (h : c.Keeps P) (now : Instant) (key : String) :
    (c.get now key).2.Keeps P ∧ ∀ value, (c.get now key).1 = some value → P key value := by
  unfold MemoryCache.get
  split
  · next e he =>
    split
    · refine ⟨h, ?_⟩
      rintro _ ⟨⟩
      exact h.find? he
    · exact ⟨h.without key, by simp⟩
  · exact ⟨h, by simp⟩

theorem Keeps.set (h : c.Keeps P) (now : Instant) {key value : String} (hvalue : P key value)
    (ttl : Span) : (c.set now key value ttl).2.Keeps P := by
  unfold MemoryCache.set
  split
  · exact h
  · split
    · exact h
    · exact h.put hvalue

/-- Calls keep the condition, as long as whatever is set satisfies it. -/
theorem Keeps.handle (h : c.Keeps P) (now : Instant) {call : CacheCall}
    (hset : ∀ key value ttl, call = .set key value ttl → P key value) :
    (c.handle now call).2.Keeps P := by
  have hcounted : c.counted.Keeps P := h
  cases call with
  | get key => exact (hcounted.get now key).1
  | set key value ttl => exact hcounted.set now (hset key value ttl rfl) ttl
  | evict key => exact hcounted.without key
  | ping => exact h

/-- Whatever is read satisfies the condition. -/
theorem Keeps.handle_get (h : c.Keeps P) {now : Instant} {key value : String}
    (hread : (c.handle now (.get key)).1 = .ok (some value)) : P key value := by
  have hcounted : c.counted.Keeps P := h
  exact (hcounted.get now key).2 value (Except.ok.inj hread)

/-! ## Entries of different keys -/

theorem find?_without_self (c : MemoryCache) (key : String) :
    find? { c with entries := c.without key } key = none := by
  simpa [find?, without, List.lookup_eq_none_iff] using fun _ _ _ hne => Ne.symm hne

theorem find?_without_of_ne (c : MemoryCache) {key key' : String} (h : key' ≠ key) :
    find? { c with entries := c.without key' } key = c.find? key := by
  simp only [find?, without]
  induction c.entries with
  | nil => rfl
  | cons x entries ih =>
    obtain ⟨key'', e⟩ := x
    by_cases hkey : key'' = key'
    · subst hkey
      simp [ih, List.lookup_cons, beq_eq_false_iff_ne.2 h.symm]
    · simp [hkey, List.lookup_cons, ih]

theorem find?_put_self (c : MemoryCache) (key : String) (e : CacheEntry) :
    (c.put key e).find? key = some e := by
  simp [find?, put]

theorem find?_put_of_ne (c : MemoryCache) {key key' : String} (h : key' ≠ key) (e : CacheEntry) :
    (c.put key' e).find? key = c.find? key := by
  rw [← c.find?_without_of_ne h]
  simp [find?, put, List.lookup_cons, beq_eq_false_iff_ne.2 h.symm]

end PayOnce.MemoryCache
