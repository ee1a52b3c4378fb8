import PayOnce.Lab.World
import PayOnce.Proofs.Service.Rules
/-!
What an initiation leaves behind that answers with an error. Over collaborators in memory, whatever
faults their calls meet, the tables of the store stay as they are, unless a save has committed whose
answer never came; and the cache stays as it is, except that an entry under the key of the command
may be gone that was of no use any more.
-/

namespace PayOnce

/-! ## Calls to collaborators with queued faults -/

namespace Lab

/-- A store in memory makes of a call what the next fault of its queue makes of it, if there is one;
    the other queues stay as they are. -/
theorem StoreSide.conduct_memory {s : StoreSide} (hmode : s.mode = .memory) (c : StoreCall) :
    ∃ (b : StoreSide) (f : Fault DomainError), b.mode = .memory ∧ b.memory = s.memory ∧
      (∀ k, k ≠ .of c → b.faults k = s.faults k) ∧ (f = .ok ∨ (s.faults (.of c)).head? = some f) ∧
      s.conduct c = f.conduct b
        (.immediate b { b with memory := (s.memory.handle c).2 } (s.memory.handle c).1)
        (failedReply · c) (missedReply c) := by
  obtain ⟨memory, script, mode, faults⟩ := s
  obtain rfl : mode = .memory := hmode
  unfold conduct
  cases hfaults : faults (.of c) with
  | nil =>
    refine ⟨_, .ok, rfl, rfl, fun _ _ => rfl, .inl rfl, ?_⟩
    simp only [hfaults]
    rfl
  | cons f rest =>
    refine ⟨⟨memory, script, .memory, fun k => if k = .of c then rest else faults k⟩, f, rfl, rfl,
      fun _ hk => if_neg hk, .inr (congrArg List.head? hfaults), ?_⟩
    simp only [hfaults]
    rfl

theorem CacheSide.conduct_memory {s : CacheSide} (hmode : s.mode = .memory) (c : CacheCall) :
    ∃ (b : CacheSide) (f : Fault CacheError), b.mode = .memory ∧ b.memory = s.memory ∧
      (f = .ok ∨ (s.faults (.of c)).head? = some f) ∧
      s.conduct c = f.conduct b
        (.immediate b { b with memory := (s.memory.handle s.clock c).2 }
          (s.memory.handle s.clock c).1)
        (failedCacheReply · c) (some (missedCacheReply c)) := by
  obtain ⟨memory, clock, mode, faults⟩ := s
  obtain rfl : mode = .memory := hmode
  unfold conduct
  cases hfaults : faults (.of c) with
  | nil =>
    refine ⟨_, .ok, rfl, rfl, .inl rfl, ?_⟩
    simp only [hfaults]
    rfl
  | cons f rest =>
    refine ⟨⟨memory, clock, .memory, fun k => if k = .of c then rest else faults k⟩, f, rfl, rfl,
      .inr (congrArg List.head? hfaults), ?_⟩
    simp only [hfaults]
    rfl

/-- A call to a store in memory either has its effect, and is answered unless its fault lets it
    commit and hang, or it has no effect and is not answered well. -/
theorem StoreSide.outcome_memory {s t : StoreSide} (hmode : s.mode = .memory) {c : StoreCall}
    {limit : Span} {r : Option (Option c.Reply)} (h : (s.conduct c).outcome limit = (t, r)) :
    t.mode = .memory ∧ (∀ k, k ≠ .of c → t.faults k = s.faults k) ∧
      ((t.memory = (s.memory.handle c).2 ∧
          (r = some (some (s.memory.handle c).1) ∨
            r = some none ∧ (s.faults (.of c)).head? = some .commitThenHang)) ∨
        t.memory = s.memory ∧
          ∀ x, r = some (some x) → (∃ e, x = failedReply e c) ∨ missedReply c = some x) := by
  obtain ⟨b, f, hb, hmemory, hothers, hf, hconduct⟩ := s.conduct_memory hmode c
  rw [hconduct] at h
  rcases outcome_fault f b { b with memory := (s.memory.handle c).2 } (s.memory.handle c).1
    (failedReply · c) (missedReply c) limit with ⟨-, heq⟩ | ⟨rfl, heq⟩ | ⟨-, -, o, heq, hreply⟩
  · cases heq.symm.trans h
    exact ⟨hb, hothers, .inl ⟨rfl, .inl rfl⟩⟩
  · cases heq.symm.trans h
    exact ⟨hb, hothers, .inl ⟨rfl, .inr ⟨rfl, hf.resolve_left nofun⟩⟩⟩
  · cases heq.symm.trans h
    refine ⟨hb, hothers, .inr ⟨hmemory, ?_⟩⟩
    intro x hx
    rcases hreply x hx with ⟨e, -, he⟩ | hmissed
    · exact .inl ⟨e, he⟩
    · exact .inr hmissed

/-- A call to a cache in memory either has its effect, or it has none and is not answered well. -/
theorem CacheSide.outcome_memory {s t : CacheSide} (hmode : s.mode = .memory) {c : CacheCall}
    {limit : Span} {r : Option (Option c.Reply)} (h : (s.conduct c).outcome limit = (t, r)) :
    t.mode = .memory ∧
      ((t.memory = (s.memory.handle s.clock c).2 ∧
          ∀ x, r = some (some x) → x = (s.memory.handle s.clock c).1) ∨
        t.memory = s.memory ∧ ∀ x, r = some (some x) →
          (∃ e, (s.faults (.of c)).head? = some (.fail e) ∧ x = failedCacheReply e c) ∨
            x = missedCacheReply c) := by
  obtain ⟨b, f, hb, hmemory, hf, hconduct⟩ := s.conduct_memory hmode c
  rw [hconduct] at h
  rcases outcome_fault f b { b with memory := (s.memory.handle s.clock c).2 }
    (s.memory.handle s.clock c).1 (failedCacheReply · c) (some (missedCacheReply c)) limit with
    ⟨-, heq⟩ | ⟨-, heq⟩ | ⟨-, -, o, heq, hreply⟩
  · cases heq.symm.trans h
    refine ⟨hb, .inl ⟨rfl, ?_⟩⟩
    rintro _ ⟨⟩
    rfl
  · cases heq.symm.trans h
    exact ⟨hb, .inl ⟨rfl, nofun⟩⟩
  · cases heq.symm.trans h
    refine ⟨hb, .inr ⟨hmemory, ?_⟩⟩
    intro x hx
    rcases hreply x hx with ⟨e, rfl, he⟩ | hmissed
    · exact .inl ⟨e, hf.resolve_left nofun, he⟩
    · exact .inr (Option.some.inj hmissed).symm

end Lab

namespace Initiation

/-! ## What may change in the cache -/

/-- The entry of a key is of no use: it has expired, it is no receipt, or the next read of the cache
    is told so. -/
def Useless (m : Lab.CacheSide) (key : String) : Prop :=
  (∃ e, m.memory.find? key = some e ∧ (m.clock.before e.expiresAt = false ∨
      ∃ fault, Receipt.decode (Json.glyphsOf e.value) = .error fault)) ∨
    ∃ reason, (m.faults .get).head? = some (.fail (.corrupt reason))

/-- The cache is as it was, except that a useless entry of a key may be gone. -/
def SameCache (key : String) (m m' : Lab.CacheSide) : Prop :=
  m'.memory.entries = m.memory.entries ∨
    m'.memory.entries = m.memory.without key ∧ Useless m key

theorem sameCache_read {m m' : Lab.CacheSide} (hmode : m.mode = .memory) {key : String}
    {limit : Span} {r : Option (Except CacheError (Option String))}
    (h : (m.conduct (.get key)).outcome limit = (m', some r)) :
    m'.mode = .memory ∧ SameCache key m m' ∧ (Reading.of r = .spoiled → Useless m key) := by
  obtain ⟨hmode', ⟨hmemory, hreply⟩ | ⟨hmemory, hreply⟩⟩ := Lab.CacheSide.outcome_memory hmode h
  · -- What the call has done depends on the entry of the key.
    refine ⟨hmode', ?_⟩
    rcases m.memory.counted.get_cases m.clock key with
      ⟨-, hget⟩ | ⟨e, hentry, hlive, hget⟩ | ⟨e, hentry, -, hget⟩
    · have hhandle : m.memory.handle m.clock (.get key) = (.ok none, m.memory.counted) := by
        simp only [MemoryCache.handle, hget]
      rw [hhandle] at hmemory hreply
      refine ⟨.inl (by rw [hmemory]; rfl), ?_⟩
      intro hspoiled
      cases r with
      | none => cases hspoiled
      | some x =>
        cases hreply x rfl
        cases hspoiled
    · have hhandle : (m.memory.handle m.clock (.get key)).2
          = { m.memory.counted with entries := m.memory.without key } := by
        simp only [MemoryCache.handle, hget]
        rfl
      have huseless : Useless m key := .inl ⟨e, hentry, .inl hlive⟩
      rw [hhandle] at hmemory
      exact ⟨.inr ⟨by rw [hmemory], huseless⟩, fun _ => huseless⟩
    · have hhandle :
          m.memory.handle m.clock (.get key) = (.ok (some e.value), m.memory.counted) := by
        simp only [MemoryCache.handle, hget]
      rw [hhandle] at hmemory hreply
      refine ⟨.inl (by rw [hmemory]; rfl), ?_⟩
      intro hspoiled
      cases r with
      | none => cases hspoiled
      | some x =>
        cases hreply x rfl
        refine .inl ⟨e, hentry, .inr ?_⟩
        unfold Reading.of at hspoiled
        simp only at hspoiled
        split at hspoiled
        · cases hspoiled
        · next fault hdecode => exact ⟨fault, hdecode⟩
  · refine ⟨hmode', .inl (congrArg _ hmemory), ?_⟩
    intro hspoiled
    cases r with
    | none => cases hspoiled
    | some x =>
      rcases hreply x rfl with ⟨e, hfault, rfl⟩ | rfl
      · cases e with
        | corrupt reason => exact .inr ⟨reason, hfault⟩
        | unavailable reason => cases hspoiled
        | timeout limit => cases hspoiled
      · cases hspoiled

/-- A useless entry may be removed. -/
theorem SameCache.evict {key : String} {m m' m'' : Lab.CacheSide} (h : SameCache key m m')
    (hmode : m'.mode = .memory) (huseless : Useless m key) {limit : Span}
    {r : Option (Except CacheError Unit)}
    (hcall : (m'.conduct (.evict key)).outcome limit = (m'', some r)) : SameCache key m m'' := by
  obtain ⟨-, ⟨hmemory, -⟩ | ⟨hmemory, -⟩⟩ := Lab.CacheSide.outcome_memory hmode hcall
  · have hgone : m''.memory.entries = m'.memory.without key := by
      rw [hmemory]
      rfl
    refine .inr ⟨?_, huseless⟩
    rw [hgone]
    unfold MemoryCache.without
    rcases h with h | ⟨h, -⟩
    · rw [h]
    · rw [h, MemoryCache.without, List.filter_filter]
      simp only [Bool.and_self]
  · unfold SameCache
    rw [hmemory]
    exact h

/-! ## What may change in the store -/

/-- The tables of the store are as they were. -/
structure SameTables (s t : Lab.StoreSide) : Prop where
  mode : t.mode = .memory
  payments : t.memory.payments = s.memory.payments
  outbox : t.memory.outbox = s.memory.outbox

theorem SameTables.trans {s t u : Lab.StoreSide} (h : SameTables s t) (hmode : u.mode = .memory)
    (hpayments : u.memory.payments = t.memory.payments)
    (houtbox : u.memory.outbox = t.memory.outbox) : SameTables s u :=
  ⟨hmode, hpayments.trans h.payments, houtbox.trans h.outbox⟩

theorem SameTables.lookup {s t u : Lab.StoreSide} (h : SameTables s t) {key : String} {limit : Span}
    {r : Option (Except DomainError (Option Payment))}
    (hcall : (t.conduct (.findByKey key)).outcome limit = (u, some r)) :
    SameTables s u ∧ u.faults .save = t.faults .save := by
  obtain ⟨hmode, hothers, ⟨hmemory, -⟩ | ⟨hmemory, -⟩⟩ := Lab.StoreSide.outcome_memory h.mode hcall
  · exact ⟨h.trans hmode (by rw [hmemory]; rfl) (by rw [hmemory]; rfl), hothers .save nofun⟩
  · exact ⟨h.trans hmode (by rw [hmemory]) (by rw [hmemory]), hothers .save nofun⟩

/-- A payment has been written, but its save was not answered. -/
structure WrittenUnheard (s : Lab.StoreSide) (p : Payment) (t : Lab.StoreSide) : Prop where
  fault : (s.faults .save).head? = some .commitThenHang
  payments : t.memory.payments = MemoryStore.putRow p.facts s.memory.payments
  outbox : t.memory.outbox = s.memory.outbox ++ p.rows

/-- A save that is not answered well has changed nothing, unless it was not answered at all. -/
theorem SameTables.save {s t u : Lab.StoreSide} (h : SameTables s t)
    (hfaults : t.faults .save = s.faults .save) {p : Payment} {limit : Span}
    {r : Option (Except DomainError (List OutboxRow) × Payment)}
    (hcall : (t.conduct (.save p)).outcome limit = (u, some r)) :
    (∃ rows q, r = some (.ok rows, q)) ∨ SameTables s u ∨ r = none ∧ WrittenUnheard s p u := by
  obtain ⟨hmode, -, ⟨hmemory, hreply⟩ | ⟨hmemory, -⟩⟩ := Lab.StoreSide.outcome_memory h.mode hcall
  · rw [MemoryStore.handle_save] at hmemory hreply
    rcases t.memory.save_cases p with ⟨-, -, hsave⟩ | ⟨e, -, hsave⟩ | ⟨-, hsave⟩
    · rw [hsave] at hmemory hreply
      rcases hreply with ⟨⟨⟩⟩ | ⟨⟨⟩, hfault⟩
      · exact .inl ⟨_, _, rfl⟩
      · refine .inr (.inr ⟨rfl, ?_⟩)
        refine ⟨hfaults ▸ hfault, ?_, ?_⟩
        · rw [hmemory, ← h.payments]
          rfl
        · rw [hmemory, ← h.outbox]
          rfl
    · rw [hsave] at hmemory
      exact .inr (.inl (h.trans hmode (by rw [hmemory]; rfl) (by rw [hmemory]; rfl)))
    · rw [hsave] at hmemory
      exact .inr (.inl (h.trans hmode (by rw [hmemory]; rfl) (by rw [hmemory]; rfl)))
  · exact .inr (.inl (h.trans hmode (by rw [hmemory]) (by rw [hmemory])))

/-! ## What is left of an initiation -/

section Left

variable {env : Environment Lab.StoreSide Lab.CacheSide} {s : Lab.StoreSide} {m : Lab.CacheSide}
  {j : Journal Lab.StoreSide Lab.CacheSide} {p : Payment} {draft : Draft}

/-- What is left of an initiation that was answered with an error. -/
def Left (s : Lab.StoreSide) (m : Lab.CacheSide) (p : Payment) (r : Except DomainError Receipt)
    (j : Journal Lab.StoreSide Lab.CacheSide) : Prop :=
  ∀ e, r = .error e → (SameTables s j.store ∨ WrittenUnheard s p j.store) ∧
    SameCache p.facts.idempotencyKey m j.cache

theorem left_announce (signal : Signal) (q : Payment) (key : String) (limit : Span) :
    (announce signal q key limit).Obeys (env.rules fun _ => True) (Left s m p) j := by
  rintro _ rfl
  refine ⟨trivial, ?_⟩
  rintro _ - _ rfl
  refine ⟨trivial, ?_⟩
  rintro r _ - _ ⟨⟩

theorem left_refetch (hstore : env.store = Lab.StoreSide.conduct) (htables : SameTables s j.store)
    (hcache : SameCache p.facts.idempotencyKey m j.cache) (key : String) (deadlines : Deadlines) :
    (refetch key deadlines).Obeys (env.rules fun _ => True) (Left s m p) j := by
  rintro _ rfl
  refine ⟨trivial, ?_⟩
  rintro r _ ⟨hcall⟩
  rw [hstore] at hcall
  have htables' := (htables.lookup hcall).1
  rcases r with _ | e | _ | winner
  · exact fun _ _ => ⟨.inl htables', hcache⟩
  · exact fun _ _ => ⟨.inl htables', hcache⟩
  · exact fun _ _ => ⟨.inl htables', hcache⟩
  · exact left_announce _ _ _ _

theorem left_issueAndSave (hstore : env.store = Lab.StoreSide.conduct)
    (htables : SameTables s j.store) (hfaults : j.store.faults .save = s.faults .save)
    (hcache : SameCache draft.idempotencyKey m j.cache) {n : Nat} (hissued : j.issued = n)
    (deadlines : Deadlines) :
    (issueAndSave draft deadlines).Obeys (env.rules fun _ => True)
      (Left s m (draft.issue (env.paymentId n) env.clock)) j := by
  subst hissued
  rintro j rfl
  refine ⟨trivial, ?_⟩
  rintro now _ ⟨⟩ _ rfl
  refine ⟨trivial, ?_⟩
  rintro id _ ⟨⟩ _ rfl
  refine ⟨trivial, ?_⟩
  rintro r _ ⟨hcall⟩
  rw [hstore] at hcall
  rcases htables.save hfaults hcall with ⟨rows, q, rfl⟩ | htables' | ⟨rfl, hwritten⟩
  · exact left_announce _ _ _ _
  · rcases r with _ | ⟨e | rows, saved⟩
    · exact fun _ _ => ⟨.inl htables', hcache⟩
    · cases e with
      | duplicateKey key => exact left_refetch hstore htables' hcache _ deadlines
      | _ => exact fun _ _ => ⟨.inl htables', hcache⟩
    · exact left_announce _ _ _ _
  · exact fun _ _ => ⟨.inr hwritten, hcache⟩

theorem left_lookOrCreate (hstore : env.store = Lab.StoreSide.conduct)
    (htables : SameTables s j.store) (hfaults : j.store.faults .save = s.faults .save)
    (hcache : SameCache draft.idempotencyKey m j.cache) {n : Nat} (hissued : j.issued = n)
    (deadlines : Deadlines) :
    (lookOrCreate draft deadlines).Obeys (env.rules fun _ => True)
      (Left s m (draft.issue (env.paymentId n) env.clock)) j := by
  rintro j rfl
  refine ⟨trivial, ?_⟩
  rintro r _ ⟨hcall⟩
  rw [hstore] at hcall
  obtain ⟨htables', hfaults'⟩ := htables.lookup hcall
  rcases r with _ | e | _ | existing
  · exact fun _ _ => ⟨.inl htables', hcache⟩
  · exact fun _ _ => ⟨.inl htables', hcache⟩
  · apply left_issueAndSave hstore
    · exact htables'
    · exact hfaults'.trans hfaults
    · exact hcache
    · exact hissued
  · exact left_announce _ _ _ _

theorem left_fromReading (hstore : env.store = Lab.StoreSide.conduct)
    (hcache : env.cache = Lab.CacheSide.conduct) (htables : SameTables s j.store)
    (hfaults : j.store.faults .save = s.faults .save) (hmode : j.cache.mode = .memory)
    (hsame : SameCache draft.idempotencyKey m j.cache) {reading : Reading}
    (huseless : reading = .spoiled → Useless m draft.idempotencyKey) {n : Nat}
    (hissued : j.issued = n) (deadlines : Deadlines) :
    (fromReading draft deadlines reading).Obeys (env.rules fun _ => True)
      (Left s m (draft.issue (env.paymentId n) env.clock)) j := by
  cases reading with
  | receipt receipt =>
    rintro _ rfl
    refine ⟨trivial, ?_⟩
    rintro _ - _ ⟨⟩
  | nothing => exact left_lookOrCreate hstore htables hfaults hsame hissued deadlines
  | spoiled =>
    rintro j rfl
    refine ⟨trivial, ?_⟩
    intro r j' hleads
    cases hleads with | cache hcall =>
    rw [hcache] at hcall
    apply left_lookOrCreate hstore
    · exact htables
    · exact hfaults
    · exact hsame.evict hmode (huseless rfl) hcall
    · exact hissued
  | down =>
    rintro j rfl
    refine ⟨trivial, ?_⟩
    rintro _ ⟨⟩
    apply left_lookOrCreate hstore
    · exact htables
    · exact hfaults
    · exact hsame
    · exact hissued

/-- An initiation that is answered with an error has changed nothing but by an unheard save and by
    the removal of a useless entry. -/
theorem left_outline (hstore : env.store = Lab.StoreSide.conduct)
    (hcache : env.cache = Lab.CacheSide.conduct) (hmode : j.store.mode = .memory)
    (hmode' : j.cache.mode = .memory) {c : InitiatePayment} {amount : Money}
    (hvalid : c.validate = .ok amount) (deadlines : Deadlines) :
    (outline c deadlines).Obeys (env.rules fun _ => True)
      (Left j.store j.cache ((c.draft amount).issue (env.paymentId j.issued) env.clock)) j := by
  unfold outline
  rw [hvalid]
  rintro j rfl
  refine ⟨trivial, ?_⟩
  intro r j' hleads
  cases hleads with | cache hcall =>
  rw [hcache] at hcall
  obtain ⟨hmode'', hsame, huseless⟩ := sameCache_read hmode' hcall
  apply left_fromReading hstore hcache
  · exact ⟨hmode, rfl, rfl⟩
  · rfl
  · exact hmode''
  · exact hsame
  · exact huseless
  · rfl

end Left

end Initiation

/-- A refused command leaves everything as it was; any other one that is answered with an error
    leaves what its outline leaves. -/
theorem left_initiate {env : Environment Lab.StoreSide Lab.CacheSide}
    (hstore : env.store = Lab.StoreSide.conduct) (hcache : env.cache = Lab.CacheSide.conduct)
    {s s' : Progress Lab.StoreSide Lab.CacheSide} (hmode : s.store.mode = .memory)
    (hmode' : s.cache.mode = .memory) {c : InitiatePayment} {deadlines : Deadlines}
    {budget : Option Span} {x : DomainError}
    (hrun : (initiate c deadlines).run env budget s = (.finished (.error x), s')) :
    (Initiation.SameTables s.store s'.store ∨ ∃ amount, c.validate = .ok amount ∧
      Initiation.WrittenUnheard s.store
        ((c.draft amount).issue (env.paymentId s.issued) env.clock) s'.store) ∧
    Initiation.SameCache c.idempotencyKey s.cache s'.cache := by
  have hobeys (post) (h : (Initiation.outline c deadlines).Obeys (env.rules fun _ => True) post
      (s.journal [])) : post (.error x) (s'.journal
        ((initiate c deadlines).exchanges env budget s)) := by
    rw [← unlogged_initiate, Program.obeys_unlogged] at h
    have hleaves := h.run budget
    rw [hrun] at hleaves
    exact hleaves
  cases hvalid : c.validate with
  | error e =>
    have hdone : (Initiation.outline c deadlines).Obeys (env.rules fun _ => True)
        (fun _ j => j.store = s.store ∧ j.cache = s.cache) (s.journal []) := by
      unfold Initiation.outline
      rw [hvalid]
      exact ⟨rfl, rfl⟩
    obtain ⟨hstore', hcache'⟩ : s'.store = s.store ∧ s'.cache = s.cache := hobeys _ hdone
    rw [hstore', hcache']
    exact ⟨.inl ⟨hmode, rfl, rfl⟩, .inl rfl⟩
  | ok amount =>
    have hleft := hobeys _ (Initiation.left_outline hstore hcache hmode hmode' hvalid deadlines)
    obtain ⟨htables, hsame⟩ := hleft x rfl
    refine ⟨?_, hsame⟩
    rcases htables with htables | hwritten
    · exact .inl htables
    · exact .inr ⟨amount, rfl, hwritten⟩

/-! ## Errors leave no trace -/

/-- An initiation that is answered with an error leaves no trace. If its save is not let commit and
    hang, the tables of the store stay as they are; if it is, they may have gained the new payment
    and the row that tells of it, and nothing else. The cache stays as it is, except that the entry
    of the key may be gone if it had expired, was no receipt, or was reported as corrupt. -/
theorem error_leaves_no_trace {env : Environment Lab.StoreSide Lab.CacheSide}
    (hstore : env.store = Lab.StoreSide.conduct) (hcache : env.cache = Lab.CacheSide.conduct)
    {s s' : Progress Lab.StoreSide Lab.CacheSide} (hmode : s.store.mode = .memory)
    (hmode' : s.cache.mode = .memory) {c : InitiatePayment} {deadlines : Deadlines}
    {budget : Option Span} {x : DomainError}
    (hrun : (initiate c deadlines).run env budget s = (.finished (.error x), s')) :
    ((s.store.faults .save).head? ≠ some .commitThenHang →
      s'.store.memory.payments = s.store.memory.payments ∧
      s'.store.memory.outbox = s.store.memory.outbox) ∧
    (s.store.memory.findId? (env.paymentId s.issued) = none →
      (s'.store.memory.payments = s.store.memory.payments ∧
        s'.store.memory.outbox = s.store.memory.outbox) ∨
      ∃ (r : PaymentFacts) (o : OutboxRow), r.idempotencyKey = c.idempotencyKey ∧
        r.status = .pending ∧ o.aggregateId = r.id ∧ o.eventType = EventKind.initiated.name ∧
        s'.store.memory.payments = s.store.memory.payments ++ [r] ∧
        s'.store.memory.outbox = s.store.memory.outbox ++ [o]) ∧
    (s'.cache.memory.entries = s.cache.memory.entries ∨
      s'.cache.memory.entries = s.cache.memory.without c.idempotencyKey ∧
      ((∃ e, s.cache.memory.find? c.idempotencyKey = some e ∧
          (s.cache.clock.before e.expiresAt = false ∨
            ∃ fault, Receipt.decode (Json.glyphsOf e.value) = .error fault)) ∨
        ∃ reason, (s.cache.faults .get).head? = some (.fail (.corrupt reason)))) := by
  obtain ⟨htables, hsame⟩ := left_initiate hstore hcache hmode hmode' hrun
  refine ⟨?_, ?_, hsame⟩
  · intro hfault
    rcases htables with htables | ⟨amount, -, hwritten⟩
    · exact ⟨htables.payments, htables.outbox⟩
    · exact absurd hwritten.fault hfault
  · intro hfresh
    rcases htables with htables | ⟨amount, -, hwritten⟩
    · exact .inl ⟨htables.payments, htables.outbox⟩
    · -- Nobody has the id, so the row of the payment is appended.
      have hids := MemoryStore.findId?_eq_none_iff.1 hfresh
      exact .inr ⟨_, _, rfl, rfl, rfl, rfl,
        hwritten.payments.trans (MemoryStore.putRow_eq_append hids), hwritten.outbox⟩

/-- The next save commits and hangs, and the next read of the cache is told that its entry is
    corrupt. -/
def cutOff : Lab.World :=
  let w := Lab.World.start ⟨60, 0⟩
  { w with
    store := w.store.addFaults .save [.commitThenHang]
    cache :=
      { w.cache with memory := w.cache.memory.insert w.clock "key-1" "not a receipt" }.addFaults
        .get [.fail (.corrupt "bad frame")] }

theorem error_leaves_no_trace_cutOff : ∃ x s',
    (initiate ⟨⟨7⟩, "order-1", "customer-1", 100, "usd", "key-1"⟩ .standard).run cutOff.environment
      none cutOff.progress = (.finished (.error x), s') ∧
    ∃ (r : PaymentFacts) (o : OutboxRow), r.idempotencyKey = "key-1" ∧ o.aggregateId = r.id ∧
      s'.store.memory.payments = [r] ∧ s'.store.memory.outbox = [o] := by
  let c : InitiatePayment := ⟨⟨7⟩, "order-1", "customer-1", 100, "usd", "key-1"⟩
  let x : DomainError := .infrastructure "save payment: timed out after 5s"
  let s' := ((initiate c .standard).run cutOff.environment none cutOff.progress).2
  have houtcome : ((initiate c .standard).run cutOff.environment none cutOff.progress).1
      = .finished (.error x) := by decide +kernel
  have hrun : (initiate c .standard).run cutOff.environment none cutOff.progress
      = (.finished (.error x), s') := Prod.ext houtcome rfl
  refine ⟨x, s', hrun, ?_⟩
  obtain ⟨-, hstore, -⟩ := error_leaves_no_trace rfl rfl rfl rfl hrun
  rcases hstore (by decide +kernel) with
    ⟨hpayments, -⟩ | ⟨r, o, hkey, -, hid, -, hpayments, houtbox⟩
  · have hone : s'.store.memory.payments.length = 1 := by decide +kernel
    rw [hpayments] at hone
    cases hone
  · exact ⟨r, o, hkey, hid, hpayments, houtbox⟩

end PayOnce
