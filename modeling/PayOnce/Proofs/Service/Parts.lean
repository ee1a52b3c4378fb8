import PayOnce.Proofs.Cache.Memory
import PayOnce.Proofs.Store.Consistency
/-!
Parts of the store and the cache. The rows of one key, with what the outbox tells of their payments,
are a part of the store that calls under other keys leave alone, and that alone decides what becomes
of a call under its own key. So is the entry of the key in the cache. Which key an id belongs to is
told by its owner.
-/

namespace PayOnce

/-! ## Payments with an owner -/

/-- The id of a payment belongs to its key, and the events that it buffers are its own. -/
structure Payment.Owned (owner : Uuid → String) (p : Payment) : Prop where
  id : owner p.id = p.facts.idempotencyKey
  pending : ∀ e ∈ p.pending, e.paymentId = p.id

theorem Payment.owned_ofFacts {owner : Uuid → String} {r : PaymentFacts}
    (h : owner r.id = r.idempotencyKey) : (ofFacts r).Owned owner :=
  ⟨h, by simp [ofFacts]⟩

theorem Draft.owned_issue {owner : Uuid → String} {d : Draft} {id : Uuid}
    (h : owner id = d.idempotencyKey) (now : Instant) : (d.issue id now).Owned owner where
  id := h
  pending := by simp [issue, PaymentEvent.paymentId, Payment.id]

/-- A move leaves a payment its key, and tells of this payment only. -/
theorem Payment.Owned.move {owner : Uuid → String} {p q : Payment} (h : p.Owned owner) {m : Move}
    {now : Instant} (hmove : p.move m now = .ok q) :
    q.Owned owner ∧ q.facts.idempotencyKey = p.facts.idempotencyKey := by
  obtain ⟨-, rfl⟩ := move_inv hmove
  have horigin := PaymentFacts.sameOrigin_applyTo m p.facts now p.nextVersion
  have hid : (m.applyTo p.facts now p.nextVersion).id = p.id := horigin.id
  refine ⟨⟨?_, ?_⟩, horigin.key⟩
  · simpa only [Payment.id, horigin.id, horigin.key] using h.id
  · intro e he
    rcases List.mem_append.1 he with he | he
    · exact (h.pending e he).trans hid.symm
    · cases List.mem_singleton.1 he
      cases m <;> exact hid.symm

/-- A call on behalf of a key: a lookup of the key, or a save of a payment that holds it. -/
def StoreCall.Under (owner : Uuid → String) (key : String) : StoreCall → Prop
  | .findByKey key' => key' = key
  | .save p => p.facts.idempotencyKey = key ∧ p.Owned owner
  | .findById _ => False
  | .ping => False

/-- A call to the cache on behalf of a key. -/
def CacheCall.Under (key : String) : CacheCall → Prop
  | .get key' => key' = key
  | .set key' .. => key' = key
  | .evict key' => key' = key
  | .ping => False

theorem Payment.Owned.rows_owner {owner : Uuid → String} {p : Payment} (h : p.Owned owner) :
    ∀ row ∈ p.rows, owner row.aggregateId = p.facts.idempotencyKey := by
  intro row hrow
  obtain ⟨e, he, rfl⟩ := List.mem_map.1 hrow
  exact (congrArg owner (h.pending e he)).trans h.id

namespace MemoryStore

/-- Every stored payment has the id of its owner. -/
def Owned (owner : Uuid → String) (s : MemoryStore) : Prop :=
  ∀ r ∈ s.payments, owner r.id = r.idempotencyKey

/-- One store is the part of another one that concerns a key. -/
structure Part (owner : Uuid → String) (key : String) (s t : MemoryStore) : Prop where
  payments : t.payments = s.withKey key
  outbox : t.outbox = s.outbox.filter fun row => owner row.aggregateId == key
  outboxFails : t.outboxFails = s.outboxFails

variable {owner : Uuid → String} {key : String} {s t : MemoryStore} {p : Payment}

/-! ## Lookups -/

theorem Part.findKey? (h : s.Part owner key t) : t.findKey? key = s.findKey? key := by
  simp only [MemoryStore.findKey?, h.payments, withKey, List.find?_filter]
  congr 1
  funext r
  by_cases hr : r.idempotencyKey = key <;> simp [hr]

/-- An id is found in the part, if it is found nowhere or under the key. -/
theorem Part.findId? (h : s.Part owner key t) {id : Uuid}
    (hid : ∀ r, s.findId? id = some r → r.idempotencyKey = key) : t.findId? id = s.findId? id := by
  simp only [MemoryStore.findId?, h.payments, withKey, List.find?_filter]
  cases hfind : s.findId? id with
  | none =>
    have hnone := findId?_eq_none_iff.1 hfind
    simp only [MemoryStore.findId?] at hfind
    rw [hfind, List.find?_eq_none]
    intro r hr
    simp [hnone r hr]
  | some r =>
    have hkey := hid r hfind
    simp only [MemoryStore.findId?] at hfind
    rw [hfind]
    obtain ⟨hr, before, after, hrows, hbefore⟩ := List.find?_eq_some_iff_append.1 hfind
    refine List.find?_eq_some_iff_append.2 ⟨by simp [hkey, hr], before, after, hrows, ?_⟩
    intro x hx
    have hne : x.id ≠ id := by simpa using hbefore x hx
    simp [hne]

/-! ## Rows that are written -/

theorem mem_of_mem_putRow {r x : PaymentFacts} {rows : List PaymentFacts}
    (h : x ∈ putRow r rows) : x = r ∨ x ∈ rows := by
  induction rows with
  | nil => exact .inl (List.mem_singleton.1 h)
  | cons old rows ih =>
    unfold putRow at h
    split at h
    · exact (List.mem_cons.1 h).imp_right (List.mem_cons_of_mem _)
    · rcases List.mem_cons.1 h with rfl | h
      · exact .inr List.mem_cons_self
      · exact (ih h).imp_right (List.mem_cons_of_mem _)

/-- A row that is written is written into the part of its key. -/
theorem filter_putRow_self {r : PaymentFacts} {rows : List PaymentFacts}
    (h : ∀ x ∈ rows, x.id = r.id → x.idempotencyKey = r.idempotencyKey) :
    (putRow r rows).filter (·.idempotencyKey == r.idempotencyKey) =
      putRow r (rows.filter (·.idempotencyKey == r.idempotencyKey)) := by
  induction rows with
  | nil => simp [putRow]
  | cons old rows ih =>
    have hrows := ih fun x hx => h x (List.mem_cons_of_mem _ hx)
    by_cases hid : old.id = r.id
    · have hkey := h old List.mem_cons_self hid
      simp [putRow, hid, hkey]
    · by_cases hkey : old.idempotencyKey = r.idempotencyKey
      · simp [putRow, hid, hkey, hrows]
      · simp [putRow, hid, hkey, hrows]

/-- A row that is written is not written into the part of another key. -/
theorem filter_putRow_of_ne {r : PaymentFacts} (hne : r.idempotencyKey ≠ key)
    {rows : List PaymentFacts} (h : ∀ x ∈ rows, x.id = r.id → x.idempotencyKey = r.idempotencyKey) :
    (putRow r rows).filter (·.idempotencyKey == key) = rows.filter (·.idempotencyKey == key) := by
  induction rows with
  | nil => simp [putRow, hne]
  | cons old rows ih =>
    have hrows := ih fun x hx => h x (List.mem_cons_of_mem _ hx)
    by_cases hid : old.id = r.id
    · have hkey := h old List.mem_cons_self hid
      simp [putRow, hid, hkey, hne]
    · simp [putRow, hid, List.filter_cons, hrows]

/-- A stored payment with the id of an owned one holds its key. -/
theorem Owned.key_eq (hs : s.Owned owner) (hp : p.Owned owner) :
    ∀ x ∈ s.payments, x.id = p.facts.id → x.idempotencyKey = p.facts.idempotencyKey := by
  intro x hx hid
  rw [← hs x hx, hid]
  exact hp.id

theorem Part.mayWrite (h : s.Part owner key t) (hs : s.Owned owner) (hp : p.Owned owner)
    (hkey : p.facts.idempotencyKey = key) : t.mayWrite p.facts = s.mayWrite p.facts := by
  have hid : t.findId? p.facts.id = s.findId? p.facts.id := by
    refine h.findId? fun r hr => ?_
    obtain ⟨hmem, heq⟩ := mem_of_findId? hr
    rw [hs.key_eq hp r hmem heq, hkey]
  have hfind : t.findKey? p.facts.idempotencyKey = s.findKey? p.facts.idempotencyKey := by
    rw [hkey]
    exact h.findKey?
  unfold MemoryStore.mayWrite
  rw [hid, hfind]

theorem Owned.written (hs : s.Owned owner) (hp : p.Owned owner) : (s.written p).Owned owner := by
  intro r hr
  rcases mem_of_mem_putRow hr with rfl | hr
  · exact hp.id
  · exact hs r hr

theorem Owned.refused (hs : s.Owned owner) : s.refused.Owned owner :=
  hs

/-- A payment of the key is written into the part as it is written into the whole. -/
theorem Part.written (h : s.Part owner key t) (hs : s.Owned owner) (hp : p.Owned owner)
    (hkey : p.facts.idempotencyKey = key) : (s.written p).Part owner key (t.written p) where
  payments := by
    subst hkey
    simp only [MemoryStore.written, withKey, h.payments, filter_putRow_self (hs.key_eq hp)]
  outbox := by
    have hrows : p.rows.filter (fun row => owner row.aggregateId == key) = p.rows := by
      rw [List.filter_eq_self]
      intro row hrow
      simp [hp.rows_owner row hrow, hkey]
    simp only [MemoryStore.written, List.filter_append, h.outbox, hrows]
  outboxFails := h.outboxFails

/-- A payment of another key is written elsewhere. -/
theorem Part.written_elsewhere (h : s.Part owner key t) (hs : s.Owned owner) (hp : p.Owned owner)
    (hkey : p.facts.idempotencyKey ≠ key) : (s.written p).Part owner key t where
  payments := by
    simp only [MemoryStore.written, withKey, h.payments, filter_putRow_of_ne hkey (hs.key_eq hp)]
  outbox := by
    have hrows : p.rows.filter (fun row => owner row.aggregateId == key) = [] := by
      rw [List.filter_eq_nil_iff]
      intro row hrow
      simp [hp.rows_owner row hrow, hkey]
    simp only [MemoryStore.written, List.filter_append, h.outbox, hrows, List.append_nil]
  outboxFails := h.outboxFails

/-! ## Calls -/

/-- The numbers of calls are no part of what a key holds. -/
theorem Part.of_tables {s' t' : MemoryStore} (h : s.Part owner key t)
    (hs : s'.payments = s.payments ∧ s'.outbox = s.outbox ∧ s'.outboxFails = s.outboxFails)
    (ht : t'.payments = t.payments ∧ t'.outbox = t.outbox ∧ t'.outboxFails = t.outboxFails) :
    s'.Part owner key t' where
  payments := by simp only [ht.1, h.payments, withKey, hs.1]
  outbox := by simp only [ht.2.1, h.outbox, hs.2.1]
  outboxFails := by simp only [ht.2.2, h.outboxFails, hs.2.2]

theorem Owned.handle (hs : s.Owned owner) {c : StoreCall} (hc : c.Under owner key) :
    (s.handle c).2.Owned owner := by
  cases c with
  | findByKey key' => exact hs
  | save p =>
    rcases s.save_cases p with ⟨-, -, hsave⟩ | ⟨e, -, hsave⟩ | ⟨-, hsave⟩
    · simpa only [MemoryStore.handle, hsave] using hs.written hc.2
    · simpa only [MemoryStore.handle, hsave] using hs.refused
    · simpa only [MemoryStore.handle, hsave] using hs.refused
  | findById id => exact hc.elim
  | ping => exact hc.elim

/-- A save gives the payment back with the same facts, and with no events of others. -/
theorem owned_save (s : MemoryStore) (hp : p.Owned owner) :
    (s.save p).2.1.Owned owner ∧ (s.save p).2.1.facts = p.facts := by
  rcases s.save_cases p with ⟨-, -, hsave⟩ | ⟨e, -, hsave⟩ | ⟨-, hsave⟩
  · rw [hsave]
    exact ⟨⟨hp.id, by simp [Payment.drained]⟩, rfl⟩
  · rw [hsave]
    exact ⟨hp, rfl⟩
  · rw [hsave]
    exact ⟨hp, rfl⟩

/-- The part answers a save under its key as the whole does. -/
theorem Part.save (h : s.Part owner key t) (hs : s.Owned owner) (hp : p.Owned owner)
    (hkey : p.facts.idempotencyKey = key) :
    (t.save p).1 = (s.save p).1 ∧ (t.save p).2.1 = (s.save p).2.1 ∧
      (s.save p).2.2.Part owner key (t.save p).2.2 := by
  have hcommit : t.commit p = s.commit p := by
    rw [commit_eq, commit_eq, h.mayWrite hs hp hkey, h.outboxFails]
  simp only [MemoryStore.save, hcommit]
  cases hrows : s.commit p with
  | error e => exact ⟨rfl, rfl, h.of_tables ⟨rfl, rfl, rfl⟩ ⟨rfl, rfl, rfl⟩⟩
  | ok rows =>
    obtain rfl : rows = p.rows := by
      rw [commit_eq] at hrows
      obtain ⟨_, -, hrows⟩ := bind_eq_ok_iff.1 hrows
      split at hrows
      · cases hrows
      · exact (Except.ok.inj hrows).symm
    exact ⟨rfl, rfl, h.written hs hp hkey⟩

/-- The part answers a call under its key as the whole does, and stays the part. -/
theorem Part.handle (h : s.Part owner key t) (hs : s.Owned owner) {c : StoreCall}
    (hc : c.Under owner key) :
    (t.handle c).1 = (s.handle c).1 ∧ (s.handle c).2.Part owner key (t.handle c).2 := by
  cases c with
  | findByKey key' =>
    obtain rfl : key' = key := hc
    refine ⟨?_, h.of_tables ⟨rfl, rfl, rfl⟩ ⟨rfl, rfl, rfl⟩⟩
    simp only [MemoryStore.handle, MemoryStore.findByKey, h.findKey?]
  | save p =>
    obtain ⟨hrows, hdrained, hpart⟩ := h.save hs hc.2 hc.1
    exact ⟨Prod.ext hrows hdrained, hpart⟩
  | findById id => exact hc.elim
  | ping => exact hc.elim

/-- A call under another key leaves the part alone. -/
theorem Part.handle_elsewhere (h : s.Part owner key t) (hs : s.Owned owner) {key' : String}
    (hkey : key' ≠ key) {c : StoreCall} (hc : c.Under owner key') :
    (s.handle c).2.Part owner key t := by
  cases c with
  | findByKey key'' => exact h.of_tables ⟨rfl, rfl, rfl⟩ ⟨rfl, rfl, rfl⟩
  | save p =>
    obtain ⟨rfl, hp⟩ : p.facts.idempotencyKey = key' ∧ p.Owned owner := hc
    have hwritten := h.written_elsewhere hs hp hkey
    have hrefused : s.refused.Part owner key t := h.of_tables ⟨rfl, rfl, rfl⟩ ⟨rfl, rfl, rfl⟩
    rcases s.save_cases p with ⟨-, -, hsave⟩ | ⟨e, -, hsave⟩ | ⟨-, hsave⟩
    · simpa only [MemoryStore.handle, hsave] using hwritten
    · simpa only [MemoryStore.handle, hsave] using hrefused
    · simpa only [MemoryStore.handle, hsave] using hrefused
  | findById id => exact hc.elim
  | ping => exact hc.elim

end MemoryStore

namespace MemoryCache

variable {key : String} {c c' : MemoryCache}

/-- What a key has at an instant is told by its entry. -/
theorem peek_congr (h : c'.find? key = c.find? key) (now : Instant) :
    c'.peek now key = c.peek now key := by
  unfold peek
  rw [h]

/-- A call under a key depends on the entry of the key only, and so does the entry afterwards. -/
theorem handle_congr (h : c'.find? key = c.find? key) (now : Instant) {call : CacheCall}
    (hcall : call.Under key) :
    (c'.handle now call).1 = (c.handle now call).1 ∧
      (c'.handle now call).2.find? key = (c.handle now call).2.find? key := by
  cases call with
  | get key' =>
    obtain rfl : key' = key := hcall
    have h' : c'.counted.find? key' = c.counted.find? key' := h
    simp only [handle, get, h']
    cases c.counted.find? key' with
    | none => exact ⟨rfl, h⟩
    | some e =>
      simp only
      split
      · exact ⟨rfl, h⟩
      · refine ⟨rfl, ?_⟩
        rw [find?_without_self, find?_without_self]
  | set key' value ttl =>
    obtain rfl : key' = key := hcall
    have h' : c'.counted.find? key' = c.counted.find? key' := h
    simp only [handle, set, peek_congr h']
    split
    · exact ⟨rfl, h⟩
    · split
      · exact ⟨rfl, h⟩
      · refine ⟨rfl, ?_⟩
        rw [find?_put_self, find?_put_self]
  | evict key' =>
    obtain rfl : key' = key := hcall
    refine ⟨rfl, ?_⟩
    simp only [handle, evict]
    rw [find?_without_self, find?_without_self]
  | ping => exact hcall.elim

/-- A call under another key leaves the entry of a key alone. -/
theorem find?_handle_elsewhere (c : MemoryCache) (now : Instant) {key' : String} (h : key' ≠ key)
    {call : CacheCall} (hcall : call.Under key') :
    (c.handle now call).2.find? key = c.find? key := by
  cases call with
  | get key'' =>
    obtain rfl : key'' = key' := hcall
    rcases c.counted.get_cases now key'' with ⟨-, hget⟩ | ⟨e, -, -, hget⟩ | ⟨e, -, -, hget⟩
    · simp only [handle, hget]
      rfl
    · simp only [handle, hget]
      exact c.counted.find?_without_of_ne h
    · simp only [handle, hget]
      rfl
  | set key'' value ttl =>
    obtain rfl : key'' = key' := hcall
    simp only [handle, set]
    split
    · rfl
    · split
      · rfl
      · exact c.counted.find?_put_of_ne h _
  | evict key'' =>
    obtain rfl : key'' = key' := hcall
    exact c.counted.find?_without_of_ne h
  | ping => exact hcall.elim

end MemoryCache

end PayOnce
