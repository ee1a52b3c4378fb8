import PayOnce.Proofs.Store.Memory
/-!
Consistency of the store with its outbox and with the payments in hand. Every payment in hand either
builds upon the present record of its payment, and then its buffer holds exactly what happened
since, or it builds upon an older version, and then it can never be written again.
-/

namespace PayOnce.MemoryStore

/-! ## Stored payments -/

/-- The store holds a payment under a key and an id. -/
def Holds (s : MemoryStore) (key : String) (id : Uuid) : Prop :=
  ∃ r ∈ s.payments, r.idempotencyKey = key ∧ r.id = id

/-- Whatever one store holds, another one holds too. -/
def Extends (s t : MemoryStore) : Prop :=
  ∀ key id, s.Holds key id → t.Holds key id

theorem Extends.refl (s : MemoryStore) : s.Extends s :=
  fun _ _ h => h

theorem Extends.trans {s t u : MemoryStore} (h : s.Extends t) (h' : t.Extends u) : s.Extends u :=
  fun key id hs => h' key id (h key id hs)

theorem findId?_congr {s t : MemoryStore} (h : t.payments = s.payments) (id : Uuid) :
    t.findId? id = s.findId? id := by
  unfold findId?
  rw [h]

theorem mem_of_findId? {s : MemoryStore} {id : Uuid} {r : PaymentFacts}
    (h : s.findId? id = some r) : r ∈ s.payments ∧ r.id = id := by
  refine ⟨List.mem_of_find?_eq_some h, ?_⟩
  simpa using List.find?_some h

theorem findId?_eq_none_iff {s : MemoryStore} {id : Uuid} :
    s.findId? id = none ↔ ∀ r ∈ s.payments, r.id ≠ id := by
  simp [findId?]

theorem mem_of_findKey? {s : MemoryStore} {key : String} {r : PaymentFacts}
    (h : s.findKey? key = some r) : r ∈ s.payments ∧ r.idempotencyKey = key := by
  refine ⟨List.mem_of_find?_eq_some h, ?_⟩
  simpa using List.find?_some h

theorem Extends.of_payments {s t : MemoryStore} (h : t.payments = s.payments) : s.Extends t := by
  intro key id hs
  unfold Holds at hs ⊢
  rw [h]
  exact hs

/-- A payment that does not follow its stored version conflicts with it. -/
theorem mayWrite_conflict {s : MemoryStore} {r stored : PaymentFacts}
    (h : s.findId? r.id = some stored) (hversion : r.version ≠ stored.version + 1) :
    s.mayWrite r = .error (.versionConflict r.id r.version) := by
  unfold mayWrite
  rw [h]
  exact if_neg (by omega)

theorem findKey?_eq_none_iff {s : MemoryStore} {key : String} :
    s.findKey? key = none ↔ ∀ r ∈ s.payments, r.idempotencyKey ≠ key := by
  simp [findKey?]

/-- A lookup by key finds nothing only where no payment holds the key. -/
theorem not_holds_of_findKey? {s : MemoryStore} {key : String} (h : s.findKey? key = none)
    (id : Uuid) : ¬ s.Holds key id := by
  rintro ⟨r, hr, hkey, -⟩
  exact findKey?_eq_none_iff.1 h r hr hkey

/-- An id is stored if some key is held under it. -/
theorem findId?_ne_none_iff {s : MemoryStore} {id : Uuid} :
    s.findId? id ≠ none ↔ ∃ key, s.Holds key id := by
  constructor
  · intro h
    cases hfind : s.findId? id with
    | none => exact absurd hfind h
    | some r =>
      obtain ⟨hr, hid⟩ := mem_of_findId? hfind
      exact ⟨r.idempotencyKey, r, hr, rfl, hid⟩
  · rintro ⟨key, r, hr, -, hid⟩ h
    exact findId?_eq_none_iff.1 h r hr hid

theorem Extends.findId?_ne_none {s t : MemoryStore} (h : s.Extends t) {id : Uuid}
    (hid : s.findId? id ≠ none) : t.findId? id ≠ none := by
  obtain ⟨key, hkey⟩ := findId?_ne_none_iff.1 hid
  exact findId?_ne_none_iff.2 ⟨key, h key id hkey⟩

/-- Whoever is refused for a key is told of a key that is held. -/
theorem holds_of_duplicateKey {s : MemoryStore} {p : Payment} {key : String}
    (h : (s.save p).1 = .error (.duplicateKey key)) : ∃ id, s.Holds key id := by
  rcases s.save_cases p with ⟨-, -, hsave⟩ | ⟨e, hrefused, hsave⟩ | ⟨-, hsave⟩
  · rw [hsave] at h
    cases h
  · rw [hsave] at h
    cases h
    rcases mayWrite_error hrefused with ⟨-, heq⟩ | ⟨other, hother, heq⟩
    · cases heq
    · cases heq
      obtain ⟨hmem, hkey⟩ := mem_of_findKey? hother
      exact ⟨other.id, other, hmem, hkey, rfl⟩
  · rw [hsave] at h
    cases h

/-- A lookup finds a payment under every key that is held. -/
theorem Holds.findByKey {s : MemoryStore} {key : String} {id : Uuid} (h : s.Holds key id) :
    ∃ p, (s.findByKey key).1 = some p := by
  cases hfind : s.findKey? key with
  | none => exact absurd h (not_holds_of_findKey? hfind id)
  | some r => exact ⟨.ofFacts r, congrArg (Option.map Payment.ofFacts) hfind⟩

theorem findId?_written (s : MemoryStore) (p : Payment) (id : Uuid) :
    (s.written p).findId? id = if p.id = id then some p.facts else s.findId? id :=
  find?_putRow p.facts s.payments id

/-! ## Consistency -/

/-- The tables of the store agree: ids and keys are unique, and the outbox tells of every stored
    payment its history, and of nothing else. -/
structure Consistent (s : MemoryStore) : Prop where
  ids : (s.payments.map (·.id)).Nodup
  keys : (s.payments.map (·.idempotencyKey)).Nodup
  versions : ∀ r ∈ s.payments, 1 ≤ r.version
  told : ∀ r ∈ s.payments, ∃ es, r.Told es ∧
    s.outbox.filter (·.aggregateId == r.id) = es.map PaymentEvent.row
  rows : ∀ o ∈ s.outbox, ∃ r ∈ s.payments, r.id = o.aggregateId

/-- A payment in hand has come from a draft or from the store: it has followed from its draft if it
    is not stored, else it has followed from the stored record, unless that record has moved on. -/
def Fits (s : MemoryStore) (p : Payment) : Prop :=
  match s.findId? p.id with
  | none => ∃ d id now, Payment.Follows (Draft.issue d id now) p ∧ p.ahead = true
  | some r =>
    p.base < r.version ∨ Payment.Follows (.ofFacts r) p ∧ (p.ahead = false → p = .ofFacts r)

/-- Consistency is a matter of the tables alone. -/
theorem Consistent.of_tables {s t : MemoryStore} (h : s.Consistent)
    (hpayments : t.payments = s.payments) (houtbox : t.outbox = s.outbox) : t.Consistent := by
  refine ⟨?_, ?_, ?_, ?_, ?_⟩ <;> rw [hpayments]
  · exact h.ids
  · exact h.keys
  · exact h.versions
  · rw [houtbox]
    exact h.told
  · rw [houtbox]
    exact h.rows

theorem Fits.of_payments {s t : MemoryStore} {p : Payment} (h : s.Fits p)
    (hpayments : t.payments = s.payments) : t.Fits p := by
  unfold Fits findId? at h ⊢
  rw [hpayments]
  exact h

theorem consistent_empty : Consistent {} :=
  ⟨.nil, .nil, by simp, by simp, by simp⟩

theorem Consistent.findId?_of_mem {s : MemoryStore} (h : s.Consistent) {r : PaymentFacts}
    (hr : r ∈ s.payments) : s.findId? r.id = some r := by
  cases hfind : s.findId? r.id with
  | none => exact absurd rfl (findId?_eq_none_iff.1 hfind r hr)
  | some r' =>
    obtain ⟨hr', hid⟩ := mem_of_findId? hfind
    rw [List.inj_on_of_nodup_map h.ids hr' hr hid]

/-- A key is held by one payment only. -/
theorem Consistent.holds_unique {s : MemoryStore} (h : s.Consistent) {key : String} {id id' : Uuid}
    (hid : s.Holds key id) (hid' : s.Holds key id') : id = id' := by
  obtain ⟨r, hr, hkey, rfl⟩ := hid
  obtain ⟨r', hr', hkey', rfl⟩ := hid'
  rw [List.inj_on_of_nodup_map h.keys hr hr' (hkey.trans hkey'.symm)]

theorem fits_ofFacts {s : MemoryStore} {r : PaymentFacts} (h : s.findId? r.id = some r) :
    s.Fits (.ofFacts r) := by
  have hid : s.findId? (Payment.ofFacts r).id = some r := h
  unfold Fits
  rw [hid]
  exact .inr ⟨.refl _, fun _ => rfl⟩

theorem fits_issue {s : MemoryStore} (h : s.Consistent) (d : Draft) (id : Uuid) (now : Instant) :
    s.Fits (d.issue id now) := by
  unfold Fits
  cases hfind : s.findId? (d.issue id now).id with
  | none => exact ⟨d, id, now, .refl _, rfl⟩
  | some r =>
    have hversion := h.versions r (mem_of_findId? hfind).1
    left
    simp only [Payment.base_issue]
    omega

theorem Fits.move {s : MemoryStore} {p q : Payment} (h : s.Fits p) {m : Move} {now : Instant}
    (hmove : p.move m now = .ok q) : s.Fits q := by
  have hfollows := Payment.follows_move hmove
  have hid : q.id = p.id := hfollows.origin.id
  have hahead : q.ahead = true := by
    obtain ⟨-, rfl⟩ := Payment.move_inv hmove
    rfl
  unfold Fits at h ⊢
  rw [hid]
  cases hfind : s.findId? p.id with
  | none =>
    simp only [hfind] at h ⊢
    obtain ⟨d, id, at_, hp, -⟩ := h
    exact ⟨d, id, at_, hp.trans hfollows, hahead⟩
  | some r =>
    simp only [hfind] at h ⊢
    -- A payment that has come too late stays so.
    rcases h with hold | ⟨hp, -⟩
    · left
      rw [hfollows.base]
      exact hold
    · right
      refine ⟨hp.trans hfollows, ?_⟩
      intro hfalse
      rw [hahead] at hfalse
      cases hfalse

/-! ## What may be written -/

/-- A payment that fits and may be written is either new, or follows the stored record. -/
theorem Fits.write_cases {s : MemoryStore} {p : Payment} (h : s.Fits p)
    (hmay : s.mayWrite p.facts = .ok ()) :
    (s.findId? p.id = none ∧ s.findKey? p.facts.idempotencyKey = none ∧ p.facts.version = 1 ∧
        p.facts.Told p.pending) ∨
      ∃ r, s.findId? p.id = some r ∧ p.facts.version = r.version + 1 ∧ p.ahead = true ∧
        Payment.Follows (.ofFacts r) p := by
  rcases mayWrite_eq_ok_iff.1 hmay with ⟨r, hfind, hversion⟩ | ⟨hfind, hkey⟩
  · right
    change s.findId? p.id = some r at hfind
    unfold Fits at h
    simp only [hfind] at h
    -- An older base, or no change at all, would contradict the version that may be written.
    rcases h with hold | ⟨hfollows, hclean⟩
    · unfold Payment.base at hold
      split at hold <;> omega
    · refine ⟨r, hfind, hversion, ?_, hfollows⟩
      by_contra hahead
      have hp := hclean (by simpa using hahead)
      rw [hp] at hversion
      simp only [Payment.ofFacts] at hversion
      omega
  · left
    change s.findId? p.id = none at hfind
    unfold Fits at h
    simp only [hfind] at h
    obtain ⟨d, id, now, hfollows, hahead⟩ := h
    obtain ⟨es, hes, htold⟩ := hfollows.told
    have hbase := hfollows.base
    simp only [Payment.base, hahead, if_true] at hbase
    have hbase' : p.facts.version - 1 = 0 := hbase
    refine ⟨hfind, hkey, by omega, ?_⟩
    rw [hes]
    exact htold _ (PaymentFacts.told_issue d id now)

/-- A save that is accepted overtakes every payment in hand that builds upon the record before it,
    the saved one included. -/
theorem Fits.base_lt {s : MemoryStore} {p q : Payment} (hq : s.Fits q) (hp : s.Fits p)
    (hmay : s.mayWrite p.facts = .ok ()) (hid : q.id = p.id) : q.base < p.facts.version := by
  unfold Fits at hq
  rw [hid] at hq
  -- A payment that is not stored builds upon version zero, any other one at most upon the record
  -- that is overwritten.
  rcases hp.write_cases hmay with ⟨hfind, -, hversion, -⟩ | ⟨r, hfind, hversion, -, -⟩
  · simp only [hfind] at hq
    obtain ⟨d, id, now, hfollows, -⟩ := hq
    rw [hfollows.base, Payment.base_issue]
    omega
  · simp only [hfind] at hq
    rcases hq with hold | ⟨hfollows, -⟩
    · omega
    · rw [hfollows.base, Payment.base_ofFacts]
      omega

theorem Fits.written {s : MemoryStore} {p q : Payment} (hq : s.Fits q) (hp : s.Fits p)
    (hmay : s.mayWrite p.facts = .ok ()) : (s.written p).Fits q := by
  unfold Fits
  rw [findId?_written]
  by_cases hid : q.id = p.id
  · rw [if_pos hid.symm]
    exact .inl (hq.base_lt hp hmay hid)
  · rw [if_neg (Ne.symm hid)]
    exact hq

/-- The saved payment itself goes on from the record that was written. -/
theorem fits_drained (s : MemoryStore) (p : Payment) : (s.written p).Fits p.drained := by
  refine fits_ofFacts ?_
  rw [findId?_written]
  exact if_pos rfl

/-! ## Saves keep the store consistent -/

/-- The outbox tells nothing of a payment that is not stored. -/
theorem Consistent.filter_outbox_of_none {s : MemoryStore} (hs : s.Consistent) {id : Uuid}
    (hnone : s.findId? id = none) : s.outbox.filter (·.aggregateId == id) = [] := by
  rw [List.filter_eq_nil_iff]
  intro o ho heq
  obtain ⟨r, hr, hid⟩ := hs.rows o ho
  exact findId?_eq_none_iff.1 hnone r hr (hid.trans (beq_iff_eq.1 heq))

/-- What the outbox tells of a payment goes on with the events that are written. -/
theorem Fits.told {s : MemoryStore} (hs : s.Consistent) {p : Payment} (hp : s.Fits p)
    (hmay : s.mayWrite p.facts = .ok ()) :
    ∃ ds, p.facts.Told (ds ++ p.pending) ∧
      s.outbox.filter (·.aggregateId == p.id) = ds.map PaymentEvent.row := by
  rcases hp.write_cases hmay with ⟨hnone, -, -, htold⟩ | ⟨r, hfind, -, -, hfollows⟩
  · exact ⟨[], htold, hs.filter_outbox_of_none hnone⟩
  · obtain ⟨hr, hid⟩ := mem_of_findId? hfind
    obtain ⟨ds, hds, hrows⟩ := hs.told r hr
    obtain ⟨es, hes, htold⟩ := hfollows.told
    rw [hid] at hrows
    refine ⟨ds, ?_, hrows⟩
    rw [hes]
    exact htold ds hds

/-- The rows of a payment that may be written are its own. -/
theorem Fits.aggregateId_rows {s : MemoryStore} (hs : s.Consistent) {p : Payment} (hp : s.Fits p)
    (hmay : s.mayWrite p.facts = .ok ()) : ∀ o ∈ p.rows, o.aggregateId = p.id := by
  obtain ⟨ds, htold, -⟩ := hp.told hs hmay
  intro o ho
  obtain ⟨e, he, rfl⟩ := List.mem_map.1 ho
  exact htold.paymentId e (List.mem_append_right _ he)

/-- What the outbox tells of other payments stays as it is. -/
theorem Fits.filter_outbox_written {s : MemoryStore} (hs : s.Consistent) {p : Payment}
    (hp : s.Fits p) (hmay : s.mayWrite p.facts = .ok ()) {id : Uuid} (hne : p.id ≠ id) :
    (s.written p).outbox.filter (·.aggregateId == id) =
      s.outbox.filter (·.aggregateId == id) := by
  have hnone : p.rows.filter (·.aggregateId == id) = [] := by
    rw [List.filter_eq_nil_iff]
    intro o ho heq
    exact hne ((hp.aggregateId_rows hs hmay o ho).symm.trans (beq_iff_eq.1 heq))
  have houtbox : (s.written p).outbox = s.outbox ++ p.rows := rfl
  rw [houtbox, List.filter_append, hnone, List.append_nil]

theorem Fits.column_written {s : MemoryStore} {p : Payment} (hp : s.Fits p)
    (hmay : s.mayWrite p.facts = .ok ()) {β : Type} (f : PaymentFacts → β)
    (hf : ∀ r : PaymentFacts, p.facts.SameOrigin r → f p.facts = f r) :
    (s.written p).payments.map f = s.payments.map f ∨
      (∀ r ∈ s.payments, r.id ≠ p.id ∧ r.idempotencyKey ≠ p.facts.idempotencyKey) ∧
        (s.written p).payments.map f = s.payments.map f ++ [f p.facts] := by
  rcases hp.write_cases hmay with ⟨hnone, hkey, -, -⟩ | ⟨r, hfind, -, -, hfollows⟩
  · right
    have hids := findId?_eq_none_iff.1 hnone
    refine ⟨fun r hr => ⟨hids r hr, findKey?_eq_none_iff.1 hkey r hr⟩, ?_⟩
    have hpayments : (s.written p).payments = s.payments ++ [p.facts] := putRow_eq_append hids
    rw [hpayments, List.map_append, List.map_singleton]
  · left
    exact map_putRow f hfind (hf r hfollows.origin)

theorem Consistent.written {s : MemoryStore} (hs : s.Consistent) {p : Payment} (hp : s.Fits p)
    (hmay : s.mayWrite p.facts = .ok ()) : (s.written p).Consistent := by
  obtain ⟨ds, htold, hds⟩ := hp.told hs hmay
  have hmem (x : PaymentFacts) :
      x ∈ (s.written p).payments ↔ x = p.facts ∨ (x ∈ s.payments ∧ x.id ≠ p.id) :=
    mem_putRow hs.ids
  have hrows := hp.aggregateId_rows hs hmay
  refine ⟨?_, ?_, ?_, ?_, ?_⟩
  -- The columns of ids and keys stay as they are, or gain a value that is not there yet.
  · rcases hp.column_written hmay (·.id) (fun r h => h.id) with hcol | ⟨hnew, hcol⟩
    · exact hcol ▸ hs.ids
    · rw [hcol, List.nodup_append]
      refine ⟨hs.ids, List.nodup_singleton _, ?_⟩
      rintro _ hid _ hid' rfl
      obtain ⟨r, hr, hrid⟩ := List.mem_map.1 hid
      exact (hnew r hr).1 (hrid.trans (List.mem_singleton.1 hid'))
  · rcases hp.column_written hmay (·.idempotencyKey) (fun r h => h.key) with hcol | ⟨hnew, hcol⟩
    · exact hcol ▸ hs.keys
    · rw [hcol, List.nodup_append]
      refine ⟨hs.keys, List.nodup_singleton _, ?_⟩
      rintro _ hkey _ hkey' rfl
      obtain ⟨r, hr, hrkey⟩ := List.mem_map.1 hkey
      exact (hnew r hr).2 (hrkey.trans (List.mem_singleton.1 hkey'))
  · intro x hx
    rcases (hmem x).1 hx with rfl | ⟨hx, -⟩
    · rcases hp.write_cases hmay with ⟨-, -, hversion, -⟩ | ⟨r, hfind, hversion, -, -⟩
      · omega
      · have := hs.versions r (mem_of_findId? hfind).1
        omega
    · exact hs.versions x hx
  -- The rows that are appended belong to the written payment, and to no other one.
  · intro x hx
    rcases (hmem x).1 hx with rfl | ⟨hx, hne⟩
    · refine ⟨ds ++ p.pending, htold, ?_⟩
      have houtbox : (s.written p).outbox = s.outbox ++ p.rows := rfl
      have hall : p.rows.filter (·.aggregateId == p.facts.id) = p.rows := by
        rw [List.filter_eq_self]
        intro o ho
        exact beq_iff_eq.2 (hrows o ho)
      rw [houtbox, List.filter_append, hall, List.map_append]
      exact congrArg (· ++ p.rows) hds
    · obtain ⟨es, hes, hfilter⟩ := hs.told x hx
      exact ⟨es, hes, (hp.filter_outbox_written hs hmay (Ne.symm hne)).trans hfilter⟩
  · intro o ho
    rcases List.mem_append.1 ho with ho | ho
    · obtain ⟨r, hr, hid⟩ := hs.rows o ho
      by_cases heq : r.id = p.id
      · exact ⟨p.facts, (hmem _).2 (.inl rfl), heq.symm.trans hid⟩
      · exact ⟨r, (hmem r).2 (.inr ⟨hr, heq⟩), hid⟩
    · exact ⟨p.facts, (hmem _).2 (.inl rfl), (hrows o ho).symm⟩

end PayOnce.MemoryStore
