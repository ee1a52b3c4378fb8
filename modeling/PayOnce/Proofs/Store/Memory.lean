import PayOnce.Proofs.Payment.Move
import PayOnce.Store.Memory
import Mathlib.Data.List.Nodup
/-!
What the payment store in memory keeps. A save either changes nothing or writes the payment and its
events together. Among payments in hand that come from a draft or from the store itself, a save that
is accepted appends exactly what happened since, so that the outbox tells the history of every
stored payment.
-/

namespace PayOnce

/-! ## Rows of the outbox -/

/-- The row that an event is written as. -/
def PaymentEvent.row (e : PaymentEvent) : OutboxRow where
  aggregateId := e.paymentId
  eventType := e.kind.name
  payload := e.toJson
  occurredAt := e.occurredAt

namespace Payment

/-- The rows that the buffered events are written as. -/
def rows (p : Payment) : List OutboxRow :=
  p.pending.map PaymentEvent.row

theorem outboxRows_eq (p : Payment) : p.outboxRows = .ok p.rows := by
  have h (es : List PaymentEvent) :
      es.mapM OutboxRow.ofEvent = .ok (es.map PaymentEvent.row) := by
    induction es with
    | nil => rfl
    | cons e es ih =>
      rw [List.mapM_cons, ih]
      rfl
  exact h p.pending

end Payment

theorem PaymentFacts.Told.paymentId {r : PaymentFacts} {es : List PaymentEvent} (h : r.Told es) :
    ∀ e ∈ es, e.paymentId = r.id := by
  obtain ⟨startedAt, rfl, -⟩ := h
  intro e he
  unfold history at he
  cases hstatus : r.status <;> simp only [hstatus, List.mem_cons, List.not_mem_nil, or_false] at he
  · subst he; rfl
  · rcases he with rfl | rfl <;> rfl
  · rcases he with rfl | rfl | rfl <;> rfl
  · rcases he with rfl | rfl | rfl <;> rfl

namespace MemoryStore

/-! ## Rows of payments -/

theorem find?_putRow (r : PaymentFacts) (rows : List PaymentFacts) (id : Uuid) :
    (putRow r rows).find? (·.id == id) = if r.id = id then some r else rows.find? (·.id == id) := by
  induction rows with
  | nil =>
    by_cases h : r.id = id <;> simp [putRow, h]
  | cons old rows ih =>
    unfold putRow
    by_cases hold : old.id = r.id
    · rw [if_pos hold, List.find?_cons, List.find?_cons, hold]
      by_cases h : r.id = id
      · simp [h]
      · simp [h, beq_eq_false_iff_ne.2 h]
    · rw [if_neg hold, List.find?_cons, List.find?_cons, ih]
      by_cases h : r.id = id
      · have hne : (old.id == id) = false := beq_eq_false_iff_ne.2 (h ▸ hold)
        simp [h, hne]
      · simp [h]

theorem putRow_eq_append {r : PaymentFacts} {rows : List PaymentFacts}
    (h : ∀ x ∈ rows, x.id ≠ r.id) : putRow r rows = rows ++ [r] := by
  induction rows with
  | nil => rfl
  | cons old rows ih =>
    rw [putRow, if_neg (h old List.mem_cons_self),
      ih fun x hx => h x (List.mem_cons_of_mem _ hx), List.cons_append]

/-- A row that takes the place of one that agrees in a column leaves the column as it is. -/
theorem map_putRow {β : Type} (f : PaymentFacts → β) {r old : PaymentFacts}
    {rows : List PaymentFacts} (hmem : rows.find? (·.id == r.id) = some old) (hf : f r = f old) :
    (putRow r rows).map f = rows.map f := by
  induction rows with
  | nil => cases hmem
  | cons x rows ih =>
    rw [List.find?_cons] at hmem
    unfold putRow
    by_cases hx : x.id = r.id
    · simp only [hx, beq_self_eq_true, Option.some.injEq] at hmem
      rw [if_pos hx, List.map_cons, List.map_cons, hf, hmem]
    · rw [beq_eq_false_iff_ne.2 hx] at hmem
      rw [if_neg hx, List.map_cons, List.map_cons, ih hmem]

theorem mem_putRow {r x : PaymentFacts} {rows : List PaymentFacts}
    (hids : (rows.map (·.id)).Nodup) :
    x ∈ putRow r rows ↔ x = r ∨ (x ∈ rows ∧ x.id ≠ r.id) := by
  induction rows with
  | nil => simp [putRow]
  | cons old rows ih =>
    rw [List.map_cons, List.nodup_cons] at hids
    unfold putRow
    by_cases hold : old.id = r.id
    · have hrest : ∀ y ∈ rows, y.id ≠ r.id := by
        intro y hy heq
        exact hids.1 (List.mem_map.2 ⟨y, hy, heq.trans hold.symm⟩)
      rw [if_pos hold]
      constructor
      · intro hx
        rcases List.mem_cons.1 hx with rfl | hx
        · exact .inl rfl
        · exact .inr ⟨List.mem_cons_of_mem _ hx, hrest x hx⟩
      · rintro (rfl | ⟨hx, hne⟩)
        · exact List.mem_cons_self
        · rcases List.mem_cons.1 hx with rfl | hx
          · exact absurd hold hne
          · exact List.mem_cons_of_mem _ hx
    · rw [if_neg hold, List.mem_cons, ih hids.2, List.mem_cons]
      constructor
      · rintro (rfl | rfl | ⟨hx, hne⟩)
        · exact .inr ⟨.inl rfl, hold⟩
        · exact .inl rfl
        · exact .inr ⟨.inr hx, hne⟩
      · rintro (rfl | ⟨rfl | hx, hne⟩)
        · exact .inr (.inl rfl)
        · exact .inl rfl
        · exact .inr (.inr ⟨hx, hne⟩)

/-! ## How a save ends -/

/-- The store after a save that was refused. -/
def refused (s : MemoryStore) : MemoryStore :=
  { s with saves := s.saves + 1 }

/-- The store after a save that was accepted. -/
def written (s : MemoryStore) (p : Payment) : MemoryStore :=
  { s with
    payments := putRow p.facts s.payments
    outbox := s.outbox ++ p.rows
    saves := s.saves + 1 }

/-- A payment may be written where it follows its stored version, or holds a new key. -/
theorem mayWrite_eq_ok_iff {s : MemoryStore} {r : PaymentFacts} :
    s.mayWrite r = .ok () ↔
      (∃ stored, s.findId? r.id = some stored ∧ r.version = stored.version + 1) ∨
        (s.findId? r.id = none ∧ s.findKey? r.idempotencyKey = none) := by
  unfold mayWrite
  cases hid : s.findId? r.id with
  | some stored =>
    have hiff : stored.version = r.version - 1 ↔ r.version = stored.version + 1 := by omega
    simp [hiff]
  | none =>
    cases hkey : s.findKey? r.idempotencyKey with
    | none => simp
    | some other => simp

/-- A payment is refused for its version, if it is stored, or else for its key. -/
theorem mayWrite_error {s : MemoryStore} {r : PaymentFacts} {e : DomainError}
    (h : s.mayWrite r = .error e) :
    ((s.findId? r.id).isSome ∧ e = .versionConflict r.id r.version) ∨
      ∃ other, s.findKey? r.idempotencyKey = some other ∧ e = .duplicateKey r.idempotencyKey := by
  unfold mayWrite at h
  cases hid : s.findId? r.id with
  | some stored =>
    simp only [hid] at h
    split at h
    · cases h
    · exact .inl ⟨rfl, (Except.error.inj h).symm⟩
  | none =>
    simp only [hid] at h
    cases hkey : s.findKey? r.idempotencyKey with
    | none => simp [hkey] at h
    | some other =>
      simp only [hkey, Option.isSome_some, if_true] at h
      exact .inr ⟨other, rfl, (Except.error.inj h).symm⟩

theorem mayWrite_stored_iff {s : MemoryStore} {r stored : PaymentFacts}
    (h : s.findId? r.id = some stored) :
    s.mayWrite r = .ok () ↔ r.version = stored.version + 1 := by
  rw [mayWrite_eq_ok_iff, h]
  simp

theorem commit_eq (s : MemoryStore) (p : Payment) :
    s.commit p = (s.mayWrite p.facts >>= fun _ =>
      if s.outboxFails ∧ p.pending ≠ [] then
        .error (.infrastructure "insert outbox event: simulated failure")
      else .ok p.rows) := by
  have hempty : (!p.rows.isEmpty) = true ↔ p.pending ≠ [] := by
    simp [Payment.rows]
  unfold commit
  rw [Payment.outboxRows_eq]
  simp only [bind, Except.bind, hempty]
  cases s.mayWrite p.facts with
  | error e => rfl
  | ok _ =>
    by_cases h : s.outboxFails ∧ p.pending ≠ []
    · simp only [if_pos h]; rfl
    · simp only [if_neg h]; rfl

/-- A save ends with what forbids it, with the failure of the outbox, or with everything written. -/
theorem save_eq (s : MemoryStore) (p : Payment) :
    s.save p = match s.mayWrite p.facts with
      | .error e => (.error e, p, s.refused)
      | .ok () =>
        if s.outboxFails ∧ p.pending ≠ [] then
          (.error (.infrastructure "insert outbox event: simulated failure"), p, s.refused)
        else (.ok p.rows, p.drained, s.written p) := by
  unfold save
  rw [commit_eq]
  cases s.mayWrite p.facts with
  | error e => rfl
  | ok _ =>
    by_cases h : s.outboxFails ∧ p.pending ≠ []
    · simp only [bind, Except.bind, if_pos h]
      rfl
    · simp only [bind, Except.bind, if_neg h]
      rfl

/-- The three ways in which a save ends. -/
theorem save_cases (s : MemoryStore) (p : Payment) :
    (s.mayWrite p.facts = .ok () ∧ ¬(s.outboxFails ∧ p.pending ≠ []) ∧
        s.save p = (.ok p.rows, p.drained, s.written p)) ∨
      (∃ e, s.mayWrite p.facts = .error e ∧ s.save p = (.error e, p, s.refused)) ∨
      (s.outboxFails = true ∧ s.save p =
        (.error (.infrastructure "insert outbox event: simulated failure"), p, s.refused)) := by
  rw [save_eq]
  cases hmay : s.mayWrite p.facts with
  | error e => exact .inr (.inl ⟨e, rfl, rfl⟩)
  | ok _ =>
    by_cases h : s.outboxFails ∧ p.pending ≠ []
    · exact .inr (.inr ⟨h.1, if_pos h⟩)
    · exact .inl ⟨rfl, h, if_neg h⟩

theorem save_of_mayWrite {s : MemoryStore} {p : Payment} (hmay : s.mayWrite p.facts = .ok ())
    (hworks : s.outboxFails = false) : s.save p = (.ok p.rows, p.drained, s.written p) := by
  rw [save_eq, hmay]
  simp [hworks]

theorem save_of_refusal {s : MemoryStore} {p : Payment} {e : DomainError}
    (hmay : s.mayWrite p.facts = .error e) : s.save p = (.error e, p, s.refused) := by
  rw [save_eq, hmay]

end MemoryStore

end PayOnce
