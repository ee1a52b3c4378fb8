import PayOnce.Proofs.Payment.Money
import PayOnce.Proofs.Payment.Receipt
import PayOnce.Proofs.Store.Consistency
import PayOnce.Proofs.Store.Session
/-!
A database that executes the statements of the store as they are written, on the same payments and
events as the store in memory. Where the tables are consistent and the payment that is saved fits
them, both stores give the same answers and keep the same data.
-/

namespace PayOnce

/-! ## Tables -/

/-- What the table of the outbox keeps of an event. -/
structure OutboxEntry where
  aggregateId : Uuid
  eventType : String
  payload : Json.Value
deriving Repr

/-- The entry that a row of the outbox is inserted as. -/
def OutboxRow.entry (r : OutboxRow) : OutboxEntry :=
  ⟨r.aggregateId, r.eventType, r.payload⟩

/-- A row with the columns that an update sets; the other columns stay as they are. -/
def PaymentRow.updated (old new : PaymentRow) : PaymentRow :=
  { old with
    status := new.status
    providerRef := new.providerRef
    failureReason := new.failureReason
    updatedAt := new.updatedAt
    version := new.version }

/-- The tables of a database. -/
structure Tables where
  payments : List PaymentRow := []
  outbox : List OutboxEntry := []
deriving Repr

namespace Tables

/-- The error of a row that is inserted under a key that another row holds. -/
def keyTaken : SqlError :=
  .refused "23505" "duplicate key value violates unique constraint"
    (some "payments_idempotency_key_unique")

/-- Inserts a row, or updates the row with the same id if its version is the one before. -/
def upsert (t : Tables) (r : PaymentRow) : SqlReply × Tables :=
  match t.payments.find? (·.id == r.id) with
  | none => match t.payments.find? (·.idempotencyKey == r.idempotencyKey) with
    | some _ => (.failed keyTaken, t)
    | none => (.affected 1, { t with payments := t.payments ++ [r] })
  | some old =>
    if old.version = r.version - 1 then
      (.affected 1,
        { t with payments := t.payments.map fun x => if x.id = r.id then x.updated r else x })
    else (.affected 0, t)

/-- Appends an event to the outbox. -/
def append (t : Tables) (r : OutboxRow) : SqlReply × Tables :=
  (.affected 1, { t with outbox := t.outbox ++ [r.entry] })

/-- The tables with several events appended to the outbox. -/
def appendAll (t : Tables) (rows : List OutboxRow) : Tables :=
  { t with outbox := t.outbox ++ rows.map OutboxRow.entry }

end Tables

/-! ## Transactions -/

/-- The transaction that a database has been asked to execute. -/
inductive Work
  | idle
  /-- The tables as the transaction has left them so far. -/
  | underway (tables : Tables)
  /-- A statement has failed; nothing but the end of the transaction is accepted. -/
  | aborted

/-- A database: the tables that are committed, and the transaction that is underway. -/
structure Database where
  tables : Tables := {}
  work : Work := .idle

/-- What becomes of a commit. Its answer may be lost, whether it takes effect or not; whoever waits
    for it is told so. -/
inductive Fate
  | acknowledged
  | lost (took : Bool) (message : String)

namespace Database

/-- The error of a statement in a transaction that has failed already. -/
def abortedError : SqlError :=
  .refused "25P02" "current transaction is aborted" none

/-- Executes a statement on the tables. What a transaction does stays its own. -/
def execute (db : Database) (f : Tables → SqlReply × Tables) : SqlReply × Database :=
  match db.work with
  | .idle => ((f db.tables).1, { db with tables := (f db.tables).2 })
  | .underway t => match f t with
    | (.failed e, _) => (.failed e, { db with work := .aborted })
    | (r, t) => (r, { db with work := .underway t })
  | .aborted => (.failed abortedError, db)

/-- Ends a transaction: its tables take the place of the committed ones, unless it has failed. -/
def settle (db : Database) : Database :=
  match db.work with
  | .underway t => { tables := t }
  | _ => { tables := db.tables }

/-- Replies to a statement, where commits have a fate. -/
def reply (fate : Fate) (db : Database) : Statement → SqlReply × Database
  | .begin => (.affected 0, { db with work := .underway db.tables })
  | .commit => match fate with
    | .acknowledged => (.affected 0, db.settle)
    | .lost true message => (.failed (.lost message), db.settle)
    | .lost false message => (.failed (.lost message), { tables := db.tables })
  | .rollback => (.affected 0, { tables := db.tables })
  | .upsert r => db.execute (·.upsert (.ofFacts r))
  | .insertOutbox r => db.execute (·.append r)
  | .selectByKey key => db.execute fun t => (.found (t.payments.find? (·.idempotencyKey == key)), t)
  | .selectById id => db.execute fun t => (.found (t.payments.find? (·.id == id)), t)
  | .probe => db.execute fun t => (.found none, t)

/-- Answers a call as the store does that sends its statements to the database. -/
def answer (fate : Fate) (db : Database) (c : StoreCall) : c.Reply × Database :=
  (SqlStore.handle c).run (reply fate) db

end Database

/-! ## What the store in memory would hold there -/

namespace MemoryStore

/-- The tables with the payments and the events of the store. -/
def tables (s : MemoryStore) : Tables where
  payments := s.payments.map .ofFacts
  outbox := s.outbox.map OutboxRow.entry

/-- The store with its writes subject to the fate of their commits. -/
def answer (fate : Fate) (s : MemoryStore) : (c : StoreCall) → c.Reply × MemoryStore
  | .save p => match fate, s.mayWrite p.facts with
    | .lost took message, .ok () =>
      ((.error (.infrastructure ("commit payment: " ++ message)), p),
        if took then s.written p else s.refused)
    | _, _ => s.handle (.save p)
  | c => s.handle c

theorem answer_acknowledged (s : MemoryStore) (c : StoreCall) :
    s.answer .acknowledged c = s.handle c := by
  cases c <;> rfl

/-- The money of every stored payment is in order. -/
def Priced (s : MemoryStore) : Prop :=
  ∀ r ∈ s.payments, r.amount.Valid

end MemoryStore

/-! ## Rows read back -/

/-- A payment is read back from its row, if its money is in order. -/
theorem PaymentRow.toPayment_ofFacts {r : PaymentFacts} (h : r.amount.Valid) :
    (PaymentRow.ofFacts r).toPayment = .ok (.ofFacts r) := by
  have hmoney : Money.make (PaymentRow.ofFacts r).amount (PaymentRow.ofFacts r).currency =
      .ok r.amount := h
  have hstatus : Status.ofName (PaymentRow.ofFacts r).status = .ok r.status := by
    simp [Status.ofName, PaymentRow.ofFacts, Status.ofName?_name]
  have hfacts : (PaymentRow.ofFacts r).toFacts = .ok r := by
    rw [toFacts, hmoney, hstatus]
    rfl
  rw [toPayment, hfacts]

/-- Where two records tell of one payment, an update sets everything that tells them apart. -/
theorem PaymentFacts.SameOrigin.updated {r old : PaymentFacts} (h : r.SameOrigin old) :
    (PaymentRow.ofFacts old).updated (.ofFacts r) = .ofFacts r := by
  simp only [PaymentRow.updated, PaymentRow.ofFacts, h.id, h.orderId, h.customerId, h.amount,
    h.key, h.createdAt]

/-! ## A save, statement by statement -/

namespace Database

variable (fate : Fate) (before t : Tables)

theorem run_insertOutbox (rows : List OutboxRow) :
    (SqlStore.insertOutbox rows).run (reply fate) ⟨before, .underway t⟩ =
      (.ok (), ⟨before, .underway (t.appendAll rows)⟩) := by
  induction rows generalizing t with
  | nil => simp [SqlStore.insertOutbox, Tables.appendAll]
  | cons r rows ih =>
    calc (SqlStore.insertOutbox (r :: rows)).run (reply fate) ⟨before, .underway t⟩
        = (SqlStore.insertOutbox rows).run (reply fate) ⟨before, .underway (t.append r).2⟩ := rfl
      _ = _ := by
        rw [ih]
        simp [Tables.append, Tables.appendAll]

/-- How a transaction ends whose writes have succeeded. -/
def commitWrites (p : Payment) :
    (Except DomainError (List OutboxRow) × Payment) × Database :=
  match fate with
  | .acknowledged => ((.ok p.rows, p.drained), { tables := t })
  | .lost took message =>
    ((.error (.infrastructure ("commit payment: " ++ message)), p),
      { tables := if took then t else before })

/-- What a save does to the database: the row decides, and the commit has the last word. -/
theorem run_save (p : Payment) :
    (SqlStore.save p).run (reply fate) { tables := before } =
      match before.upsert (.ofFacts p.facts) with
      | (.failed e, _) => ((.error (SqlStore.upsertError p.facts e), p), { tables := before })
      | (.affected 0, _) =>
        ((.error (.versionConflict p.facts.id p.facts.version), p), { tables := before })
      | (_, t) => commitWrites fate before (t.appendAll p.rows) p := by
  rw [SqlStore.save, p.outboxRows_eq]
  simp only [SqlStore.write, SqlStore.upsert, Session.execute, Session.run_bind,
    Session.run_query, Session.run_pure, reply, execute]
  -- Whatever row count other than zero is told, the transaction goes on.
  rcases before.upsert (.ofFacts p.facts) with ⟨(_ | n) | row | e, t⟩
  case affected.zero => rfl
  case failed => rfl
  all_goals
    simp only [Session.run_bind, Session.run_pure, Session.run_query, run_insertOutbox, reply]
    rcases fate with _ | ⟨_ | _, message⟩ <;> rfl

theorem answer_findByKey (key : String) :
    answer fate { tables := before } (.findByKey key) =
      (match before.payments.find? (·.idempotencyKey == key) with
        | none => .ok none
        | some row => row.toPayment.map some, { tables := before }) := by
  simp only [answer, SqlStore.handle, SqlStore.findByKey, SqlStore.selectRow, Session.run_bind,
    Session.run_query, Session.run_pure, reply, execute]
  cases before.payments.find? (·.idempotencyKey == key) <;> rfl

theorem answer_findById (id : Uuid) :
    answer fate { tables := before } (.findById id) =
      (match before.payments.find? (·.id == id) with
        | none => .error (.notFound id)
        | some row => row.toPayment, { tables := before }) := by
  simp only [answer, SqlStore.handle, SqlStore.findById, SqlStore.selectRow, Session.run_bind,
    Session.run_query, Session.run_pure, reply, execute]
  cases before.payments.find? (·.id == id) <;> rfl

end Database

namespace MemoryStore

theorem find?_tables_id (s : MemoryStore) (id : Uuid) :
    s.tables.payments.find? (·.id == id) = (s.findId? id).map .ofFacts :=
  List.find?_map ..

theorem find?_tables_key (s : MemoryStore) (key : String) :
    s.tables.payments.find? (·.idempotencyKey == key) = (s.findKey? key).map .ofFacts :=
  List.find?_map ..

/-- An update of the rows with an id is an update of the stored payment with that id. -/
theorem map_updated {r old : PaymentFacts} {rows : List PaymentFacts}
    (hids : (rows.map (·.id)).Nodup) (hfind : rows.find? (·.id == r.id) = some old)
    (horigin : r.SameOrigin old) :
    (rows.map PaymentRow.ofFacts).map
        (fun x => if x.id = r.id then x.updated (.ofFacts r) else x) =
      (putRow r rows).map .ofFacts := by
  induction rows with
  | nil => cases hfind
  | cons x rows ih =>
    rw [List.map_cons, List.nodup_cons] at hids
    rw [List.find?_cons] at hfind
    have hid : (PaymentRow.ofFacts x).id = x.id := rfl
    unfold putRow
    by_cases hx : x.id = r.id
    · -- No other row has the id.
      have hrest : ∀ y ∈ rows.map PaymentRow.ofFacts,
          (if y.id = r.id then y.updated (.ofFacts r) else y) = y := by
        intro y hy
        obtain ⟨z, hz, rfl⟩ := List.mem_map.1 hy
        refine if_neg fun heq => hids.1 (List.mem_map.2 ⟨z, hz, ?_⟩)
        exact Eq.trans heq hx.symm
      simp only [hx, beq_self_eq_true, Option.some.injEq] at hfind
      subst hfind
      rw [if_pos hx, List.map_cons, List.map_cons, List.map_cons, hid, if_pos hx,
        horigin.updated, List.map_congr_left hrest, List.map_id']
    · rw [beq_eq_false_iff_ne.2 hx] at hfind
      rw [if_neg hx, List.map_cons, List.map_cons, List.map_cons, hid, if_neg hx,
        ih hids.2 hfind]

/-- The row of a payment that fits is written into the tables exactly where the store would write
    it, and refused for the same reason. -/
theorem upsert_tables {s : MemoryStore} (hs : s.Consistent) {p : Payment} (hp : s.Fits p) :
    (s.mayWrite p.facts = .ok () ∧ s.tables.upsert (.ofFacts p.facts) =
        (.affected 1, { s.tables with payments := (putRow p.facts s.payments).map .ofFacts })) ∨
      (s.mayWrite p.facts = .error (.versionConflict p.facts.id p.facts.version) ∧
        s.tables.upsert (.ofFacts p.facts) = (.affected 0, s.tables)) ∨
      (s.mayWrite p.facts = .error (.duplicateKey p.facts.idempotencyKey) ∧
        s.tables.upsert (.ofFacts p.facts) = (.failed Tables.keyTaken, s.tables)) := by
  have hfind : s.tables.payments.find? (·.id == (PaymentRow.ofFacts p.facts).id) =
      (s.findId? p.facts.id).map .ofFacts := s.find?_tables_id _
  have hkey : s.tables.payments.find?
      (·.idempotencyKey == (PaymentRow.ofFacts p.facts).idempotencyKey) =
      (s.findKey? p.facts.idempotencyKey).map .ofFacts := s.find?_tables_key _
  unfold Tables.upsert
  rw [hfind, hkey]
  cases hstored : s.findId? p.facts.id with
  | none =>
    have hnew := putRow_eq_append (findId?_eq_none_iff.1 hstored)
    cases hother : s.findKey? p.facts.idempotencyKey with
    | none =>
      refine .inl ⟨mayWrite_eq_ok_iff.2 (.inr ⟨hstored, hother⟩), ?_⟩
      rw [hnew, List.map_append]
      rfl
    | some other =>
      refine .inr (.inr ⟨?_, rfl⟩)
      simp [mayWrite, hstored, hother]
  | some old =>
    by_cases hversion : p.facts.version = old.version + 1
    · have hmay := (mayWrite_stored_iff hstored).2 hversion
      refine .inl ⟨hmay, ?_⟩
      have horigin : p.facts.SameOrigin old := by
        rcases hp.write_cases hmay with ⟨hnone, -⟩ | ⟨r, hr, -, -, hfollows⟩
        · cases hstored.symm.trans hnone
        · cases hstored.symm.trans hr
          exact hfollows.origin
      have hfollows :
          (PaymentRow.ofFacts old).version = (PaymentRow.ofFacts p.facts).version - 1 := by
        change old.version = p.facts.version - 1
        omega
      simp only [Option.map_some, if_pos hfollows, ← map_updated hs.ids hstored horigin]
      rfl
    · refine .inr (.inl ⟨mayWrite_conflict hstored hversion, ?_⟩)
      have hstale :
          (PaymentRow.ofFacts old).version ≠ (PaymentRow.ofFacts p.facts).version - 1 := by
        change old.version ≠ p.facts.version - 1
        omega
      simp only [Option.map_some, if_neg hstale]

theorem tables_written (s : MemoryStore) (p : Payment) :
    (s.written p).tables =
      Tables.appendAll { s.tables with payments := (putRow p.facts s.payments).map .ofFacts }
        p.rows := by
  simp [written, tables, Tables.appendAll]

theorem answer_save_of_mayWrite {s : MemoryStore} {p : Payment} (fate : Fate)
    (hmay : s.mayWrite p.facts = .ok ()) (hworks : s.outboxFails = false) :
    s.answer fate (.save p) = match fate with
      | .acknowledged => ((.ok p.rows, p.drained), s.written p)
      | .lost took message =>
        ((.error (.infrastructure ("commit payment: " ++ message)), p),
          if took then s.written p else s.refused) := by
  cases fate with
  | acknowledged => rw [answer_acknowledged, handle, save_of_mayWrite hmay hworks]
  | lost took message => simp only [answer, hmay]

/-- A payment that may not be written never comes as far as its commit. -/
theorem answer_save_of_refusal {s : MemoryStore} {p : Payment} {e : DomainError} (fate : Fate)
    (hmay : s.mayWrite p.facts = .error e) :
    s.answer fate (.save p) = ((.error e, p), s.refused) := by
  have hanswer : s.answer fate (.save p) = s.handle (.save p) := by
    cases fate <;> simp only [answer, hmay]
  rw [hanswer, handle, save_of_refusal hmay]

/-- A save at the database ends as it would in memory, and leaves the same data. -/
theorem answer_save_tables (fate : Fate) {s : MemoryStore} (hs : s.Consistent)
    (hworks : s.outboxFails = false) {p : Payment} (hp : s.Fits p) :
    Database.answer fate { tables := s.tables } (.save p) =
      ((s.answer fate (.save p)).1, { tables := (s.answer fate (.save p)).2.tables }) := by
  have hrun : Database.answer fate { tables := s.tables } (.save p) = _ :=
    Database.run_save fate s.tables p
  rw [hrun]
  rcases upsert_tables hs hp with ⟨hmay, hupsert⟩ | ⟨hmay, hupsert⟩ | ⟨hmay, hupsert⟩
  · rw [answer_save_of_mayWrite fate hmay hworks]
    simp only [hupsert, ← tables_written]
    rcases fate with _ | ⟨_ | _, message⟩ <;> rfl
  · rw [answer_save_of_refusal fate hmay]
    simp only [hupsert]
    rfl
  · rw [answer_save_of_refusal fate hmay]
    simp only [hupsert]
    rfl

/-- The database gives the answers of the store in memory, and keeps holding the same data. -/
theorem answer_tables (fate : Fate) {s : MemoryStore} (hs : s.Consistent) (hpriced : s.Priced)
    (hworks : s.outboxFails = false) {c : StoreCall} (hfits : ∀ p, c = .save p → s.Fits p) :
    Database.answer fate { tables := s.tables } c =
      ((s.answer fate c).1, { tables := (s.answer fate c).2.tables }) := by
  cases c with
  | findByKey key =>
    rw [Database.answer_findByKey, find?_tables_key]
    cases hstored : s.findKey? key with
    | none => simp [answer, handle, findByKey, hstored, tables]
    | some r =>
      have hread := PaymentRow.toPayment_ofFacts (hpriced r (mem_of_findKey? hstored).1)
      simp [answer, handle, findByKey, hstored, hread, Except.map, tables]
  | findById id =>
    rw [Database.answer_findById, find?_tables_id]
    cases hstored : s.findId? id with
    | none => simp [answer, handle, findById, hstored, tables]
    | some r =>
      have hread := PaymentRow.toPayment_ofFacts (hpriced r (mem_of_findId? hstored).1)
      simp [answer, handle, findById, hstored, hread, tables]
  | save p => exact answer_save_tables fate hs hworks (hfits p rfl)
  | ping => rfl

end MemoryStore

end PayOnce
