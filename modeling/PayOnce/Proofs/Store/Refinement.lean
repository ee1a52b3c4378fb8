import PayOnce.Proofs.Store.Database
import PayOnce.Proofs.Store.Desk
/-!
The store in a database refines the store in memory. Holders of payments run errands over a store,
and hear what comes of each. Payments in hand come from a draft or from the store, so that a stored
row and the row that overwrites it differ only in the columns that an update sets.
-/

namespace PayOnce

/-! ## Errands -/

/-- What a holder of payments may ask for. -/
inductive Errand
  | create (orderId customerId : String) (amount : Int) (currency key : String) (id : Uuid)
      (now : Instant)
  | loadId (id : Uuid)
  | loadKey (key : String)
  | move (hand : Nat) (m : Move) (now : Instant)
  | save (hand : Nat)
deriving Repr

/-- What a holder of payments hears. -/
inductive Notice
  /-- A payment has been created, loaded or moved. -/
  | payment (p : Payment)
  /-- No payment is there. -/
  | nothing
  | saved (rows : List OutboxRow)
  | refused (e : DomainError)
deriving Repr

/-- Has a save been answered well? -/
def Notice.isSaved : Notice → Bool
  | saved _ => true
  | _ => false

theorem Notice.isSaved_iff {x : Notice} : x.isSaved = true ↔ ∃ rows, x = .saved rows := by
  cases x <;> simp [isSaved]

/-- Draws up the draft of a payment, if its money and its fields are in order. -/
def Draft.drawUp (orderId customerId : String) (amount : Int) (currency key : String) :
    Except DomainError Draft := do
  let amount ← Money.make amount currency
  let d : Draft := { orderId, customerId, amount, idempotencyKey := key }
  d.check
  return d

theorem Draft.valid_of_drawUp {orderId customerId : String} {amount : Int} {currency key : String}
    {d : Draft} (h : drawUp orderId customerId amount currency key = .ok d) : d.amount.Valid := by
  obtain ⟨m, hm, hd⟩ := bind_eq_ok_iff.1 h
  obtain ⟨⟨⟩, -, hd⟩ := bind_eq_ok_iff.1 hd
  cases hd
  exact Money.valid_of_make hm

/-! ## Money in order -/

theorem MemoryStore.Priced.written {s : MemoryStore} (h : s.Priced) {p : Payment}
    (hids : (s.payments.map (·.id)).Nodup) (hp : p.facts.amount.Valid) : (s.written p).Priced := by
  intro r hr
  rcases (mem_putRow hids).1 hr with rfl | ⟨hr, -⟩
  · exact hp
  · exact h r hr

namespace Desk

/-- All money is in order, stored or in hand. -/
structure Priced (k : Desk) : Prop where
  store : k.store.Priced
  hands : ∀ p ∈ k.hands, p.facts.amount.Valid

/-- Money stays in order where it is in order in every draft. -/
theorem Outcome.priced {k k' : Desk} {d : Deed} (h : k.Outcome d k') (hk : k.Sound)
    (hpriced : k.Priced)
    (hdraft : ∀ draft id now, d = .create draft id now → draft.amount.Valid) : k'.Priced := by
  have happend {q : Payment} (hq : q.facts.amount.Valid) :
      ∀ p ∈ k.hands ++ [q], p.facts.amount.Valid := by
    intro p hp
    rcases List.mem_append.1 hp with hp | hp
    · exact hpriced.hands p hp
    · exact List.mem_singleton.1 hp ▸ hq
  have hset {n : Nat} {q : Payment} (hq : q.facts.amount.Valid) :
      ∀ p ∈ k.hands.set n q, p.facts.amount.Valid := by
    intro p hp
    rcases List.mem_or_eq_of_mem_set hp with hp | rfl
    · exact hpriced.hands p hp
    · exact hq
  have hvalid {n : Nat} {p : Payment} (hp : k.hands[n]? = some p) : p.drained.facts.amount.Valid :=
    hpriced.hands p (List.mem_of_getElem? hp)
  cases h with
  | idle hpayments => exact ⟨fun r hr => hpriced.store r (hpayments ▸ hr), hpriced.hands⟩
  | created => exact ⟨hpriced.store, happend (hdraft _ _ _ rfl)⟩
  | received hpayments _ _ hr =>
    exact ⟨fun r hr => hpriced.store r (hpayments ▸ hr), happend (hpriced.store _ hr)⟩
  | moved hp hmove =>
    refine ⟨hpriced.store, hset ?_⟩
    rw [(Payment.follows_move hmove).origin.amount]
    exact hvalid hp
  | saved hp =>
    exact ⟨hpriced.store.written hk.store.ids (hvalid hp), hset (hvalid hp)⟩
  | @unheard n drains p hp =>
    refine ⟨hpriced.store.written hk.store.ids (hvalid hp), ?_⟩
    cases drains with
    | false => exact hpriced.hands
    | true => exact hset (hvalid hp)

end Desk

/-! ## Errands over a store -/

/-- A store, and the payments in hand. -/
structure Bench (σ : Type) where
  store : σ
  hands : List Payment := []

namespace Bench

variable {σ : Type}

/-- Runs an errand over a store that answers calls. -/
def perform (answer : σ → (c : StoreCall) → c.Reply × σ) (b : Bench σ) :
    Errand → Notice × Bench σ
  | .create orderId customerId amount currency key id now =>
    match Draft.drawUp orderId customerId amount currency key with
    | .ok d => (.payment (d.issue id now), { b with hands := b.hands ++ [d.issue id now] })
    | .error e => (.refused e, b)
  | .loadId id => match answer b.store (.findById id) with
    | (.ok p, store) => (.payment p, ⟨store, b.hands ++ [p]⟩)
    | (.error e, store) => (.refused e, { b with store })
  | .loadKey key => match answer b.store (.findByKey key) with
    | (.ok (some p), store) => (.payment p, ⟨store, b.hands ++ [p]⟩)
    | (.ok none, store) => (.nothing, { b with store })
    | (.error e, store) => (.refused e, { b with store })
  | .move n m now => match b.hands[n]? with
    | none => (.nothing, b)
    | some p => match p.move m now with
      | .ok q => (.payment q, { b with hands := b.hands.set n q })
      | .error e => (.refused e, b)
  | .save n => match b.hands[n]? with
    | none => (.nothing, b)
    | some p => match answer b.store (.save p) with
      | ((.ok rows, q), store) => (.saved rows, ⟨store, b.hands.set n q⟩)
      | ((.error e, q), store) => (.refused e, ⟨store, b.hands.set n q⟩)

/-- Runs errands, one after the other, and collects what is heard. -/
def run (answer : σ → (c : StoreCall) → c.Reply × σ) (b : Bench σ) :
    List Errand → List Notice × Bench σ
  | [] => ([], b)
  | e :: es =>
    let (notice, b) := b.perform answer e
    let (notices, b) := b.run answer es
    (notice :: notices, b)

theorem perform_save_nothing (answer : σ → (c : StoreCall) → c.Reply × σ) {b : Bench σ} {n : Nat}
    (hn : b.hands[n]? = none) : b.perform answer (.save n) = (.nothing, b) := by
  simp only [perform, hn]

/-! ## Errands over the store in memory -/

/-- The desk with the same store and the same payments in hand. -/
def desk (b : Bench MemoryStore) : Desk where
  store := b.store
  hands := b.hands

/-- The store works, and what is stored and in hand is sound. -/
structure Sound (b : Bench MemoryStore) : Prop where
  works : b.store.outboxFails = false
  desk : b.desk.Sound
  priced : b.desk.Priced

theorem sound_empty : Sound { store := {} } :=
  ⟨rfl, Desk.sound_empty, ⟨by simp [desk, MemoryStore.Priced], by simp [desk]⟩⟩

/-- How a save ends: it is written, its commit is lost, or it is refused. -/
theorem perform_save (fate : Fate) {b : Bench MemoryStore} (hworks : b.store.outboxFails = false)
    {n : Nat} {p : Payment} (hp : b.hands[n]? = some p) :
    (b.store.mayWrite p.facts = .ok () ∧ b.perform (MemoryStore.answer fate) (.save n) =
        (.saved p.rows, ⟨b.store.written p, b.hands.set n p.drained⟩)) ∨
      (∃ took message, fate = .lost took message ∧ b.store.mayWrite p.facts = .ok () ∧
        b.perform (MemoryStore.answer fate) (.save n) =
          (.refused (.infrastructure ("commit payment: " ++ message)),
            ⟨if took then b.store.written p else b.store.refused, b.hands⟩)) ∨
      (∃ e, b.store.mayWrite p.facts = .error e ∧ b.perform (MemoryStore.answer fate) (.save n) =
        (.refused e, ⟨b.store.refused, b.hands⟩)) := by
  simp only [perform, hp]
  cases hmay : b.store.mayWrite p.facts with
  | ok =>
    rw [MemoryStore.answer_save_of_mayWrite fate hmay hworks]
    cases fate with
    | acknowledged => exact .inl ⟨rfl, rfl⟩
    | lost took message =>
      refine .inr (.inl ⟨took, message, rfl, rfl, ?_⟩)
      simp only [set_of_getElem? hp]
  | error e =>
    rw [MemoryStore.answer_save_of_refusal fate hmay]
    refine .inr (.inr ⟨e, rfl, ?_⟩)
    simp only [set_of_getElem? hp]

/-- Whatever an errand does is the outcome of a deed, apart from the books of the desk. The outbox
    keeps working, and a payment is created with money that is in order. -/
theorem perform_outcome (fate : Fate) {b : Bench MemoryStore}
    (hworks : b.store.outboxFails = false) (e : Errand) :
    ∃ d issued log, b.desk.Outcome d
        { store := (b.perform (MemoryStore.answer fate) e).2.store
          hands := (b.perform (MemoryStore.answer fate) e).2.hands
          issued, log } ∧
      (b.perform (MemoryStore.answer fate) e).2.store.outboxFails = false ∧
      (∀ draft id now, d = .create draft id now → draft.amount.Valid) := by
  cases e with
  | create orderId customerId amount currency key id now =>
    simp only [perform]
    cases hdraft : Draft.drawUp orderId customerId amount currency key with
    | error e => exact ⟨.loadKey key, _, _, .same _ _, hworks, by simp⟩
    | ok d =>
      refine ⟨.create d id now, _, _, .created, hworks, ?_⟩
      intro draft id' now' heq
      cases heq
      exact Draft.valid_of_drawUp hdraft
  | loadId id =>
    simp only [perform, MemoryStore.answer, MemoryStore.handle, MemoryStore.findById]
    cases hfind : b.store.findId? id with
    | none => exact ⟨.loadId id, _, _, .idle rfl rfl (.inl rfl), hworks, by simp⟩
    | some r =>
      have hr := (MemoryStore.mem_of_findId? hfind).1
      exact ⟨.loadId id, _, _, .received rfl rfl rfl hr, hworks, by simp⟩
  | loadKey key =>
    simp only [perform, MemoryStore.answer, MemoryStore.handle, MemoryStore.findByKey]
    cases hfind : b.store.findKey? key with
    | none => exact ⟨.loadKey key, _, _, .idle rfl rfl (.inl rfl), hworks, by simp⟩
    | some r =>
      have hr := (MemoryStore.mem_of_findKey? hfind).1
      exact ⟨.loadKey key, _, _, .received rfl rfl rfl hr, hworks, by simp⟩
  | move n m now =>
    simp only [perform]
    cases hp : b.hands[n]? with
    | none => exact ⟨.move n m now, _, _, .same _ _, hworks, by simp⟩
    | some p =>
      simp only
      cases hmove : p.move m now with
      | error e => exact ⟨.move n m now, _, _, .same _ _, hworks, by simp⟩
      | ok q => exact ⟨.move n m now, _, _, .moved hp hmove, hworks, by simp⟩
  | save n =>
    cases hp : b.hands[n]? with
    | none =>
      rw [perform_save_nothing _ hp]
      exact ⟨.save n, _, _, .same _ _, hworks, by simp⟩
    | some p =>
      rcases perform_save fate hworks hp with
        ⟨hmay, hsave⟩ | ⟨took, message, -, hmay, hsave⟩ | ⟨e, hmay, hsave⟩
      · rw [hsave]
        exact ⟨.save n, _, _, .saved hp hmay, hworks, by simp⟩
      · rw [hsave]
        cases took with
        | false => exact ⟨.save n, _, _, .idle rfl rfl (.inl rfl), hworks, by simp⟩
        | true => exact ⟨.saveUnheard n false, _, _, .unheard hp hmay, hworks, by simp⟩
      · rw [hsave]
        exact ⟨.save n, _, _, .idle rfl rfl (.inl rfl), hworks, by simp⟩

theorem Sound.perform (fate : Fate) {b : Bench MemoryStore} (h : b.Sound) (e : Errand) :
    (b.perform (MemoryStore.answer fate) e).2.Sound := by
  obtain ⟨d, issued, log, houtcome, hworks, hdraft⟩ := perform_outcome fate h.works e
  have hsound := houtcome.sound h.desk
  have hpriced := houtcome.priced h.desk h.priced hdraft
  exact ⟨hworks, ⟨hsound.store, hsound.hands⟩, ⟨hpriced.store, hpriced.hands⟩⟩

/-! ## The same errands over a database -/

/-- The bench with the same payments in hand over a database that holds the same data. -/
def atDatabase (b : Bench MemoryStore) : Bench Database where
  store := { tables := b.store.tables }
  hands := b.hands

/-- An errand over the database is heard of as it is over the store in memory, and changes the same
    data. -/
theorem perform_atDatabase (fate : Fate) {b : Bench MemoryStore} (h : b.Sound) (e : Errand) :
    b.atDatabase.perform (Database.answer fate) e =
      ((b.perform (MemoryStore.answer fate) e).1,
        (b.perform (MemoryStore.answer fate) e).2.atDatabase) := by
  have hanswer {c : StoreCall} (hfits : ∀ p, c = .save p → b.store.Fits p) :
      Database.answer fate { tables := b.store.tables } c =
        ((b.store.answer fate c).1, { tables := (b.store.answer fate c).2.tables }) :=
    MemoryStore.answer_tables fate h.desk.store h.priced.store h.works hfits
  cases e with
  | create orderId customerId amount currency key id now =>
    simp only [perform]
    cases Draft.drawUp orderId customerId amount currency key <;> rfl
  | loadId id =>
    have hload := hanswer (c := .findById id) (by simp)
    simp only [perform, atDatabase, hload]
    rcases b.store.answer fate (.findById id) with ⟨_ | _, _⟩ <;> rfl
  | loadKey key =>
    have hload := hanswer (c := .findByKey key) (by simp)
    simp only [perform, atDatabase, hload]
    rcases b.store.answer fate (.findByKey key) with ⟨_ | _ | _, _⟩ <;> rfl
  | move n m now =>
    simp only [perform, atDatabase]
    cases b.hands[n]? with
    | none => rfl
    | some p =>
      simp only
      cases p.move m now <;> rfl
  | save n =>
    simp only [perform, atDatabase]
    cases hp : b.hands[n]? with
    | none => rfl
    | some p =>
      have hfits : b.store.Fits p := h.desk.hands p (List.mem_of_getElem? hp)
      have hsave := hanswer (c := .save p) (by rintro _ ⟨⟩; exact hfits)
      simp only [hsave]
      rcases b.store.answer fate (.save p) with ⟨⟨_ | _, _⟩, _⟩ <;> rfl

theorem run_atDatabase {b : Bench MemoryStore} (h : b.Sound) (es : List Errand) :
    b.atDatabase.run (Database.answer .acknowledged) es =
      ((b.run (MemoryStore.answer .acknowledged) es).1,
        (b.run (MemoryStore.answer .acknowledged) es).2.atDatabase) := by
  -- By induction on the errands; what one errand leaves is sound for the next one.
  induction es generalizing b with
  | nil => rfl
  | cons e es ih => simp only [run, perform_atDatabase .acknowledged h, ih (h.perform _ e)]

theorem Sound.run (fate : Fate) {b : Bench MemoryStore} (h : b.Sound) (es : List Errand) :
    (b.run (MemoryStore.answer fate) es).2.Sound := by
  induction es generalizing b with
  | nil => exact h
  | cons e es ih => exact ih (h.perform fate e)

/-- Holders of payments cannot tell a database that executes its statements from the store in
    memory: they hear the same of every errand, and the same payments and events are kept. -/
theorem database_refines_memory (es : List Errand) :
    let database := Bench.run (Database.answer .acknowledged) { store := {} } es
    let memory := Bench.run MemoryStore.handle { store := {} } es
    database.1 = memory.1 ∧ database.2.hands = memory.2.hands ∧
      database.2.store.tables.payments = memory.2.store.payments.map PaymentRow.ofFacts ∧
      database.2.store.tables.payments.map PaymentRow.toPayment =
        memory.2.store.payments.map (fun r => .ok (Payment.ofFacts r)) ∧
      database.2.store.tables.outbox = memory.2.store.outbox.map OutboxRow.entry := by
  have hhandle : MemoryStore.answer .acknowledged = MemoryStore.handle :=
    funext fun s => funext (s.answer_acknowledged)
  have hrun : Bench.run (Database.answer .acknowledged) { store := {} } es = _ :=
    run_atDatabase sound_empty es
  have hsound := sound_empty.run .acknowledged es
  rw [hhandle] at hrun hsound
  simp only [hrun]
  refine ⟨trivial, rfl, rfl, ?_, rfl⟩
  refine Eq.trans List.map_map (List.map_congr_left fun r hr => ?_)
  exact PaymentRow.toPayment_ofFacts (hsound.priced.store r hr)

end Bench

end PayOnce
