import PayOnce.Payment.Aggregate
import Mathlib.Logic.Relation
/-!
Moves of payments. A payment in hand builds upon a stored version, its base, which no move changes;
what the moves change is told by the events that they buffer. The history of a record is the list
of events that its facts imply.
-/

namespace PayOnce

/-- What comes of two steps comes of the second one after the first has succeeded. -/
theorem bind_eq_ok_iff {ε α β : Type} {x : Except ε α} {f : α → Except ε β} {b : β} :
    (x >>= f) = .ok b ↔ ∃ a, x = .ok a ∧ f a = .ok b := by
  cases x with
  | error e => simp [bind, Except.bind]
  | ok a => simp [bind, Except.bind]

/-! ## Single moves -/

/-- A move that a payment may be asked to make. -/
inductive Move
  | start (providerRef : String)
  | complete
  | fail (reason : String)
deriving DecidableEq, Repr

namespace Move

/-- The status that a move leads to. -/
def target : Move → Status
  | start _ => .processing
  | complete => .completed
  | fail _ => .failed

/-- The status that a move starts from. -/
def source : Move → Status
  | start _ => .pending
  | complete => .processing
  | fail _ => .processing

theorem canMoveTo_target_iff {m : Move} {s : Status} :
    s.canMoveTo m.target = true ↔ s = m.source := by
  cases m <;> cases s <;> simp [target, source, Status.canMoveTo]

/-- The record that a move at an instant leads to, given its version. -/
def applyTo (m : Move) (r : PaymentFacts) (now : Instant) (version : Int) : PaymentFacts :=
  match m with
  | start providerRef => { r with status := .processing, updatedAt := now, version, providerRef }
  | complete => { r with status := .completed, updatedAt := now, version }
  | fail reason =>
    { r with status := .failed, updatedAt := now, version, failureReason := reason }

/-- The event that a move of a payment is told by. -/
def event (m : Move) (id : Uuid) (now : Instant) : PaymentEvent :=
  match m with
  | start providerRef => .processingStarted id providerRef now
  | complete => .completed id now
  | fail reason => .failed id reason now

end Move

namespace Payment

/-- Asks a payment to make a move. -/
def move (p : Payment) (m : Move) (now : Instant) : Except DomainError Payment :=
  match m with
  | .start providerRef => p.start providerRef now
  | .complete => p.complete now
  | .fail reason => p.fail reason now

/-- The version of a payment with changes that are not stored yet. -/
def nextVersion (p : Payment) : Int :=
  if p.ahead then p.facts.version else p.facts.version + 1

/-- The stored version that a payment in hand builds upon. -/
def base (p : Payment) : Int :=
  if p.ahead then p.facts.version - 1 else p.facts.version

@[simp] theorem base_ofFacts (r : PaymentFacts) : (ofFacts r).base = r.version := rfl

@[simp] theorem base_issue (d : Draft) (id : Uuid) (now : Instant) :
    (d.issue id now).base = 0 := rfl

theorem base_bounds (p : Payment) : p.facts.version - 1 ≤ p.base ∧ p.base ≤ p.facts.version := by
  unfold base
  split <;> omega

theorem moveTo_inv {p q : Payment} {target : Status} {now : Instant}
    (h : p.moveTo target now = .ok q) :
    p.status.canMoveTo target ∧
      q = { p with
        facts := { p.facts with status := target, updatedAt := now, version := p.nextVersion }
        ahead := true } := by
  unfold moveTo at h
  split at h
  · next hmove => exact ⟨hmove, (Except.ok.inj h).symm⟩
  · cases h

/-- All that an accepted move does. -/
theorem move_inv {p q : Payment} {m : Move} {now : Instant} (h : p.move m now = .ok q) :
    p.status.canMoveTo m.target ∧
      q = { facts := m.applyTo p.facts now p.nextVersion
            ahead := true
            pending := p.pending ++ [m.event p.id now] } := by
  cases m with
  | start providerRef =>
    obtain ⟨-, -, h⟩ := bind_eq_ok_iff.1 h
    obtain ⟨q', hmove, hq⟩ := bind_eq_ok_iff.1 h
    obtain ⟨hcan, rfl⟩ := moveTo_inv hmove
    exact ⟨hcan, (Except.ok.inj hq).symm⟩
  | complete =>
    obtain ⟨q', hmove, hq⟩ := bind_eq_ok_iff.1 h
    obtain ⟨hcan, rfl⟩ := moveTo_inv hmove
    exact ⟨hcan, (Except.ok.inj hq).symm⟩
  | fail reason =>
    obtain ⟨-, -, h⟩ := bind_eq_ok_iff.1 h
    obtain ⟨q', hmove, hq⟩ := bind_eq_ok_iff.1 h
    obtain ⟨hcan, rfl⟩ := moveTo_inv hmove
    exact ⟨hcan, (Except.ok.inj hq).symm⟩

theorem base_move {p q : Payment} {m : Move} {now : Instant} (h : p.move m now = .ok q) :
    q.base = p.base := by
  obtain ⟨-, rfl⟩ := move_inv h
  cases m <;> cases hahead : p.ahead <;>
    simp [base, nextVersion, hahead, Move.applyTo]

end Payment

/-! ## What moves never change -/

/-- Two records tell of one payment, as it was created. -/
structure PaymentFacts.SameOrigin (a b : PaymentFacts) : Prop where
  id : a.id = b.id
  orderId : a.orderId = b.orderId
  customerId : a.customerId = b.customerId
  amount : a.amount = b.amount
  key : a.idempotencyKey = b.idempotencyKey
  createdAt : a.createdAt = b.createdAt

namespace PaymentFacts

theorem SameOrigin.refl (r : PaymentFacts) : r.SameOrigin r :=
  ⟨rfl, rfl, rfl, rfl, rfl, rfl⟩

theorem SameOrigin.symm {a b : PaymentFacts} (h : a.SameOrigin b) : b.SameOrigin a :=
  ⟨h.id.symm, h.orderId.symm, h.customerId.symm, h.amount.symm, h.key.symm, h.createdAt.symm⟩

theorem SameOrigin.trans {a b c : PaymentFacts} (h : a.SameOrigin b) (h' : b.SameOrigin c) :
    a.SameOrigin c :=
  ⟨h.id.trans h'.id, h.orderId.trans h'.orderId, h.customerId.trans h'.customerId,
    h.amount.trans h'.amount, h.key.trans h'.key, h.createdAt.trans h'.createdAt⟩

theorem sameOrigin_applyTo (m : Move) (r : PaymentFacts) (now : Instant) (version : Int) :
    (m.applyTo r now version).SameOrigin r := by
  cases m <;> exact ⟨rfl, rfl, rfl, rfl, rfl, rfl⟩

end PaymentFacts

/-! ## Histories -/

namespace PaymentFacts

/-- The events that a record implies, the oldest first. The record of a payment that has ended does
    not tell when it was taken up. -/
def history (r : PaymentFacts) (startedAt : Instant) : List PaymentEvent :=
  .initiated r.id r.orderId r.amount.amount r.amount.currency r.createdAt ::
    match r.status with
    | .pending => []
    | .processing => [.processingStarted r.id r.providerRef startedAt]
    | .completed => [.processingStarted r.id r.providerRef startedAt, .completed r.id r.updatedAt]
    | .failed =>
      [.processingStarted r.id r.providerRef startedAt, .failed r.id r.failureReason r.updatedAt]

/-- Some events are the history of a record, and the last of them led to it. -/
def Told (r : PaymentFacts) (es : List PaymentEvent) : Prop :=
  ∃ startedAt, es = r.history startedAt ∧ es.getLast?.map (·.occurredAt) = some r.updatedAt

theorem told_issue (d : Draft) (id : Uuid) (now : Instant) :
    (d.issue id now).facts.Told (d.issue id now).pending :=
  ⟨now, rfl, rfl⟩

/-- A move appends its event to the history of a record. -/
theorem Told.move {r : PaymentFacts} {es : List PaymentEvent} (h : r.Told es) {m : Move}
    (hmove : r.status.canMoveTo m.target) (now : Instant) (version : Int) :
    (m.applyTo r now version).Told (es ++ [m.event r.id now]) := by
  obtain ⟨startedAt, rfl, -⟩ := h
  -- The status that a move starts from tells which events the history has so far.
  have hstatus := Move.canMoveTo_target_iff.1 hmove
  cases m with
  | start providerRef =>
    refine ⟨now, ?_, by simp [Move.event, PaymentEvent.occurredAt, Move.applyTo]⟩
    simp [history, hstatus, Move.source, Move.applyTo, Move.event]
  | complete =>
    refine ⟨startedAt, ?_, by simp [Move.event, PaymentEvent.occurredAt, Move.applyTo]⟩
    simp [history, hstatus, Move.source, Move.applyTo, Move.event]
  | fail reason =>
    refine ⟨startedAt, ?_, by simp [Move.event, PaymentEvent.occurredAt, Move.applyTo]⟩
    simp [history, hstatus, Move.source, Move.applyTo, Move.event]

end PaymentFacts

/-! ## Sequences of moves -/

/-- The statuses are joined by an edge of the status machine. -/
def Status.Edge (s t : Status) : Prop :=
  s.canMoveTo t = true

namespace Payment

/-- Asks a payment to make moves, one after the other, each at its instant. -/
def moves (p : Payment) (ms : List (Move × Instant)) : Except DomainError Payment :=
  ms.foldlM (fun p m => p.move m.1 m.2) p

theorem moves_cons (p : Payment) (m : Move × Instant) (ms : List (Move × Instant)) :
    p.moves (m :: ms) = p.move m.1 m.2 >>= fun q => q.moves ms := rfl

theorem moves_concat {p q q' : Payment} {ms : List (Move × Instant)} {m : Move} {now : Instant}
    (h : p.moves ms = .ok q) (h' : q.move m now = .ok q') :
    p.moves (ms ++ [(m, now)]) = .ok q' := by
  unfold moves at h ⊢
  rw [List.foldlM_append, h]
  exact bind_eq_ok_iff.2 ⟨q, rfl, bind_eq_ok_iff.2 ⟨q', h', rfl⟩⟩

/-- A payment has come from another one by moves alone. -/
structure Follows (p q : Payment) : Prop where
  base : q.base = p.base
  origin : q.facts.SameOrigin p.facts
  /-- The moves are told by the events that were buffered since. -/
  told : ∃ es, q.pending = p.pending ++ es ∧ ∀ ds, p.facts.Told ds → q.facts.Told (ds ++ es)
  status : Relation.ReflTransGen Status.Edge p.status q.status

theorem Follows.refl (p : Payment) : p.Follows p :=
  ⟨rfl, .refl _, ⟨[], by simp, by simp⟩, .refl⟩

theorem Follows.trans {p q r : Payment} (h : p.Follows q) (h' : q.Follows r) : p.Follows r := by
  obtain ⟨es, hes, htold⟩ := h.told
  obtain ⟨fs, hfs, htold'⟩ := h'.told
  refine ⟨h'.base.trans h.base, h'.origin.trans h.origin, ⟨es ++ fs, ?_, ?_⟩,
    h.status.trans h'.status⟩
  · rw [hfs, hes, List.append_assoc]
  · intro ds hds
    rw [← List.append_assoc]
    exact htold' _ (htold _ hds)

theorem edge_move {p q : Payment} {m : Move} {now : Instant} (h : p.move m now = .ok q) :
    Status.Edge p.status q.status := by
  obtain ⟨hcan, rfl⟩ := move_inv h
  cases m <;> exact hcan

theorem follows_move {p q : Payment} {m : Move} {now : Instant} (h : p.move m now = .ok q) :
    p.Follows q := by
  have hbase := base_move h
  have hedge := edge_move h
  obtain ⟨hcan, rfl⟩ := move_inv h
  refine ⟨hbase, PaymentFacts.sameOrigin_applyTo m _ _ _, ⟨_, rfl, ?_⟩, .single hedge⟩
  intro ds hds
  exact hds.move hcan _ _

theorem follows_moves {p q : Payment} {ms : List (Move × Instant)} (h : p.moves ms = .ok q) :
    p.Follows q := by
  induction ms generalizing p with
  | nil =>
    cases h
    exact .refl _
  | cons m ms ih =>
    obtain ⟨p', hmove, hrest⟩ := bind_eq_ok_iff.1 ((moves_cons p m ms).symm.trans h)
    exact (follows_move hmove).trans (ih hrest)

theorem transGen_moves {p q : Payment} {ms : List (Move × Instant)} (h : p.moves ms = .ok q)
    (hne : ms ≠ []) : Relation.TransGen Status.Edge p.status q.status := by
  cases ms with
  | nil => exact absurd rfl hne
  | cons m ms =>
    obtain ⟨p', hmove, hrest⟩ := bind_eq_ok_iff.1 ((moves_cons p m ms).symm.trans h)
    exact .head' (edge_move hmove) (follows_moves hrest).status

/-- A payment that has moved is ahead of its base. -/
theorem ahead_moves {p q : Payment} {ms : List (Move × Instant)} (h : p.moves ms = .ok q)
    (hmoved : p.ahead = true ∨ ms ≠ []) : q.ahead = true := by
  -- By induction on the moves: the first one puts the payment ahead, and none takes that back.
  induction ms generalizing p with
  | nil =>
    cases h
    rcases hmoved with hahead | hne
    · exact hahead
    · exact absurd rfl hne
  | cons m ms ih =>
    obtain ⟨p', hmove, hrest⟩ := bind_eq_ok_iff.1 ((moves_cons p m ms).symm.trans h)
    obtain ⟨-, rfl⟩ := move_inv hmove
    exact ih hrest (.inl rfl)

/-- Moves buffer their events in their own order. -/
theorem pending_moves {p q : Payment} {ms : List (Move × Instant)} (h : p.moves ms = .ok q) :
    q.pending = p.pending ++ ms.map fun m => m.1.event p.id m.2 := by
  induction ms generalizing p with
  | nil =>
    cases h
    simp
  | cons m ms ih =>
    obtain ⟨p', hmove, hrest⟩ := bind_eq_ok_iff.1 ((moves_cons p m ms).symm.trans h)
    have hid : p'.id = p.id := (follows_move hmove).origin.id
    obtain ⟨-, rfl⟩ := move_inv hmove
    rw [ih hrest, hid, List.append_assoc]
    rfl

/-- However many moves a stored payment makes, its version goes up by one. -/
theorem version_moves {r : PaymentFacts} {p : Payment} {ms : List (Move × Instant)}
    (h : (ofFacts r).moves ms = .ok p) (hne : ms ≠ []) : p.facts.version = r.version + 1 := by
  have hahead := ahead_moves h (.inr hne)
  have hbase : p.facts.version - 1 = r.version := by
    have hsame := (follows_moves h).base
    simp only [base, hahead, if_true] at hsame
    exact hsame
  omega

end Payment

end PayOnce
