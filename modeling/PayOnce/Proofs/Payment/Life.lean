import PayOnce.Payment.View
import PayOnce.Proofs.Payment.Move
/-!
The life of a payment in hand. From its creation on a payment is asked to move and gives its events
away, in any order and any number of times. What it has become is told by its events, those that it
gave away and those that it still holds, and its version counts the stretches between two drains in
which it has moved.
-/

namespace PayOnce

/-! ## Texts of moves -/

/-- The text that a move brings along. -/
def Move.text? : Move → Option String
  | start providerRef => some providerRef
  | complete => none
  | fail reason => some reason

theorem ne_empty_of_refuseBlank {field value : String} (h : refuseBlank field value = .ok ()) :
    value ≠ "" := by
  rintro rfl
  have hblank : Text.isBlank "" = true := by decide
  simp [refuseBlank, hblank] at h

/-- A move with an empty text is not accepted. -/
theorem Payment.ne_empty_of_move {p q : Payment} {m : Move} {now : Instant}
    (h : p.move m now = .ok q) {text : String} (htext : m.text? = some text) : text ≠ "" := by
  cases m with
  | start providerRef =>
    cases htext
    obtain ⟨_, hblank, -⟩ := bind_eq_ok_iff.1 h
    exact ne_empty_of_refuseBlank hblank
  | complete => cases htext
  | fail reason =>
    cases htext
    obtain ⟨_, hblank, -⟩ := bind_eq_ok_iff.1 h
    exact ne_empty_of_refuseBlank hblank

/-- The texts of a record are there exactly where its status calls for them. -/
structure PaymentFacts.Filled (r : PaymentFacts) : Prop where
  providerRef : r.providerRef ≠ "" ↔ r.status ≠ .pending
  failureReason : r.failureReason ≠ "" ↔ r.status = .failed

theorem PaymentFacts.Filled.move {r : PaymentFacts} (h : r.Filled) {m : Move}
    (hmove : r.status.canMoveTo m.target) (htext : ∀ s, m.text? = some s → s ≠ "") (now : Instant)
    (version : Int) : (m.applyTo r now version).Filled := by
  have hstatus := Move.canMoveTo_target_iff.1 hmove
  have hreason := h.failureReason
  cases m with
  | start providerRef =>
    have hgiven := htext providerRef rfl
    simp only [hstatus, Move.source] at hreason
    exact ⟨by simpa [Move.applyTo] using hgiven, by simpa [Move.applyTo] using hreason⟩
  | complete =>
    have hprovider := h.providerRef
    simp only [hstatus, Move.source] at hreason hprovider
    exact ⟨by simpa [Move.applyTo] using hprovider, by simpa [Move.applyTo] using hreason⟩
  | fail reason =>
    have hgiven := htext reason rfl
    have hprovider := h.providerRef
    simp only [hstatus, Move.source] at hprovider
    exact ⟨by simpa [Move.applyTo] using hprovider, by simpa [Move.applyTo] using hgiven⟩

/-- The view of a payment shows the provider's reference as soon as there is one. -/
theorem PaymentFacts.Filled.view_providerRef {p : Payment} (h : p.facts.Filled) :
    (PaymentView.ofPayment p).providerRef =
      if p.status ≠ .pending then some p.facts.providerRef else none := by
  have hiff : p.facts.providerRef ≠ "" ↔ p.status ≠ .pending := h.providerRef
  simp only [PaymentView.ofPayment, PaymentView.nonEmpty, ← hiff, ite_not]

/-- The view of a payment shows the reason of its failure as soon as there is one. -/
theorem PaymentFacts.Filled.view_failureReason {p : Payment} (h : p.facts.Filled) :
    (PaymentView.ofPayment p).failureReason =
      if p.status = .failed then some p.facts.failureReason else none := by
  have hiff : p.facts.failureReason ≠ "" ↔ p.status = .failed := h.failureReason
  simp only [PaymentView.ofPayment, PaymentView.nonEmpty, ← hiff, ite_not]

/-! ## Records after events -/

/-- The record after an event. Who pays, how much and under which key is not told by events, and
    neither is the version. -/
def PaymentFacts.after (r : PaymentFacts) : PaymentEvent → PaymentFacts
  | .initiated id orderId _ _ t =>
    { r with
      id, orderId
      status := .pending
      providerRef := ""
      failureReason := ""
      createdAt := t
      updatedAt := t }
  | .processingStarted _ providerRef t =>
    { r with status := .processing, providerRef, updatedAt := t }
  | .completed _ t => { r with status := .completed, updatedAt := t }
  | .failed _ reason t => { r with status := .failed, failureReason := reason, updatedAt := t }

/-- A record with what a draft says of who pays, how much and under which key. -/
def Draft.fillIn (d : Draft) (r : PaymentFacts) : PaymentFacts :=
  { r with customerId := d.customerId, amount := d.amount, idempotencyKey := d.idempotencyKey }

theorem PaymentFacts.applyTo_eq_after (r : PaymentFacts) (m : Move) (now : Instant)
    (version : Int) :
    m.applyTo r now version = { r.after (m.event r.id now) with version } := by
  cases m <;> rfl

theorem PaymentFacts.after_version (r : PaymentFacts) (e : PaymentEvent) (version : Int) :
    { r with version }.after e = { r.after e with version } := by
  cases e <;> rfl

theorem PaymentFacts.foldl_after_version (r : PaymentFacts) (es : List PaymentEvent)
    (version : Int) :
    es.foldl PaymentFacts.after { r with version } =
      { es.foldl PaymentFacts.after r with version } := by
  induction es generalizing r with
  | nil => rfl
  | cons e es ih => rw [List.foldl_cons, after_version, ih, List.foldl_cons]

/-- No payment has a history of more than three events. -/
theorem PaymentFacts.length_history_le (r : PaymentFacts) (startedAt : Instant) :
    (r.history startedAt).length ≤ 3 := by
  unfold history
  cases r.status <;> simp

namespace Payment

/-! ## Lives -/

/-- Something that is done with a payment in hand. -/
inductive Act
  | ask (m : Move) (now : Instant)
  /-- Its events are taken from it. -/
  | drain
deriving DecidableEq, Repr

/-- What comes of it. -/
inductive Effect
  | moved (m : Move) (now : Instant)
  | refused (e : DomainError)
  | drained (es : List PaymentEvent)
deriving DecidableEq, Repr

/-- Does something with a payment. A move that is refused leaves it as it is. -/
def act (p : Payment) : Act → Effect × Payment
  | .ask m now => match p.move m now with
    | .ok q => (.moved m now, q)
    | .error e => (.refused e, p)
  | .drain => (.drained p.pending, p.drained)

/-- Does one thing after the other with a payment. -/
def live (p : Payment) : List Act → List Effect × Payment
  | [] => ([], p)
  | a :: acts =>
    ((p.act a).1 :: ((p.act a).2.live acts).1, ((p.act a).2.live acts).2)

/-- All that can become of a payment, and what comes of everything that is done with it. -/
inductive Lives : Payment → List Effect → Payment → Prop
  | rests (p : Payment) : Lives p [] p
  | moved {p q r : Payment} {m : Move} {now : Instant} {es : List Effect}
      (hmove : p.move m now = .ok q) (hrest : Lives q es r) : Lives p (.moved m now :: es) r
  | refused {p r : Payment} {e : DomainError} {es : List Effect} (hrest : Lives p es r) :
      Lives p (.refused e :: es) r
  | drained {p r : Payment} {es : List Effect} (hrest : Lives p.drained es r) :
      Lives p (.drained p.pending :: es) r

theorem lives_live (p : Payment) (acts : List Act) : p.Lives (p.live acts).1 (p.live acts).2 := by
  induction acts generalizing p with
  | nil => exact .rests p
  | cons a acts ih =>
    cases a with
    | ask m now =>
      cases hmove : p.move m now with
      | ok q =>
        simp only [live, act, hmove]
        exact .moved hmove (ih q)
      | error e =>
        simp only [live, act, hmove]
        exact .refused (ih p)
    | drain => exact .drained (ih p.drained)

/-! ## Events -/

/-- The event of a move that was accepted. -/
def Effect.event? (id : Uuid) : Effect → Option PaymentEvent
  | moved m now => some (m.event id now)
  | refused _ => none
  | drained _ => none

/-- The batch of events that was taken in a drain. -/
def Effect.batch? : Effect → Option (List PaymentEvent)
  | moved _ _ => none
  | refused _ => none
  | drained es => some es

/-- The events of all moves that were accepted, the first one first. -/
def moveEvents (id : Uuid) (es : List Effect) : List PaymentEvent :=
  es.filterMap (Effect.event? id)

/-- The events of all batches that were drained, one batch after the other. -/
def givenAway (es : List Effect) : List PaymentEvent :=
  (es.filterMap Effect.batch?).flatten

section Lives

variable {p q : Payment} {es : List Effect}

/-- No event is lost, repeated or put in another place: what was given away and what is still held
    are together what was held at first and what the moves have added. -/
theorem Lives.givenAway (h : p.Lives es q) :
    Payment.givenAway es ++ q.pending = p.pending ++ moveEvents p.id es := by
  induction h with
  | rests p => simp [Payment.givenAway, moveEvents]
  | @moved p q r m now es hmove hrest ih =>
    have hid : q.id = p.id := (follows_move hmove).origin.id
    obtain ⟨-, rfl⟩ := move_inv hmove
    rw [hid, List.append_assoc] at ih
    exact ih
  | refused hrest ih => exact ih
  | @drained p r es hrest ih =>
    have hsplit : Payment.givenAway (.drained p.pending :: es) =
        p.pending ++ Payment.givenAway es := rfl
    rw [hsplit, List.append_assoc, ih]
    rfl

/-- The history of a payment goes on with its moves. -/
theorem Lives.told (h : p.Lives es q) {ts : List PaymentEvent} (hts : p.facts.Told ts) :
    q.facts.Told (ts ++ moveEvents p.id es) := by
  induction h generalizing ts with
  | rests p => simpa [moveEvents] using hts
  | @moved p q r m now es hmove hrest ih =>
    have hid : q.id = p.id := (follows_move hmove).origin.id
    obtain ⟨hcan, rfl⟩ := move_inv hmove
    have hnext := ih (hts.move hcan now p.nextVersion)
    rw [hid, List.append_assoc] at hnext
    exact hnext
  | refused hrest ih => exact ih hts
  | drained hrest ih => exact ih hts

/-- Apart from its version, a payment is what its moves have made of it. -/
theorem Lives.facts (h : p.Lives es q) :
    q.facts = { (moveEvents p.id es).foldl PaymentFacts.after p.facts with
      version := q.facts.version } := by
  induction h with
  | rests p => rfl
  | @moved p q r m now es hmove hrest ih =>
    have hid : q.id = p.id := (follows_move hmove).origin.id
    obtain ⟨-, rfl⟩ := move_inv hmove
    rw [hid, PaymentFacts.applyTo_eq_after, PaymentFacts.foldl_after_version] at ih
    exact ih
  | refused hrest ih => exact ih
  | drained hrest ih => exact ih

theorem Lives.filled (h : p.Lives es q) (hp : p.facts.Filled) : q.facts.Filled := by
  induction h with
  | rests p => exact hp
  | @moved p q r m now es hmove hrest ih =>
    have htext : ∀ s, m.text? = some s → s ≠ "" := fun s hs => ne_empty_of_move hmove hs
    obtain ⟨hcan, rfl⟩ := move_inv hmove
    exact ih (hp.move hcan htext now p.nextVersion)
  | refused hrest ih => exact ih hp
  | drained hrest ih => exact ih hp

/-- A payment is ahead of its stored version as long as it holds events. -/
theorem Lives.ahead (h : p.Lives es q) (hp : p.ahead = true ↔ p.pending ≠ []) :
    q.ahead = true ↔ q.pending ≠ [] := by
  induction h with
  | rests p => exact hp
  | moved hmove hrest ih =>
    obtain ⟨-, rfl⟩ := move_inv hmove
    exact ih (by simp)
  | refused hrest ih => exact ih hp
  | drained hrest ih => exact ih (by simp [Payment.drained])

end Lives

/-! ## Versions -/

/-- Has the payment moved? -/
def Effect.isMove : Effect → Bool
  | moved _ _ => true
  | refused _ => false
  | drained _ => false

/-- Have its events been taken? -/
def Effect.isDrain : Effect → Bool
  | moved _ _ => false
  | refused _ => false
  | drained _ => true

/-- The stretches between drains, the first one first. -/
def stretches (es : List Effect) : List (List Effect) :=
  es.splitOnP Effect.isDrain

/-- Whatever does not end a stretch goes on with it. -/
theorem stretches_cons {e : Effect} (h : e.isDrain = false) (es : List Effect) :
    ∃ first rest, stretches es = first :: rest ∧ stretches (e :: es) = (e :: first) :: rest := by
  obtain ⟨first, rest, hes⟩ := List.exists_cons_of_ne_nil (List.splitOnP_ne_nil Effect.isDrain es)
  refine ⟨first, rest, hes, ?_⟩
  simp [stretches, List.splitOnP_cons_eq_if_modifyHead, h, hes]

theorem stretches_drained (batch : List PaymentEvent) (es : List Effect) :
    stretches (.drained batch :: es) = [] :: stretches es := by
  simp [stretches, List.splitOnP_cons_eq_if_modifyHead, Effect.isDrain]

/-- By how much the version goes up over some stretches. In the first one it has gone up already if
    the payment is ahead. -/
def raises (ahead : Bool) : List (List Effect) → Nat
  | [] => 0
  | first :: rest =>
    (if !ahead && first.any Effect.isMove then 1 else 0) + rest.countP (·.any Effect.isMove)

theorem raises_ahead (ss : List (List Effect)) :
    raises true ss = ss.tail.countP (·.any Effect.isMove) := by
  cases ss with
  | nil => rfl
  | cons first rest => simp [raises]

theorem raises_behind (ss : List (List Effect)) :
    raises false ss = ss.countP (·.any Effect.isMove) := by
  cases ss with
  | nil => rfl
  | cons first rest => simp [raises, List.countP_cons, Nat.add_comm]

theorem raises_moved (ahead : Bool) (m : Move) (now : Instant) (es : List Effect) :
    raises ahead (stretches (.moved m now :: es)) =
      (if ahead then 0 else 1) + raises true (stretches es) := by
  obtain ⟨first, rest, hes, hcons⟩ := stretches_cons (e := .moved m now) rfl es
  rw [hcons, hes]
  cases ahead <;> simp [raises, Effect.isMove]

theorem raises_refused (ahead : Bool) (e : DomainError) (es : List Effect) :
    raises ahead (stretches (.refused e :: es)) = raises ahead (stretches es) := by
  obtain ⟨first, rest, hes, hcons⟩ := stretches_cons (e := .refused e) rfl es
  rw [hcons, hes]
  simp [raises, Effect.isMove]

theorem raises_drained (ahead : Bool) (batch : List PaymentEvent) (es : List Effect) :
    raises ahead (stretches (.drained batch :: es)) = raises false (stretches es) := by
  rw [stretches_drained, raises_behind]
  simp [raises]

/-- The version goes up at most once with every move. -/
theorem raises_le (ahead : Bool) (id : Uuid) (es : List Effect) :
    raises ahead (stretches es) ≤ (moveEvents id es).length := by
  induction es generalizing ahead with
  | nil => simp [stretches, raises]
  | cons e es ih =>
    cases e with
    | moved m now =>
      have hrest := ih true
      rw [raises_moved]
      simp only [moveEvents, Effect.event?, List.filterMap_cons, List.length_cons]
      rw [← moveEvents]
      split <;> omega
    | refused e =>
      rw [raises_refused]
      exact ih ahead
    | drained batch =>
      rw [raises_drained]
      exact ih false

theorem Lives.version {p q : Payment} {es : List Effect} (h : p.Lives es q) :
    q.facts.version = p.facts.version + raises p.ahead (stretches es) := by
  induction h with
  | rests p => simp [stretches, raises]
  | @moved p q r m now es hmove hrest ih =>
    obtain ⟨-, rfl⟩ := move_inv hmove
    rw [ih, PaymentFacts.applyTo_eq_after, raises_moved]
    cases hahead : p.ahead <;> simp [nextVersion, hahead, Int.add_assoc]
  | refused hrest ih => rw [ih, raises_refused]
  | drained hrest ih =>
    rw [ih, raises_drained]
    rfl

/-! ## From creation on -/

section Issue

variable {d : Draft} {id : Uuid} {created : Instant} {es : List Effect} {q : Payment}

theorem filled_issue : (d.issue id created).facts.Filled :=
  ⟨by simp [Draft.issue], by simp [Draft.issue]⟩

/-- The record of a payment is the fold of all its events, over any record with what the draft
    says. -/
theorem Lives.fold (h : (d.issue id created).Lives es q) (r : PaymentFacts) :
    q.facts =
      { (Payment.givenAway es ++ q.pending).foldl PaymentFacts.after (d.fillIn r) with
        version := q.facts.version } := by
  have hissue : (d.issue id created).facts =
      { (d.issue id created).pending.foldl PaymentFacts.after (d.fillIn r) with version := 1 } :=
    rfl
  have hfacts := h.facts
  rw [hissue, PaymentFacts.foldl_after_version] at hfacts
  rw [h.givenAway, List.foldl_append]
  exact hfacts

/-- A payment goes through three versions at most. -/
theorem Lives.version_le (h : (d.issue id created).Lives es q) : q.facts.version ≤ 3 := by
  obtain ⟨startedAt, hhistory, -⟩ := h.told (PaymentFacts.told_issue d id created)
  have hthree : 1 + (moveEvents id es).length ≤ 3 := by
    have hlength := q.facts.length_history_le startedAt
    rw [← hhistory, List.length_append] at hlength
    exact hlength
  have hversion : q.facts.version = 1 + raises true (stretches es) := h.version
  have hraises := raises_le true id es
  omega

end Issue

/-- What has become of a new payment is the fold of its events. They are those of its creation and
    of the moves that were accepted, and they are the history that its status implies; its texts and
    its times are those of the events, and its version counts the stretches between drains in which
    it has moved. -/
theorem fold_of_events (d : Draft) (id : Uuid) (created : Instant) (acts : List Act) :
    let p := d.issue id created
    let es := (p.live acts).1
    let q := (p.live acts).2
    let told := givenAway es ++ q.pending
    told = p.pending ++ moveEvents id es ∧
      (∃ startedAt, told = q.facts.history startedAt) ∧
      (∀ r, q.facts =
        { told.foldl PaymentFacts.after (d.fillIn r) with version := q.facts.version }) ∧
      told.head?.map (·.occurredAt) = some q.facts.createdAt ∧
      told.getLast?.map (·.occurredAt) = some q.facts.updatedAt ∧
      (q.facts.providerRef ≠ "" ↔ q.status ≠ .pending) ∧
      (q.facts.failureReason ≠ "" ↔ q.status = .failed) ∧
      (PaymentView.ofPayment q).providerRef =
        (if q.status ≠ .pending then some q.facts.providerRef else none) ∧
      (PaymentView.ofPayment q).failureReason =
        (if q.status = .failed then some q.facts.failureReason else none) ∧
      q.facts.version = 1 + (stretches es).tail.countP (·.any Effect.isMove) ∧
      q.facts.version ≤ 3 ∧
      (q.ahead = true ↔ q.pending ≠ []) := by
  intro p es q told
  have hlives : p.Lives es q := lives_live p acts
  have htold : told = p.pending ++ moveEvents id es := hlives.givenAway
  obtain ⟨startedAt, hhistory, hlast⟩ :
      q.facts.Told told := htold ▸ hlives.told (PaymentFacts.told_issue d id created)
  have hfilled : q.facts.Filled := hlives.filled filled_issue
  have hversion : q.facts.version = 1 + raises true (stretches es) := hlives.version
  have hnew : p.ahead = true ↔ p.pending ≠ [] := by simp [p, Draft.issue]
  refine ⟨htold, ⟨startedAt, hhistory⟩, hlives.fold, ?_, hlast, hfilled.providerRef,
    hfilled.failureReason, hfilled.view_providerRef, hfilled.view_failureReason, ?_,
    hlives.version_le, hlives.ahead hnew⟩
  · rw [hhistory]
    rfl
  · rw [hversion, raises_ahead]

end Payment

end PayOnce
