import PayOnce.Proofs.Store.Memory
import PayOnce.Proofs.Store.Session
/-!
A save is one transaction. Whatever a database replies, the statements are sent in their order until
a reply stands against going on, and only a transaction whose commit succeeds takes the events from
the payment.
-/

namespace PayOnce

namespace Payment

/-- The statements that write a payment and its events, up to the commit. -/
def writes (p : Payment) : List Statement :=
  .begin :: .upsert p.facts :: p.rows.map .insertOutbox

/-- The statements of the transaction that saves a payment. -/
def transaction (p : Payment) : List Statement :=
  p.writes ++ [.commit]

theorem mem_writes {p : Payment} {s : Statement} (h : s ∈ p.writes) :
    s = .begin ∨ s = .upsert p.facts ∨ ∃ row, s = .insertOutbox row := by
  rcases List.mem_cons.1 h with rfl | h
  · exact .inl rfl
  · rcases List.mem_cons.1 h with rfl | h
    · exact .inr (.inl rfl)
    · obtain ⟨row, -, rfl⟩ := List.mem_map.1 h
      exact .inr (.inr ⟨row, rfl⟩)

theorem mem_transaction {p : Payment} {s : Statement} (h : s ∈ p.transaction) :
    s = .begin ∨ s = .upsert p.facts ∨ (∃ row, s = .insertOutbox row) ∨ s = .commit := by
  rcases List.mem_append.1 h with h | h
  · rcases mem_writes h with h | h | h
    · exact .inl h
    · exact .inr (.inl h)
    · exact .inr (.inr (.inl h))
  · exact .inr (.inr (.inr (List.mem_singleton.1 h)))

theorem upsert_mem_transaction {p : Payment} {f : PaymentFacts} (h : .upsert f ∈ p.transaction) :
    f = p.facts := by
  rcases mem_transaction h with h | h | ⟨row, h⟩ | h
  · cases h
  · exact Statement.upsert.inj h
  · cases h
  · cases h

theorem commit_not_mem_writes (p : Payment) : .commit ∉ p.writes := by
  intro h
  rcases mem_writes h with h | h | ⟨row, h⟩ <;> cases h

/-- A transaction is cut short at its commit or before it. -/
theorem transaction_split {p : Payment} {ss rest : List Statement} {s : Statement}
    (h : p.transaction = ss ++ s :: rest) :
    (ss = p.writes ∧ s = .commit) ∨ ss ++ [s] <+: p.writes := by
  -- The commit is the last statement, so that nothing is left over or it is.
  rcases List.eq_nil_or_concat rest with rfl | ⟨rest, last, rfl⟩
  · left
    obtain ⟨hss, hs⟩ := List.append_inj' h rfl
    exact ⟨hss.symm, (List.singleton_inj.1 hs).symm⟩
  · right
    have hlast : p.writes ++ [.commit] = (ss ++ s :: rest) ++ [last] := by
      simpa [transaction] using h
    obtain ⟨hwrites, -⟩ := List.append_inj' hlast rfl
    exact ⟨rest, by simp [hwrites]⟩

end Payment

namespace SqlStore

open Session

/-! ## Replies that end a transaction -/

/-- The error that a transaction ends with on a reply, unless it goes on. -/
def refusal : Statement → SqlReply → Option DomainError
  | .begin, .failed e => some (.infrastructure ("begin transaction: " ++ e.message))
  | .upsert r, .failed e => some (upsertError r e)
  | .upsert r, .affected 0 => some (.versionConflict r.id r.version)
  | .insertOutbox r, .failed e =>
    some (.infrastructure ("insert outbox event " ++ r.eventType ++ ": " ++ e.message))
  | .commit, .failed e => some (.infrastructure ("commit payment: " ++ e.message))
  | _, _ => none

theorem not_failed_of_granted {p : Payment} {s : Statement} {r : SqlReply}
    (hs : s ∈ p.transaction) (h : refusal s r = none) (e : SqlError) : r ≠ .failed e := by
  rintro rfl
  rcases Payment.mem_transaction hs with rfl | rfl | ⟨row, rfl⟩ | rfl <;> cases h

/-- What a refusal tells apart: a key that is taken, a version that does not follow, and any other
    failure. -/
theorem refusal_cases {s : Statement} {r : SqlReply} {e : DomainError} (h : refusal s r = some e) :
    (∃ f message, s = .upsert f ∧
        r = .failed (.refused uniqueViolation message (some keyConstraint)) ∧
        e = .duplicateKey f.idempotencyKey) ∨
      (∃ f, s = .upsert f ∧ r = .affected 0 ∧ e = .versionConflict f.id f.version) ∨
      ∃ cause detail, r = .failed cause ∧ e = .infrastructure detail := by
  unfold refusal at h
  split at h
  · exact .inr (.inr ⟨_, _, rfl, (Option.some.inj h).symm⟩)
  · next f e' =>
    unfold upsertError at h
    split at h
    · next code message constraint =>
      split at h
      · next hcode =>
        obtain ⟨rfl, rfl⟩ := hcode
        exact .inl ⟨f, message, rfl, rfl, (Option.some.inj h).symm⟩
      · exact .inr (.inr ⟨_, _, rfl, (Option.some.inj h).symm⟩)
    · exact .inr (.inr ⟨_, _, rfl, (Option.some.inj h).symm⟩)
  · next f => exact .inr (.inl ⟨f, rfl, rfl, (Option.some.inj h).symm⟩)
  · exact .inr (.inr ⟨_, _, rfl, (Option.some.inj h).symm⟩)
  · exact .inr (.inr ⟨_, _, rfl, (Option.some.inj h).symm⟩)
  · cases h

/-- Only the write of the payment is refused without a failure. -/
theorem failed_of_refusal {s : Statement} {r : SqlReply} {e : DomainError}
    (h : refusal s r = some e) (hs : ∀ f, s ≠ .upsert f) : ∃ cause, r = .failed cause := by
  rcases refusal_cases h with ⟨f, -, hf, -⟩ | ⟨f, hf, -⟩ | ⟨cause, -, hr, -⟩
  · exact absurd hf (hs f)
  · exact absurd hf (hs f)
  · exact ⟨cause, hr⟩

/-- Sends statements, one after the other, up to the first one that is refused. -/
def sendAll : List Statement → Session (Except DomainError Unit)
  | [] => return .ok ()
  | s :: ss => send s fun r => match refusal s r with
    | some e => return .error e
    | none => sendAll ss

theorem sendAll_append (ss ts : List Statement) :
    sendAll (ss ++ ts) = sendAll ss >>= fun
      | .error e => return .error e
      | .ok () => sendAll ts := by
  induction ss with
  | nil => rfl
  | cons s ss ih =>
    refine congrArg (send s) (funext fun r => ?_)
    simp only [List.append_eq]
    cases refusal s r with
    | some e => rfl
    | none => exact ih

theorem upsert_eq_sendAll (r : PaymentFacts) : upsert r = sendAll [.upsert r] := by
  refine congrArg (send _) (funext fun reply => ?_)
  rcases reply with (_ | n) | row | e <;> rfl

theorem insertOutbox_eq_sendAll (rows : List OutboxRow) :
    insertOutbox rows = sendAll (rows.map .insertOutbox) := by
  induction rows with
  | nil => rfl
  | cons row rows ih =>
    refine congrArg (send _) (funext fun reply => ?_)
    cases reply with
    | failed e => rfl
    | affected n => exact ih
    | found r => exact ih

theorem commit_eq_sendAll : execute "commit payment" .commit = sendAll [.commit] := by
  refine congrArg (send _) (funext fun reply => ?_)
  cases reply <;> rfl

theorem write_eq_sendAll (r : PaymentFacts) (rows : List OutboxRow) :
    write r rows = sendAll (.upsert r :: rows.map .insertOutbox ++ [.commit]) := by
  rw [List.cons_append, ← List.singleton_append, sendAll_append, sendAll_append,
    ← upsert_eq_sendAll, ← insertOutbox_eq_sendAll, ← commit_eq_sendAll]
  rfl

/-! ## How far a transaction comes -/

/-- What may become of statements that are sent one after the other: all of them are granted, or one
    is refused and the rest are not sent. -/
inductive Advance : List Statement → List (Statement × SqlReply) → Except DomainError Unit → Prop
  | finished {t : List (Statement × SqlReply)} (hgranted : ∀ x ∈ t, refusal x.1 x.2 = none) :
      Advance (t.map Prod.fst) t (.ok ())
  | stopped {t : List (Statement × SqlReply)} {s : Statement} {r : SqlReply} {e : DomainError}
      (rest : List Statement) (hgranted : ∀ x ∈ t, refusal x.1 x.2 = none)
      (hrefused : refusal s r = some e) :
      Advance (t.map Prod.fst ++ s :: rest) (t ++ [(s, r)]) (.error e)

/-- A statement that is granted comes before the others. -/
theorem Advance.cons {s : Statement} {r : SqlReply} (h : refusal s r = none)
    {ss : List Statement} {t : List (Statement × SqlReply)} {a : Except DomainError Unit}
    (hrest : Advance ss t a) : Advance (s :: ss) ((s, r) :: t) a := by
  have hcons {t : List (Statement × SqlReply)} (ht : ∀ x ∈ t, refusal x.1 x.2 = none) :
      ∀ x ∈ (s, r) :: t, refusal x.1 x.2 = none := List.forall_mem_cons.2 ⟨h, ht⟩
  cases hrest with
  | finished hgranted => exact .finished (hcons hgranted)
  | stopped rest hgranted hrefused => exact .stopped rest (hcons hgranted) hrefused

/-- All that may become of a save. -/
inductive Course (p : Payment) : List (Statement × SqlReply) →
    Except DomainError (List OutboxRow) × Payment → Prop
  | committed {t : List (Statement × SqlReply)} (hsent : t.map Prod.fst = p.transaction)
      (hgranted : ∀ x ∈ t, refusal x.1 x.2 = none) :
      Course p t (.ok p.rows, p.drained)
  /-- No transaction was begun, so that there is nothing to take back. -/
  | unbegun {r : SqlReply} {e : DomainError} (hrefused : refusal .begin r = some e) :
      Course p [(.begin, r)] (.error e, p)
  | undone {t : List (Statement × SqlReply)} {s : Statement} {b r : SqlReply} {e : DomainError}
      {rest : List Statement} (r' : SqlReply)
      (hsent : p.transaction = .begin :: t.map Prod.fst ++ s :: rest)
      (hgranted : ∀ x ∈ (.begin, b) :: t, refusal x.1 x.2 = none)
      (hrefused : refusal s r = some e) :
      Course p ((.begin, b) :: t ++ [(s, r), (.rollback, r')]) (.error e, p)

/-- How a save ends once its transaction has begun. -/
def conclude (p : Payment) :
    Except DomainError Unit → Session (Except DomainError (List OutboxRow) × Payment)
  | .ok () => return (.ok p.rows, p.drained)
  | .error e => do
    let _ ← query .rollback
    return (.error e, p)

theorem save_eq_sendAll (p : Payment) :
    save p = send .begin fun r => match refusal .begin r with
      | some e => return (.error e, p)
      | none => sendAll p.transaction.tail >>= conclude p := by
  have hwrite : write p.facts p.rows = sendAll p.transaction.tail := write_eq_sendAll _ _
  rw [save, p.outboxRows_eq, ← hwrite]
  have hconclude (r : Except DomainError Unit) :
      (match r with
        | .ok () => return (.ok p.rows, p.drained)
        | .error e => do
          let _ ← query .rollback
          return (.error e, p)) = conclude p r := by
    cases r <;> rfl
  refine congrArg (send _) (funext fun r => ?_)
  cases r with
  | failed e => rfl
  | affected n => exact congrArg (Session.bind _) (funext hconclude)
  | found row => exact congrArg (Session.bind _) (funext hconclude)

section

variable {σ : Type} (reply : σ → Statement → SqlReply × σ)

theorem advance_sendAll (ss : List Statement) (d : σ) :
    Advance ss ((sendAll ss).transcript reply d) ((sendAll ss).run reply d).1 := by
  induction ss generalizing d with
  | nil => exact .finished (t := []) (by simp)
  | cons s ss ih =>
    rw [sendAll, transcript, run]
    cases hrefusal : refusal s (reply d s).1 with
    | some e => exact .stopped (t := []) ss (by simp) hrefusal
    | none => exact .cons hrefusal (ih _)

theorem course_save (p : Payment) (d : σ) :
    Course p ((save p).transcript reply d) ((save p).run reply d).1 := by
  rw [save_eq_sendAll, transcript, run]
  cases hbegin : refusal .begin (reply d .begin).1 with
  | some e => exact .unbegun hbegin
  | none =>
    simp only [transcript_bind, run_bind]
    have hadvance := advance_sendAll reply p.transaction.tail (reply d .begin).2
    have hbegun {t : List (Statement × SqlReply)} (ht : ∀ x ∈ t, refusal x.1 x.2 = none) :
        ∀ x ∈ (.begin, (reply d .begin).1) :: t, refusal x.1 x.2 = none :=
      List.forall_mem_cons.2 ⟨hbegin, ht⟩
    have htransaction : p.transaction = .begin :: p.transaction.tail := rfl
    -- From here on the rest of the transaction matters only by how far it has come.
    generalize p.transaction.tail = ss at hadvance htransaction ⊢
    generalize (sendAll ss).transcript reply (reply d .begin).2 = t at hadvance ⊢
    generalize (sendAll ss).run reply (reply d .begin).2 = x at hadvance ⊢
    obtain ⟨a, d'⟩ := x
    cases hadvance with
    | @finished t hgranted =>
      have hcourse := Course.committed (t := (.begin, _) :: t) htransaction.symm (hbegun hgranted)
      simpa [conclude] using hcourse
    | stopped rest hgranted hrefused =>
      have hcourse := Course.undone (reply d' .rollback).1 htransaction (hbegun hgranted) hrefused
      simpa [conclude, transcript_bind, run_bind] using hcourse

end

/-! ## What the replies decide -/

variable {p left : Payment} {t : List (Statement × SqlReply)}
  {answer : Except DomainError (List OutboxRow)}

theorem Course.error_inv {e : DomainError} (h : Course p t (.error e, left)) :
    ∃ x ∈ t, x.1 ∈ p.transaction ∧ refusal x.1 x.2 = some e := by
  cases h with
  | unbegun hrefused => exact ⟨_, List.mem_singleton_self _, List.mem_cons_self, hrefused⟩
  | undone r' hsent hgranted hrefused =>
    refine ⟨_, List.mem_append_right _ List.mem_cons_self, ?_, hrefused⟩
    rw [hsent]
    exact List.mem_append_right _ List.mem_cons_self

/-- A reply that is a refusal decides the answer. -/
theorem Course.answer_eq (h : Course p t (answer, left)) {x : Statement × SqlReply} (hx : x ∈ t)
    {e : DomainError} (hrefusal : refusal x.1 x.2 = some e) : answer = .error e := by
  cases h with
  | committed hsent hgranted =>
    rw [hgranted x hx] at hrefusal
    cases hrefusal
  | unbegun hrefused =>
    cases List.mem_singleton.1 hx
    rw [hrefused] at hrefusal
    cases hrefusal
    rfl
  | undone r' hsent hgranted hrefused =>
    rcases List.mem_append.1 hx with hx | hx
    · rw [hgranted x hx] at hrefusal
      cases hrefusal
    · rcases List.mem_cons.1 hx with rfl | hx
      · rw [hrefused] at hrefusal
        cases hrefusal
        rfl
      · cases List.mem_singleton.1 hx
        cases hrefusal

/-- The statement was sent, and its reply was not a failure. -/
def Succeeded (t : List (Statement × SqlReply)) (s : Statement) : Prop :=
  ∃ r, (s, r) ∈ t ∧ ∀ e, r ≠ .failed e

theorem Course.sent (h : Course p t (answer, left)) : ∃ ss, ss <+: p.transaction ∧
    (t.map Prod.fst = ss ∨ t.map Prod.fst = ss ++ [.rollback]) := by
  cases h with
  | committed hsent hgranted => exact ⟨_, List.prefix_refl _, .inl hsent⟩
  | unbegun hrefused => exact ⟨[.begin], ⟨_, rfl⟩, .inl rfl⟩
  | @undone t s b r e rest r' hsent hgranted hrefused =>
    refine ⟨.begin :: t.map Prod.fst ++ [s], ⟨rest, ?_⟩, .inr ?_⟩
    · simp [hsent]
    · simp

/-- The statements before the one that a transaction stops at hold no commit. -/
theorem commit_not_mem_split {ss rest : List Statement} {s : Statement}
    (h : p.transaction = ss ++ s :: rest) : .commit ∉ ss := by
  intro hmem
  rcases Payment.transaction_split h with ⟨rfl, -⟩ | hcut
  · exact p.commit_not_mem_writes hmem
  · exact p.commit_not_mem_writes (hcut.subset (List.mem_append_left _ hmem))

/-- A commit that is answered well is the end of a save that is answered well. -/
theorem Course.committed_iff (h : Course p t (answer, left)) :
    Succeeded t .commit ↔ answer = .ok p.rows := by
  cases h with
  | committed hsent hgranted =>
    refine iff_of_true ?_ rfl
    have hmem : .commit ∈ p.transaction := List.mem_append_right _ List.mem_cons_self
    obtain ⟨⟨s, r⟩, hr, rfl⟩ := List.mem_map.1 (hsent ▸ hmem)
    exact ⟨r, hr, not_failed_of_granted hmem (hgranted _ hr)⟩
  | unbegun hrefused =>
    refine iff_of_false ?_ (by simp)
    rintro ⟨r, hr, -⟩
    cases List.mem_singleton.1 hr
  | @undone t s b reply e rest r' hsent hgranted hrefused =>
    refine iff_of_false ?_ (by simp)
    rintro ⟨r, hr, hworks⟩
    -- Only the statement that was refused could be a commit, and then its reply was a failure.
    rcases List.mem_append.1 hr with hr | hr
    · exact commit_not_mem_split hsent (List.mem_map_of_mem (f := Prod.fst) hr)
    · rcases List.mem_cons.1 hr with heq | hr
      · cases heq
        obtain ⟨cause, rfl⟩ := failed_of_refusal hrefused (by simp)
        exact hworks cause rfl
      · cases List.mem_singleton.1 hr

theorem Course.rollback_iff (h : Course p t (answer, left)) :
    .rollback ∈ t.map Prod.fst ↔ Succeeded t .begin ∧ ¬ Succeeded t .commit := by
  rw [h.committed_iff]
  cases h with
  | committed hsent hgranted =>
    refine iff_of_false ?_ (by simp)
    rw [hsent]
    intro hmem
    rcases Payment.mem_transaction hmem with h | h | ⟨row, h⟩ | h <;> cases h
  | @unbegun r e hrefused =>
    refine iff_of_false (by simp) ?_
    rintro ⟨⟨r', hr', hworks⟩, -⟩
    cases List.mem_singleton.1 hr'
    obtain ⟨cause, rfl⟩ := failed_of_refusal hrefused (by simp)
    exact hworks cause rfl
  | @undone t s b r e rest r' hsent hgranted hrefused =>
    refine iff_of_true (by simp) ⟨⟨b, by simp, ?_⟩, by simp⟩
    exact not_failed_of_granted (p := p) List.mem_cons_self (hgranted _ List.mem_cons_self)

theorem Course.writes_succeeded (h : Course p t (answer, left))
    (hcommit : .commit ∈ t.map Prod.fst) :
    ∃ before reply after, t = before ++ (.commit, reply) :: after ∧
      before.map Prod.fst = p.writes ∧ (∀ x ∈ before, ∀ e, x.2 ≠ .failed e) ∧
      (.upsert p.facts, .affected 0) ∉ before := by
  have hgood {before : List (Statement × SqlReply)} (hsent : before.map Prod.fst = p.writes)
      (hgranted : ∀ x ∈ before, refusal x.1 x.2 = none) :
      (∀ x ∈ before, ∀ e, x.2 ≠ .failed e) ∧ (.upsert p.facts, .affected 0) ∉ before := by
    refine ⟨fun x hx => not_failed_of_granted (p := p) ?_ (hgranted x hx), fun hx => ?_⟩
    · exact List.mem_append_left _ (hsent ▸ List.mem_map_of_mem hx)
    · cases hgranted _ hx
  cases h with
  | committed hsent hgranted =>
    obtain ⟨before, last, rfl, hbefore, hlast⟩ := List.map_eq_append_iff.1 hsent
    obtain ⟨⟨s, reply⟩, rfl, rfl⟩ := List.map_eq_singleton_iff.1 hlast
    exact ⟨before, reply, [], rfl, hbefore,
      hgood hbefore fun x hx => hgranted x (List.mem_append_left _ hx)⟩
  | unbegun hrefused =>
    cases List.mem_singleton.1 hcommit
  | @undone t s b r e rest r' hsent hgranted hrefused =>
    -- A commit is sent only as the statement that the transaction stops at.
    rcases Payment.transaction_split hsent with ⟨hwrites, rfl⟩ | hcut
    · exact ⟨(.begin, b) :: t, r, [(.rollback, r')], rfl, hwrites, hgood hwrites hgranted⟩
    · have hmem : .commit ∈ (.begin :: t.map Prod.fst ++ [s]) := by simpa using hcommit
      exact absurd (hcut.subset hmem) p.commit_not_mem_writes

theorem Course.ok_iff (h : Course p t (answer, left)) (rows : List OutboxRow) :
    answer = .ok rows ↔ rows = p.rows ∧ Succeeded t .commit := by
  rw [h.committed_iff]
  constructor
  · rintro rfl
    cases h
    exact ⟨rfl, rfl⟩
  · rintro ⟨rfl, hok⟩
    exact hok

theorem Course.duplicateKey_iff (h : Course p t (answer, left)) (key : String) :
    answer = .error (.duplicateKey key) ↔ key = p.facts.idempotencyKey ∧ ∃ message,
      (.upsert p.facts, .failed (.refused uniqueViolation message (some keyConstraint))) ∈ t := by
  constructor
  · rintro rfl
    obtain ⟨⟨s, r⟩, hx, hmem, hrefusal⟩ := h.error_inv
    rcases refusal_cases hrefusal with
      ⟨f, message, rfl, rfl, heq⟩ | ⟨f, -, -, heq⟩ | ⟨cause, detail, -, heq⟩
    · cases Payment.upsert_mem_transaction hmem
      exact ⟨DomainError.duplicateKey.inj heq, message, hx⟩
    · cases heq
    · cases heq
  · rintro ⟨rfl, message, hx⟩
    exact h.answer_eq hx rfl

theorem Course.versionConflict_iff (h : Course p t (answer, left)) (id : Uuid) (version : Int) :
    answer = .error (.versionConflict id version) ↔
      id = p.facts.id ∧ version = p.facts.version ∧ (.upsert p.facts, .affected 0) ∈ t := by
  constructor
  · rintro rfl
    obtain ⟨⟨s, r⟩, hx, hmem, hrefusal⟩ := h.error_inv
    rcases refusal_cases hrefusal with
      ⟨f, -, -, -, heq⟩ | ⟨f, rfl, rfl, heq⟩ | ⟨cause, detail, -, heq⟩
    · cases heq
    · cases Payment.upsert_mem_transaction hmem
      obtain ⟨rfl, rfl⟩ := DomainError.versionConflict.inj heq
      exact ⟨rfl, rfl, hx⟩
    · cases heq
  · rintro ⟨rfl, rfl, hx⟩
    exact h.answer_eq hx rfl

theorem Course.failure (h : Course p t (answer, left)) {e : DomainError}
    (hanswer : answer = .error e) : e = .duplicateKey p.facts.idempotencyKey ∨
      e = .versionConflict p.facts.id p.facts.version ∨
      ∃ s ∈ p.transaction, ∃ cause detail, (s, .failed cause) ∈ t ∧
        refusal s (.failed cause) = some e ∧ e = .infrastructure detail := by
  subst hanswer
  obtain ⟨⟨s, r⟩, hx, hmem, hrefusal⟩ := h.error_inv
  rcases refusal_cases hrefusal with
    ⟨f, message, rfl, -, rfl⟩ | ⟨f, rfl, -, rfl⟩ | ⟨cause, detail, rfl, rfl⟩
  · cases Payment.upsert_mem_transaction hmem
    exact .inl rfl
  · cases Payment.upsert_mem_transaction hmem
    exact .inr (.inl rfl)
  · exact .inr (.inr ⟨s, hmem, cause, detail, hx, hrefusal, rfl⟩)

theorem Course.drained (h : Course p t (answer, left)) {rows : List OutboxRow}
    (hok : answer = .ok rows) : left = p.drained := by
  cases h with
  | committed => rfl
  | unbegun => cases hok
  | undone => cases hok

theorem Course.kept (h : Course p t (answer, left)) {e : DomainError}
    (herror : answer = .error e) : left = p := by
  cases h with
  | committed => cases herror
  | unbegun => rfl
  | undone => rfl

/-- A payment and its events are written together or not at all: how the transcript of a save, its
    answer and the payment that it leaves hang together. -/
structure AllOrNothing (p : Payment) (t : List (Statement × SqlReply))
    (answer : Except DomainError (List OutboxRow)) (left : Payment) : Prop where
  /-- A beginning of the transaction is sent, and then a rollback or nothing more. -/
  sent : ∃ ss, ss <+: p.transaction ∧
    (t.map Prod.fst = ss ∨ t.map Prod.fst = ss ++ [.rollback])
  /-- A transaction that has begun is rolled back unless it was committed. -/
  rollback : .rollback ∈ t.map Prod.fst ↔ Succeeded t .begin ∧ ¬ Succeeded t .commit
  /-- Every write has succeeded before the commit is sent. -/
  commit : .commit ∈ t.map Prod.fst → ∃ before reply after,
    t = before ++ (.commit, reply) :: after ∧ before.map Prod.fst = p.writes ∧
      (∀ x ∈ before, ∀ e, x.2 ≠ .failed e) ∧ (.upsert p.facts, .affected 0) ∉ before
  ok : ∀ rows, answer = .ok rows ↔ rows = p.rows ∧ Succeeded t .commit
  duplicate : ∀ key, answer = .error (.duplicateKey key) ↔
    key = p.facts.idempotencyKey ∧ ∃ message,
      (.upsert p.facts, .failed (.refused "23505" message (some "payments_idempotency_key_unique")))
        ∈ t
  conflict : ∀ id version, answer = .error (.versionConflict id version) ↔
    id = p.facts.id ∧ version = p.facts.version ∧ (.upsert p.facts, .affected 0) ∈ t
  /-- Any other failure is one of the infrastructure, and tells of a statement that failed. -/
  failure : ∀ e, answer = .error e → e = .duplicateKey p.facts.idempotencyKey ∨
    e = .versionConflict p.facts.id p.facts.version ∨
    ∃ s ∈ p.transaction, ∃ cause detail, (s, .failed cause) ∈ t ∧
      refusal s (.failed cause) = some e ∧ e = .infrastructure detail
  drained : ∀ rows, answer = .ok rows → left = p.drained
  kept : ∀ e, answer = .error e → left = p

/-- A save is all or nothing, whatever the database replies. -/
theorem save_all_or_nothing (p : Payment) {σ : Type} (reply : σ → Statement → SqlReply × σ)
    (d : σ) :
    p.transaction.map Statement.values =
        [] ::
        [.id p.facts.id, .text p.facts.orderId, .text p.facts.customerId,
          .int p.facts.amount.amount, .text p.facts.amount.currency, .text p.facts.status.name,
          .text p.facts.providerRef, .text p.facts.failureReason, .text p.facts.idempotencyKey,
          .time p.facts.createdAt, .time p.facts.updatedAt, .int p.facts.version] ::
        p.pending.map (fun e => [.id e.paymentId, .text e.kind.name, .json e.toJson]) ++ [[]] ∧
      AllOrNothing p ((save p).transcript reply d) ((save p).run reply d).1.1
        ((save p).run reply d).1.2 := by
  have hvalues : (p.rows.map Statement.insertOutbox).map Statement.values =
      p.pending.map (fun e => [.id e.paymentId, .text e.kind.name, .json e.toJson]) := by
    simp only [Payment.rows, List.map_map]
    rfl
  refine ⟨?_, ?_⟩
  · rw [Payment.transaction, Payment.writes, List.map_append, List.map_cons, List.map_cons, hvalues]
    rfl
  have hcourse := course_save reply p d
  exact
    { sent := hcourse.sent
      rollback := hcourse.rollback_iff
      commit := hcourse.writes_succeeded
      ok := hcourse.ok_iff
      duplicate := hcourse.duplicateKey_iff
      conflict := hcourse.versionConflict_iff
      failure := fun e => hcourse.failure
      drained := fun rows => hcourse.drained
      kept := fun e => hcourse.kept }

end SqlStore

end PayOnce
