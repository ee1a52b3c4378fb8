import PayOnce.Proofs.Store.Refinement
/-!
Commits whose answers are lost. Whoever saves cannot tell whether the transaction took effect, and
keeps the payment with its events. If it did, the payment is behind its own record from then on:
no later save of it is accepted, so that no event is written twice.
-/

namespace PayOnce

/-! ## One entry for every kind of event -/

/-- No kind of event occurs twice in the history of a payment. -/
theorem PaymentFacts.Told.kinds {r : PaymentFacts} {es : List PaymentEvent} (h : r.Told es) :
    (es.map (·.kind.name)).Nodup := by
  obtain ⟨startedAt, rfl, -⟩ := h
  unfold history
  cases r.status <;> simp [PaymentEvent.kind, EventKind.name]

namespace MemoryStore

/-- No two entries of the outbox tell of the same kind of event of one payment. -/
theorem Consistent.subjects {s : MemoryStore} (h : s.Consistent) :
    (s.tables.outbox.map fun o => (o.aggregateId, o.eventType)).Nodup := by
  rw [List.nodup_iff_count_le_one]
  rintro ⟨id, kind⟩
  have hcount : (s.tables.outbox.map fun o => (o.aggregateId, o.eventType)).count (id, kind) =
      (s.outbox.filter (·.aggregateId == id)).countP (·.eventType == kind) := by
    rw [List.count, List.countP_map, tables, List.countP_map, List.countP_filter]
    refine congrArg (List.countP · s.outbox) (funext fun o => ?_)
    exact Bool.and_comm (o.aggregateId == id) (o.eventType == kind)
  rw [hcount]
  cases hstored : s.findId? id with
  | none =>
    simp [h.filter_outbox_of_none hstored]
  | some r =>
    obtain ⟨hr, rfl⟩ := mem_of_findId? hstored
    obtain ⟨es, htold, hes⟩ := h.told r hr
    have hkinds := List.nodup_iff_count_le_one.1 htold.kinds kind
    rw [List.count, List.countP_map] at hkinds
    rw [hes, List.countP_map]
    exact hkinds

/-! ## Payments behind their record -/

/-- A payment in hand builds upon a version that has been overwritten. -/
def Behind (s : MemoryStore) (p : Payment) : Prop :=
  ∃ r, s.findId? p.id = some r ∧ p.base < r.version

/-- A payment that is behind is never written. -/
theorem Behind.mayWrite {s : MemoryStore} {p : Payment} (h : s.Behind p) :
    s.mayWrite p.facts = .error (.versionConflict p.facts.id p.facts.version) := by
  obtain ⟨r, hfind, hbase⟩ := h
  have hbounds := p.base_bounds
  exact mayWrite_conflict hfind (by omega)

theorem Behind.of_payments {s t : MemoryStore} {p : Payment} (h : s.Behind p)
    (hpayments : t.payments = s.payments) : t.Behind p := by
  obtain ⟨r, hfind, hbase⟩ := h
  exact ⟨r, (findId?_congr hpayments _).trans hfind, hbase⟩

theorem Behind.move {s : MemoryStore} {p q : Payment} (h : s.Behind p) {m : Move} {now : Instant}
    (hmove : p.move m now = .ok q) : s.Behind q := by
  obtain ⟨r, hfind, hbase⟩ := h
  have hid : q.id = p.id := (Payment.follows_move hmove).origin.id
  exact ⟨r, hid ▸ hfind, (Payment.base_move hmove).symm ▸ hbase⟩

/-- Further writes leave a payment behind. -/
theorem Behind.written {s : MemoryStore} {p q : Payment} (h : s.Behind q) (hq : s.Fits q)
    (hp : s.Fits p) (hmay : s.mayWrite p.facts = .ok ()) : (s.written p).Behind q := by
  obtain ⟨r, hfind, hbase⟩ := h
  unfold Behind
  rw [findId?_written]
  by_cases hid : p.id = q.id
  · exact ⟨p.facts, if_pos hid, hq.base_lt hp hmay hid.symm⟩
  · exact ⟨r, (if_neg hid).trans hfind, hbase⟩

/-- A payment that is written without being drained is behind its own record. -/
theorem behind_written {s : MemoryStore} {p : Payment} (hp : s.Fits p)
    (hmay : s.mayWrite p.facts = .ok ()) : (s.written p).Behind p := by
  refine ⟨p.facts, ?_, hp.base_lt hp hmay rfl⟩
  rw [findId?_written]
  exact if_pos rfl

end MemoryStore

namespace Desk

/-- The payment in a hand is behind its record. -/
def BehindAt (k : Desk) (n : Nat) : Prop :=
  ∃ p, k.hands[n]? = some p ∧ k.store.Behind p

/-- A payment in hand that is behind stays so, whatever is done. -/
theorem Outcome.behindAt {k k' : Desk} {d : Deed} (h : k.Outcome d k') (hk : k.Sound) {n : Nat}
    (hn : k.BehindAt n) : k'.BehindAt n := by
  obtain ⟨p, hp, hbehind⟩ := hn
  have hlt : n < k.hands.length := (List.getElem?_eq_some_iff.1 hp).1
  have hfits {m : Nat} {q : Payment} (hq : k.hands[m]? = some q) : k.store.Fits q :=
    hk.hands q (List.mem_of_getElem? hq)
  -- The payment that is written is another one, since the one that is behind may not be.
  have hother {m : Nat} {q : Payment} (hq : k.hands[m]? = some q)
      (hmay : k.store.mayWrite q.facts = .ok ()) : m ≠ n := by
    rintro rfl
    cases hp.symm.trans hq
    cases hbehind.mayWrite.symm.trans hmay
  cases h with
  | idle hpayments => exact ⟨p, hp, hbehind.of_payments hpayments⟩
  | created => exact ⟨p, (List.getElem?_append_left hlt).trans hp, hbehind⟩
  | received hpayments =>
    exact ⟨p, (List.getElem?_append_left hlt).trans hp, hbehind.of_payments hpayments⟩
  | @moved m move now q q' hq hmove =>
    by_cases hm : m = n
    · subst hm
      cases hp.symm.trans hq
      exact ⟨q', List.getElem?_set_self hlt, hbehind.move hmove⟩
    · exact ⟨p, (List.getElem?_set_ne hm).trans hp, hbehind⟩
  | saved hq hmay =>
    exact ⟨p, (List.getElem?_set_ne (hother hq hmay)).trans hp,
      hbehind.written (hfits hp) (hfits hq) hmay⟩
  | @unheard m drains q hq hmay =>
    refine ⟨p, ?_, hbehind.written (hfits hp) (hfits hq) hmay⟩
    cases drains with
    | false => exact hp
    | true => exact (List.getElem?_set_ne (hother hq hmay)).trans hp

/-- Nothing leaves the outbox. -/
theorem Outcome.outbox {k k' : Desk} {d : Deed} (h : k.Outcome d k') :
    k.store.outbox <+: k'.store.outbox := by
  cases h with
  | idle _ houtbox => exact houtbox ▸ List.prefix_rfl
  | created => exact List.prefix_rfl
  | received _ houtbox => exact houtbox ▸ List.prefix_rfl
  | moved => exact List.prefix_rfl
  | saved => exact List.prefix_append _ _
  | unheard => exact List.prefix_append _ _

end Desk

namespace Bench

variable {σ : Type}

/-- Runs errands, each with the fate that a commit meets meanwhile. -/
def after (answer : Fate → σ → (c : StoreCall) → c.Reply × σ) (b : Bench σ)
    (xs : List (Errand × Fate)) : Bench σ :=
  xs.foldl (fun b x => (b.perform (answer x.2) x.1).2) b

theorem after_append (answer : Fate → σ → (c : StoreCall) → c.Reply × σ) (b : Bench σ)
    (xs ys : List (Errand × Fate)) :
    b.after answer (xs ++ ys) = (b.after answer xs).after answer ys :=
  List.foldl_append

theorem Sound.after {b : Bench MemoryStore} (h : b.Sound) (xs : List (Errand × Fate)) :
    (b.after MemoryStore.answer xs).Sound := by
  induction xs generalizing b with
  | nil => exact h
  | cons x xs ih => exact ih (h.perform x.2 x.1)

theorem after_atDatabase {b : Bench MemoryStore} (h : b.Sound) (xs : List (Errand × Fate)) :
    b.atDatabase.after Database.answer xs = (b.after MemoryStore.answer xs).atDatabase := by
  induction xs generalizing b with
  | nil => rfl
  | cons x xs ih =>
    calc b.atDatabase.after Database.answer (x :: xs)
        = (b.atDatabase.perform (Database.answer x.2) x.1).2.after Database.answer xs := rfl
      _ = (b.perform (MemoryStore.answer x.2) x.1).2.atDatabase.after Database.answer xs := by
        rw [perform_atDatabase x.2 h]
      _ = _ := ih (h.perform x.2 x.1)

theorem Sound.outbox_after {b : Bench MemoryStore} (h : b.Sound) (xs : List (Errand × Fate)) :
    b.store.outbox <+: (b.after MemoryStore.answer xs).store.outbox := by
  induction xs generalizing b with
  | nil => exact List.prefix_rfl
  | cons x xs ih =>
    obtain ⟨d, issued, log, houtcome, -⟩ := perform_outcome x.2 h.works x.1
    exact houtcome.outbox.trans (ih (h.perform x.2 x.1))

theorem Sound.behindAt_after {b : Bench MemoryStore} (h : b.Sound) {n : Nat}
    (hn : b.desk.BehindAt n) (xs : List (Errand × Fate)) :
    (b.after MemoryStore.answer xs).desk.BehindAt n := by
  induction xs generalizing b with
  | nil => exact hn
  | cons x xs ih =>
    obtain ⟨d, issued, log, houtcome, -⟩ := perform_outcome x.2 h.works x.1
    exact ih (h.perform x.2 x.1) (houtcome.behindAt h.desk hn)

/-! ## Saves, heard of and not -/

/-- A save that is heard of has written the payment. -/
theorem Sound.saved {b : Bench MemoryStore} (h : b.Sound) {n : Nat} {fate : Fate}
    {rows : List OutboxRow}
    (hsaved : (b.perform (MemoryStore.answer fate) (.save n)).1 = .saved rows) :
    ∃ p, b.hands[n]? = some p ∧ rows = p.rows ∧ b.store.mayWrite p.facts = .ok () ∧
      (b.perform (MemoryStore.answer fate) (.save n)).2.store = b.store.written p := by
  cases hp : b.hands[n]? with
  | none =>
    rw [perform_save_nothing _ hp] at hsaved
    cases hsaved
  | some p =>
    rcases perform_save fate h.works hp with
      ⟨hmay, hsave⟩ | ⟨took, message, -, -, hsave⟩ | ⟨e, -, hsave⟩
    · rw [hsave] at hsaved ⊢
      cases hsaved
      exact ⟨p, rfl, rfl, hmay, rfl⟩
    · rw [hsave] at hsaved
      cases hsaved
    · rw [hsave] at hsaved
      cases hsaved

/-- A save that changes the data without being heard of leaves the payment behind. -/
theorem Sound.unheard {b : Bench MemoryStore} (h : b.Sound) {n : Nat} {fate : Fate}
    (hunheard : (b.perform (MemoryStore.answer fate) (.save n)).1.isSaved = false)
    (hchanged : (b.perform (MemoryStore.answer fate) (.save n)).2.store.tables ≠ b.store.tables) :
    (b.perform (MemoryStore.answer fate) (.save n)).2.desk.BehindAt n := by
  cases hp : b.hands[n]? with
  | none =>
    rw [perform_save_nothing _ hp] at hchanged
    exact absurd rfl hchanged
  | some p =>
    rcases perform_save fate h.works hp with
      ⟨-, hsave⟩ | ⟨took, message, -, hmay, hsave⟩ | ⟨e, -, hsave⟩
    · rw [hsave] at hunheard
      cases hunheard
    · rw [hsave] at hchanged ⊢
      cases took with
      | false => exact absurd rfl hchanged
      | true =>
        have hfits : b.store.Fits p := h.desk.hands p (List.mem_of_getElem? hp)
        exact ⟨p, hp, MemoryStore.behind_written hfits hmay⟩
    · rw [hsave] at hchanged
      exact absurd rfl hchanged

/-- A payment that is behind conflicts with its record, and nothing changes. -/
theorem Sound.save_behind {b : Bench MemoryStore} (h : b.Sound) {n : Nat} (hn : b.desk.BehindAt n)
    (fate : Fate) : ∃ p, b.hands[n]? = some p ∧
      b.atDatabase.perform (Database.answer fate) (.save n) =
        (.refused (.versionConflict p.facts.id p.facts.version), b.atDatabase) := by
  obtain ⟨p, hp, hbehind⟩ := hn
  refine ⟨p, hp, ?_⟩
  have hmay : b.store.mayWrite p.facts = _ := hbehind.mayWrite
  rw [perform_atDatabase fate h]
  rcases perform_save fate h.works hp with ⟨hok, -⟩ | ⟨-, -, -, hok, -⟩ | ⟨e, herror, hsave⟩
  · cases hmay.symm.trans hok
  · cases hmay.symm.trans hok
  · cases hmay.symm.trans herror
    rw [hsave]
    rfl

/-- Where values are told apart by a key, a key selects its value. -/
theorem filter_eq_singleton {α β : Type} [BEq β] [LawfulBEq β] {f : α → β} {l : List α}
    (h : (l.map f).Nodup) {a : α} (ha : a ∈ l) : l.filter (fun x => f x == f a) = [a] := by
  induction l with
  | nil => cases ha
  | cons x l ih =>
    rw [List.map_cons, List.nodup_cons] at h
    rcases List.mem_cons.1 ha with rfl | ha
    · rw [List.filter_cons_of_pos (by simp), List.filter_eq_nil_iff.2]
      intro y hy heq
      exact h.1 (List.mem_map.2 ⟨y, hy, beq_iff_eq.1 heq⟩)
    · rw [List.filter_cons_of_neg, ih h.2 ha]
      intro heq
      exact h.1 (List.mem_map.2 ⟨a, ha, (beq_iff_eq.1 heq).symm⟩)

/-- Lost answers to commits never duplicate an event. At most one entry tells of each kind of event
    of a payment. Where a save is answered well, each of its events has exactly one entry from then
    on. Where a save takes effect unheard, every later save of that payment in hand conflicts with
    the stored version and changes nothing. -/
theorem lost_commits_never_duplicate (xs : List (Errand × Fate)) :
    let final := Bench.after Database.answer { store := {} } xs
    (final.store.tables.outbox.map fun o => (o.aggregateId, o.eventType)).Nodup ∧
      (∀ ys n fate zs, xs = ys ++ (.save n, fate) :: zs →
        let before := Bench.after Database.answer { store := {} } ys
        ∀ rows, (before.perform (Database.answer fate) (.save n)).1 = .saved rows →
          ∃ p, before.hands[n]? = some p ∧ rows = p.rows ∧ ∀ e ∈ p.pending,
            final.store.tables.outbox.filter
              (fun o => (o.aggregateId, o.eventType) == (e.paymentId, e.kind.name)) =
                [⟨e.paymentId, e.kind.name, e.toJson⟩]) ∧
      (∀ ys n fate zs, xs = ys ++ (.save n, fate) :: zs →
        let before := Bench.after Database.answer { store := {} } ys
        let (notice, next) := before.perform (Database.answer fate) (.save n)
        notice.isSaved = false → next.store ≠ before.store →
          ∃ p, final.hands[n]? = some p ∧ ∀ fate',
            final.perform (Database.answer fate') (.save n) =
              (.refused (.versionConflict p.facts.id p.facts.version), final)) := by
  have hafter (xs : List (Errand × Fate)) : Bench.after Database.answer { store := {} } xs =
      (Bench.after MemoryStore.answer { store := {} } xs).atDatabase :=
    after_atDatabase sound_empty xs
  have hsound (xs : List (Errand × Fate)) :
      (Bench.after MemoryStore.answer { store := {} } xs).Sound := sound_empty.after xs
  have hsubjects := (hsound xs).desk.store.subjects
  simp only [hafter]
  refine ⟨hsubjects, ?_, ?_⟩
  · rintro ys n fate zs rfl rows hsaved
    rw [perform_atDatabase fate (hsound ys)] at hsaved
    obtain ⟨p, hp, rfl, hmay, hstore⟩ := (hsound ys).saved hsaved
    refine ⟨p, hp, rfl, ?_⟩
    intro e he
    -- What the save has written stays in the outbox.
    have hwritten : e.row ∈ ((Bench.after MemoryStore.answer { store := {} } ys).perform
        (MemoryStore.answer fate) (.save n)).2.store.outbox := by
      rw [hstore]
      exact List.mem_append_right _ (List.mem_map_of_mem he)
    have hkept := ((hsound ys).perform fate (.save n)).outbox_after zs
    have hfinal := List.mem_map_of_mem (f := OutboxRow.entry) (hkept.subset hwritten)
    rw [after_append] at hsubjects ⊢
    exact filter_eq_singleton hsubjects hfinal
  · rintro ys n fate zs rfl
    simp only [perform_atDatabase fate (hsound ys)]
    intro hunheard hchanged
    have hbehind := (hsound ys).unheard hunheard
      (fun heq => hchanged (congrArg (Database.mk · .idle) heq))
    have hfinal := ((hsound ys).perform fate (.save n)).behindAt_after hbehind zs
    have hlater := (hsound (ys ++ (.save n, fate) :: zs)).save_behind (n := n)
    rw [after_append] at hlater ⊢
    obtain ⟨p, hp, -⟩ := hlater hfinal .acknowledged
    refine ⟨p, hp, ?_⟩
    intro fate'
    obtain ⟨p', hp', hsave⟩ := hlater hfinal fate'
    cases hp.symm.trans hp'
    exact hsave

/-- The commit of a new payment takes effect, but its answer is lost. The holder moves on and saves
    again, while another one loads the payment and saves a move of its own. -/
def unheardCommit : List (Errand × Fate) :=
  [(.create "order-1" "customer-1" 100 "USD" "key-1" ⟨1⟩ ⟨10, 0⟩, .acknowledged),
    (.save 0, .lost true "connection reset"), (.move 0 (.start "ref-1") ⟨11, 0⟩, .acknowledged),
    (.save 0, .acknowledged), (.loadKey "key-1", .acknowledged),
    (.move 1 (.start "ref-2") ⟨12, 0⟩, .acknowledged), (.save 1, .acknowledged)]

/-- The first holder is refused from then on, and the event of the second one is there once. -/
theorem lost_commits_never_duplicate_unheardCommit :
    let final := Bench.after Database.answer { store := {} } unheardCommit
    final.perform (Database.answer .acknowledged) (.save 0) =
        (.refused (.versionConflict ⟨1⟩ 1), final) ∧
      final.store.tables.outbox.filter
          (fun o => (o.aggregateId, o.eventType) == (⟨1⟩, "payment.processing_started")) =
        [⟨⟨1⟩, "payment.processing_started",
          PaymentEvent.toJson (.processingStarted ⟨1⟩ "ref-2" ⟨12, 0⟩)⟩] := by
  obtain ⟨-, hheard, hunheard⟩ := lost_commits_never_duplicate unheardCommit
  let start (k : Nat) := Bench.after Database.answer { store := {} } (unheardCommit.take k)
  refine ⟨?_, ?_⟩
  · let fate := Fate.lost true "connection reset"
    have hchanged : ((start 1).perform (Database.answer fate) (.save 0)).2.store.tables.payments ≠
        (start 1).store.tables.payments := by decide +kernel
    obtain ⟨p, hp, hsave⟩ := hunheard (unheardCommit.take 1) 0 fate (unheardCommit.drop 2) rfl
      (by decide +kernel) (fun heq => hchanged (congrArg (·.tables.payments) heq))
    have hversion : (Bench.after Database.answer { store := {} } unheardCommit).hands[0]?.map
        (fun p => (p.facts.id, p.facts.version)) = some (⟨1⟩, 1) := by decide +kernel
    rw [hp, Option.map_some, Option.some.injEq, Prod.mk.injEq] at hversion
    rw [hsave .acknowledged, hversion.1, hversion.2]
  · have hsaved :
        ((start 6).perform (Database.answer .acknowledged) (.save 1)).1.isSaved = true := by
      decide +kernel
    obtain ⟨rows, hrows⟩ := Notice.isSaved_iff.1 hsaved
    obtain ⟨p, hp, -, hentries⟩ := hheard (unheardCommit.take 6) 1 .acknowledged [] rfl rows hrows
    have hpending : (start 6).hands[1]?.map (·.pending) =
        some [.processingStarted ⟨1⟩ "ref-2" ⟨12, 0⟩] := by decide +kernel
    rw [hp, Option.map_some, Option.some.injEq] at hpending
    exact hentries _ (hpending ▸ List.mem_singleton_self _)

end Bench

end PayOnce
