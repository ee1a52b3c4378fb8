import PayOnce.Proofs.Store.Desk
import Mathlib.Data.List.Chain
/-!
Optimistic concurrency over one store. What has happened at a desk tells of every payment in hand
whether it has a rival, that is, whether someone else has saved its payment since it was loaded or
last saved. Without a rival it is the stored record changed by its own moves, and a save of it is
accepted; with one it builds upon an older version, and a save of it is refused.
-/

namespace PayOnce

/-! ## Ways through the status machine -/

/-- The way along the edges that ends at a status. -/
def Status.trail : Status → List Status
  | pending => [pending]
  | processing => [pending, processing]
  | completed => [pending, processing, completed]
  | failed => [pending, processing, failed]

namespace Status

theorem trail_of_edge {s t : Status} (h : Edge s t) : t.trail = s.trail ++ [t] := by
  unfold Edge at h
  cases s <;> cases t <;> simp [canMoveTo] at h <;> rfl

theorem isChain_trail (s : Status) : s.trail.IsChain Edge := by
  cases s <;> simp [trail, Edge, canMoveTo]

theorem head?_trail (s : Status) : s.trail.head? = some pending := by
  cases s <;> rfl

theorem getLast?_trail (s : Status) : s.trail.getLast? = some s := by
  cases s <;> rfl

/-- A status lies at the end of its trail. -/
theorem singleton_sublist_trail (s : Status) : [s].Sublist s.trail := by
  cases s <;> decide

/-- The trail to a status goes on to whatever is reached from there. -/
theorem trail_sublist {s t : Status} (h : Relation.TransGen Edge s t) :
    (s.trail ++ [t]).Sublist t.trail := by
  -- By induction on the last edge: the trail to its start is part of the trail to its end.
  induction h with
  | single hedge => rw [trail_of_edge hedge]
  | @tail b c hsteps hedge ih =>
    have hsub : s.trail.Sublist b.trail := (List.sublist_append_left _ _).trans ih
    rw [trail_of_edge hedge]
    exact hsub.append_right [c]

/-- Of statuses on a trail each one is reached from the one before it. -/
theorem isChain_of_sublist_trail {ss : List Status} {s : Status} (h : ss.Sublist s.trail) :
    ss.IsChain (Relation.TransGen Edge) := by
  -- What is reached by edges is reached from any status before it, also if some are left out.
  have hsteps : s.trail.IsChain (Relation.TransGen Edge) :=
    (isChain_trail s).imp fun _ _ hedge => .single hedge
  exact hsteps.sublist h

end Status

namespace Desk

/-! ## What the log tells -/

/-- The payment in hand with a number has no rival for an id: since it was loaded or last saved, no
    other hand has saved the payment with the id. -/
def unrivalled (n : Nat) (id : Uuid) : List Happening → Bool
  | [] => true
  | .loaded m :: log => if m = n then true else unrivalled n id log
  | .moved _ _ _ :: log => unrivalled n id log
  | .saved m r :: log =>
    if m = n then true else if r.id = id then false else unrivalled n id log

/-- The moves that the payment in hand with a number has made since it was created, loaded or last
    saved, the oldest first. -/
def movesSince (n : Nat) : List Happening → List (Move × Instant)
  | [] => []
  | .loaded m :: log => if m = n then [] else movesSince n log
  | .moved m mv now :: log =>
    if m = n then movesSince n log ++ [(mv, now)] else movesSince n log
  | .saved m _ :: log => if m = n then [] else movesSince n log

/-- The records of a payment that were stored, the latest first. -/
def records (id : Uuid) : List Happening → List PaymentFacts
  | [] => []
  | .loaded _ :: log => records id log
  | .moved _ _ _ :: log => records id log
  | .saved _ r :: log => if r.id = id then r :: records id log else records id log

/-- A hand that nothing has happened to has made no moves. -/
theorem movesSince_fresh {n : Nat} {log : List Happening} (h : ∀ x ∈ log, x.hand ≠ n) :
    movesSince n log = [] := by
  induction log with
  | nil => rfl
  | cons x log ih =>
    have hx := h x List.mem_cons_self
    have hrest := ih fun y hy => h y (List.mem_cons_of_mem _ hy)
    cases x <;> exact (if_neg hx).trans hrest

/-- A hand that nothing has happened to has a rival as soon as its payment is stored. -/
theorem unrivalled_fresh {n : Nat} {id : Uuid} {log : List Happening}
    (h : ∀ x ∈ log, x.hand ≠ n) : unrivalled n id log = (records id log).isEmpty := by
  induction log with
  | nil => rfl
  | cons x log ih =>
    have hx := h x List.mem_cons_self
    have hrest := ih fun y hy => h y (List.mem_cons_of_mem _ hy)
    -- Only a save makes a rival, and every save leaves a record.
    cases x with
    | loaded m => exact (if_neg hx).trans hrest
    | moved m mv now => exact hrest
    | saved m r =>
      refine (if_neg hx).trans ?_
      by_cases hid : r.id = id
      · simp [records, hid]
      · simpa [records, hid] using hrest

/-! ## Desks whose saves are all answered -/

/-- A payment in hand is its draft or the stored record changed by its moves since, unless it has a
    rival and builds upon an older version. -/
def Follower (k : Desk) (n : Nat) (p : Payment) : Prop :=
  match k.store.findId? p.id with
  | none => ∃ d id now, (Draft.issue d id now).moves (movesSince n k.log) = .ok p
  | some r =>
    if unrivalled n p.id k.log then (Payment.ofFacts r).moves (movesSince n k.log) = .ok p
    else p.base < r.version

/-- The stored statuses of a payment lie on the trail to the present one. -/
def OnTrail (rs : List PaymentFacts) : Prop :=
  ∀ r, rs.head? = some r → (rs.reverse.map (·.status)).Sublist r.status.trail

/-- The log tells the whole story. -/
structure Traced (k : Desk) : Prop where
  sound : k.Sound
  works : k.store.outboxFails = false
  log : ∀ x ∈ k.log, x.hand < k.hands.length
  records : ∀ id, (records id k.log).head? = k.store.findId? id
  trail : ∀ id, OnTrail (Desk.records id k.log)
  hands : ∀ n p, k.hands[n]? = some p → k.Follower n p

theorem traced_empty : Traced {} :=
  ⟨sound_empty, rfl, by simp, fun _ => rfl, by simp [OnTrail, Desk.records], by simp⟩

/-! ## Deeds keep the log true -/

/-- What a payment in hand follows depends on its stored record and on its own part of the log. -/
theorem Follower.congr {k k' : Desk} {n : Nat} {p : Payment} (h : k.Follower n p)
    (hfind : k'.store.findId? p.id = k.store.findId? p.id)
    (hmoves : movesSince n k'.log = movesSince n k.log)
    (hrival : unrivalled n p.id k'.log = unrivalled n p.id k.log) : k'.Follower n p := by
  unfold Follower at h ⊢
  rw [hfind, hmoves, hrival]
  exact h

/-- A payment in hand that may be written over its stored record is that record, moved. -/
theorem Follower.of_mayWrite {k : Desk} {n : Nat} {p : Payment} {r : PaymentFacts}
    (h : k.Follower n p) (hfind : k.store.findId? p.id = some r)
    (hmay : k.store.mayWrite p.facts = .ok ()) :
    p.facts.version = r.version + 1 ∧
      (Payment.ofFacts r).moves (movesSince n k.log) = .ok p := by
  have hversion := (MemoryStore.mayWrite_stored_iff hfind).1 hmay
  refine ⟨hversion, ?_⟩
  unfold Follower at h
  simp only [hfind] at h
  split at h
  · exact h
  · -- A payment that builds upon an older version cannot be one ahead of the stored one.
    have := p.base_bounds
    omega

theorem Traced.fresh {k : Desk} (h : k.Traced) : ∀ x ∈ k.log, x.hand ≠ k.hands.length :=
  fun x hx => Nat.ne_of_lt (h.log x hx)

theorem Traced.follower_issue {k : Desk} (h : k.Traced) (d : Draft) (id : Uuid) (now : Instant) :
    k.Follower k.hands.length (d.issue id now) := by
  have hmoves := movesSince_fresh h.fresh
  unfold Follower
  cases hfind : k.store.findId? (d.issue id now).id with
  | none =>
    refine ⟨d, id, now, ?_⟩
    rw [hmoves]
    rfl
  | some r =>
    -- Someone has stored a payment with the id, so the new one comes too late.
    have hstored : (Desk.records (d.issue id now).id k.log).isEmpty = false := by
      have hhead := (h.records _).trans hfind
      cases hrecords : Desk.records (d.issue id now).id k.log with
      | nil =>
        rw [hrecords] at hhead
        cases hhead
      | cons x xs => rfl
    have hversion := h.sound.store.versions r (MemoryStore.mem_of_findId? hfind).1
    simp only [unrivalled_fresh h.fresh, hstored, Payment.base_issue]
    rw [if_neg Bool.false_ne_true]
    omega

/-- A hand with a payment as it was loaded or last saved follows the stored record. -/
theorem follower_ofFacts {k : Desk} {n : Nat} {r : PaymentFacts}
    (hfind : k.store.findId? r.id = some r) (hmoves : movesSince n k.log = [])
    (hrival : unrivalled n r.id k.log = true) : k.Follower n (.ofFacts r) := by
  have hid : k.store.findId? (Payment.ofFacts r).id = some r := hfind
  have hfree : unrivalled n (Payment.ofFacts r).id k.log = true := hrival
  unfold Follower
  simp only [hid, hfree, hmoves]
  rfl

theorem Follower.move {k : Desk} {n : Nat} {p q : Payment} (h : k.Follower n p) {m : Move}
    {now : Instant} (hmove : p.move m now = .ok q) :
    Follower { k with hands := k.hands.set n q, log := .moved n m now :: k.log } n q := by
  have hid : q.id = p.id := (Payment.follows_move hmove).origin.id
  have hsince : movesSince n (.moved n m now :: k.log) = movesSince n k.log ++ [(m, now)] :=
    if_pos rfl
  unfold Follower at h ⊢
  simp only [hid, hsince]
  cases hfind : k.store.findId? p.id with
  | none =>
    simp only [hfind] at h
    obtain ⟨d, id, at_, hmoves⟩ := h
    exact ⟨d, id, at_, Payment.moves_concat hmoves hmove⟩
  | some r =>
    simp only [hfind] at h
    have hlog : unrivalled n p.id (.moved n m now :: k.log) = unrivalled n p.id k.log := rfl
    simp only [hlog]
    split
    · next hrival =>
      rw [if_pos hrival] at h
      exact Payment.moves_concat h hmove
    · next hrival =>
      rw [if_neg hrival] at h
      rw [Payment.base_move hmove]
      exact h

/-- Whoever else holds the payment that is saved has a rival now. -/
theorem Traced.follower_written {k : Desk} (hk : k.Traced) {n m : Nat} {p q : Payment}
    (hp : k.hands[n]? = some p) (hq : k.hands[m]? = some q) (hne : n ≠ m)
    (hmay : k.store.mayWrite p.facts = .ok ()) :
    Follower { k with
      store := k.store.written p
      hands := k.hands.set n p.drained
      log := .saved n p.facts :: k.log } m q := by
  have hfits := hk.sound.hands
  by_cases hid : q.id = p.id
  · have hold := (hfits q (List.mem_of_getElem? hq)).base_lt (hfits p (List.mem_of_getElem? hp))
      hmay hid
    have hrival : unrivalled m q.id (.saved n p.facts :: k.log) = false :=
      (if_neg hne).trans (if_pos hid.symm)
    unfold Follower
    simp only [MemoryStore.findId?_written, if_pos hid.symm, hrival]
    exact hold
  · refine (hk.hands m q hq).congr ?_ (if_neg hne) ?_
    · exact (MemoryStore.findId?_written _ _ _).trans (if_neg (Ne.symm hid))
    · exact (if_neg hne).trans (if_neg (Ne.symm hid))

theorem Traced.trail_written {k : Desk} (hk : k.Traced) {n : Nat} {p : Payment}
    (hp : k.hands[n]? = some p) (hmay : k.store.mayWrite p.facts = .ok ()) :
    OnTrail (p.facts :: Desk.records p.id k.log) := by
  have hhead := hk.records p.id
  have htrail := hk.trail p.id
  rintro _ ⟨⟩
  cases hrecords : Desk.records p.id k.log with
  | nil => exact Status.singleton_sublist_trail _
  | cons r rs =>
    rw [hrecords] at hhead htrail
    obtain ⟨hversion, hmoves⟩ := (hk.hands n p hp).of_mayWrite hhead.symm hmay
    -- Without any move the version would not have gone up.
    have hmoved : movesSince n k.log ≠ [] := by
      intro hnone
      rw [hnone] at hmoves
      cases hmoves
      simp only [Payment.ofFacts] at hversion
      omega
    have hsteps : Relation.TransGen Status.Edge r.status p.status :=
      Payment.transGen_moves hmoves hmoved
    rw [List.reverse_cons, List.map_append]
    exact ((htrail r rfl).append_right _).trans (Status.trail_sublist hsteps)

theorem Outcome.traced {k k' : Desk} {d : Deed} (h : k.Outcome d k') (hd : d.Plain)
    (hk : k.Traced) : k'.Traced := by
  have hsound := h.sound hk.sound
  have hworks := (h.works hd).trans hk.works
  cases h with
  | @idle d s hpayments houtbox hfails =>
    have hfind := MemoryStore.findId?_congr hpayments
    refine ⟨hsound, hworks, hk.log, fun id => (hk.records id).trans (hfind id).symm, hk.trail, ?_⟩
    exact fun n p hp => (hk.hands n p hp).congr (hfind _) rfl rfl
  | @created d id now =>
    refine ⟨hsound, hworks, ?_, hk.records, hk.trail, ?_⟩
    · intro x hx
      have := hk.log x hx
      simp only [List.length_append]
      omega
    · intro n p hp
      rcases getElem?_append_singleton hp with ⟨-, hp⟩ | ⟨rfl, rfl⟩
      · exact (hk.hands n p hp).congr rfl rfl rfl
      · exact (hk.follower_issue d id now).congr rfl rfl rfl
  | @received d s r hpayments houtbox hfails hr =>
    have hfind := MemoryStore.findId?_congr hpayments
    refine ⟨hsound, hworks, ?_, fun id => (hk.records id).trans (hfind id).symm,
      hk.trail, ?_⟩
    · intro x hx
      simp only [receive, List.length_append]
      rcases List.mem_cons.1 hx with rfl | hx
      · exact Nat.lt_succ_self _
      · have := hk.log x hx
        omega
    · intro n p hp
      rcases getElem?_append_singleton hp with ⟨hn, hp⟩ | ⟨rfl, rfl⟩
      · exact (hk.hands n p hp).congr (hfind _) (if_neg hn.symm) (if_neg hn.symm)
      · refine follower_ofFacts ?_ (if_pos rfl) (if_pos rfl)
        exact (hfind r.id).trans (hk.sound.store.findId?_of_mem hr)
  | @moved n m now p q hp hmove =>
    refine ⟨hsound, hworks, ?_, hk.records, hk.trail, ?_⟩
    · intro x hx
      simp only [List.length_set]
      rcases List.mem_cons.1 hx with rfl | hx
      · exact (List.getElem?_eq_some_iff.1 hp).1
      · exact hk.log x hx
    · intro n' p' hp'
      rcases getElem?_set_cases hp' with ⟨hne, hp'⟩ | ⟨rfl, rfl⟩
      · exact (hk.hands n' p' hp').congr rfl (if_neg hne) rfl
      · exact (hk.hands n' p hp).move hmove
  | @saved n p hp hmay =>
    refine ⟨hsound, hworks, ?_, ?_, ?_, ?_⟩
    · intro x hx
      simp only [List.length_set]
      rcases List.mem_cons.1 hx with rfl | hx
      · exact (List.getElem?_eq_some_iff.1 hp).1
      · exact hk.log x hx
    · intro id
      simp only [Desk.records, MemoryStore.findId?_written]
      by_cases hid : p.facts.id = id
      · rw [if_pos hid]
        exact (if_pos hid).symm
      · rw [if_neg hid]
        exact (hk.records id).trans (if_neg hid).symm
    · intro id
      simp only [Desk.records]
      by_cases hid : p.facts.id = id
      · rw [if_pos hid, ← hid]
        exact hk.trail_written hp hmay
      · rw [if_neg hid]
        exact hk.trail id
    · -- Whoever else holds the payment falls behind; the saver goes on from the new record.
      intro m q hq
      rcases getElem?_set_cases hq with ⟨hne, hq⟩ | ⟨rfl, rfl⟩
      · exact hk.follower_written hp hq hne hmay
      · refine follower_ofFacts ?_ (if_pos rfl) (if_pos rfl)
        exact (MemoryStore.findId?_written _ _ _).trans (if_pos rfl)
  | unheard => exact absurd hd id

theorem traced_run {deeds : List Deed} (h : ∀ d ∈ deeds, d.Plain) : (run deeds).Traced := by
  induction deeds using List.reverseRecOn with
  | nil => exact traced_empty
  | append_singleton ds d ih =>
    rw [run_append]
    have hds := ih fun x hx => h x (List.mem_append_left _ hx)
    have hd := h d (List.mem_append_right _ (List.mem_singleton.2 rfl))
    exact (perform_outcome _ d).traced hd hds

/-! ## Saves are exact -/

theorem Traced.save_eq {k : Desk} (hk : k.Traced) {n : Nat} {p : Payment} {r : PaymentFacts}
    (hp : k.hands[n]? = some p) (hfind : k.store.findId? p.id = some r) (hevents : p.pending ≠ []) :
    k.store.save p = if unrivalled n p.id k.log
      then (.ok p.rows, p.drained, k.store.written p)
      else (.error (.versionConflict p.id p.facts.version), p, k.store.refused) := by
  have hfollows := hk.hands n p hp
  unfold Follower at hfollows
  simp only [hfind] at hfollows
  by_cases hrival : unrivalled n p.id k.log = true
  · rw [if_pos hrival] at hfollows ⊢
    -- Events are buffered by moves alone, and the first move raises the version.
    have hmoved : movesSince n k.log ≠ [] := by
      intro hnone
      rw [hnone] at hfollows
      cases hfollows
      exact hevents rfl
    have hversion := Payment.version_moves hfollows hmoved
    exact MemoryStore.save_of_mayWrite ((MemoryStore.mayWrite_stored_iff hfind).2 hversion) hk.works
  · rw [if_neg hrival] at hfollows ⊢
    have hbounds := p.base_bounds
    have hversion : p.facts.version ≠ r.version + 1 := by omega
    exact MemoryStore.save_of_refusal (MemoryStore.mayWrite_conflict hfind hversion)

theorem Traced.of_saved {k : Desk} (hk : k.Traced) {n : Nat} {p q : Payment} {r : PaymentFacts}
    {rows : List OutboxRow} {s : MemoryStore} (hp : k.hands[n]? = some p)
    (hfind : k.store.findId? p.id = some r) (hsave : k.store.save p = (.ok rows, q, s)) :
    p.facts.version = r.version + 1 ∧
      (Payment.ofFacts r).moves (movesSince n k.log) = .ok p ∧ s.findId? p.id = some p.facts := by
  rcases k.store.save_cases p with ⟨hmay, -, heq⟩ | ⟨e, -, heq⟩ | ⟨-, heq⟩
  · obtain ⟨hversion, hmoves⟩ := (hk.hands n p hp).of_mayWrite hfind hmay
    cases heq.symm.trans hsave
    exact ⟨hversion, hmoves, (MemoryStore.findId?_written _ _ _).trans (if_pos rfl)⟩
  · cases heq.symm.trans hsave
  · cases heq.symm.trans hsave

/-- The statuses that are stored lie on the trail to the stored one, each reached from the one
    before it. -/
theorem Traced.path {k : Desk} (hk : k.Traced) (id : Uuid) :
    ((Desk.records id k.log).reverse.map (·.status)).IsChain (Relation.TransGen Status.Edge) ∧
      ∃ path : List Status, path.IsChain Status.Edge ∧ path.head? = some .pending ∧
        (∀ r, k.store.findId? id = some r → path.getLast? = some r.status) ∧
        ((Desk.records id k.log).reverse.map (·.status)).Sublist path := by
  have htrail := hk.trail id
  rw [← hk.records id]
  cases hrecords : Desk.records id k.log with
  | nil =>
    refine ⟨.nil, Status.pending.trail, Status.isChain_trail _, rfl, ?_,
      List.nil_sublist _⟩
    rintro _ ⟨⟩
  | cons r rs =>
    rw [hrecords] at htrail
    refine ⟨Status.isChain_of_sublist_trail (htrail r rfl), r.status.trail,
      Status.isChain_trail _, Status.head?_trail _, ?_, htrail r rfl⟩
    rintro _ ⟨⟩
    exact Status.getLast?_trail _

/-- Where every save is answered and the outbox works, optimistic concurrency is exact. A payment in
    hand with events, whose payment is stored, is saved if it has no rival, and is refused as a
    version conflict else. A save that is accepted raises the stored version by one and stores the
    record before it, changed by the moves made since. So each status that is stored is reached from
    the one stored before it, by as many edges of the status machine as there were moves, and all of
    them lie on a path along the edges that leads to the stored one. -/
theorem save_exact {deeds : List Deed} (h : ∀ d ∈ deeds, d.Plain) :
    (∀ n p r, (run deeds).hands[n]? = some p → (run deeds).store.findId? p.id = some r →
      p.pending ≠ [] →
        (run deeds).store.save p = if unrivalled n p.id (run deeds).log
          then (.ok p.rows, p.drained, (run deeds).store.written p)
          else (.error (.versionConflict p.id p.facts.version), p, (run deeds).store.refused)) ∧
    (∀ n p r rows q s, (run deeds).hands[n]? = some p → (run deeds).store.findId? p.id = some r →
      (run deeds).store.save p = (.ok rows, q, s) →
        p.facts.version = r.version + 1 ∧
          (Payment.ofFacts r).moves (movesSince n (run deeds).log) = .ok p ∧
          s.findId? p.id = some p.facts) ∧
    ∀ id, (Desk.records id (run deeds).log).head? = (run deeds).store.findId? id ∧
      ((Desk.records id (run deeds).log).reverse.map (·.status)).IsChain
        (Relation.TransGen Status.Edge) ∧
      ∃ path : List Status, path.IsChain Status.Edge ∧ path.head? = some .pending ∧
        (∀ r, (run deeds).store.findId? id = some r → path.getLast? = some r.status) ∧
        ((Desk.records id (run deeds).log).reverse.map (·.status)).Sublist path := by
  have hk := traced_run h
  refine ⟨?_, ?_, ?_⟩
  · intro n p r hp hfind hevents
    exact hk.save_eq hp hfind hevents
  · intro n p r rows q s hp hfind hsave
    exact hk.of_saved hp hfind hsave
  · intro id
    exact ⟨hk.records id, hk.path id⟩

/-- Two holders load one payment and take it up; the first one saves it, and completes it then. -/
def twoHolders : List Deed :=
  [.create ⟨"order-1", "customer-1", ⟨100, "USD"⟩, "key-1"⟩ ⟨1⟩ ⟨10, 0⟩, .save 0,
    .loadId ⟨1⟩, .loadKey "key-1", .move 1 (.start "ref-1") ⟨11, 0⟩,
    .move 2 (.start "ref-2") ⟨12, 0⟩, .save 1, .move 1 .complete ⟨13, 0⟩]

/-- The first holder goes on from version 2, and the second one has come too late. -/
theorem save_exact_twoHolders :
    ∃ first second rows s, (run twoHolders).hands[1]? = some first ∧
      (run twoHolders).hands[2]? = some second ∧
      (run twoHolders).store.save first = (.ok rows, first.drained, s) ∧
      s.findId? ⟨1⟩ = some first.facts ∧ first.facts.version = 3 ∧
      (run twoHolders).store.save second =
        (.error (.versionConflict ⟨1⟩ 2), second, (run twoHolders).store.refused) := by
  obtain ⟨hsave, haccepted, -⟩ := save_exact (by decide : ∀ d ∈ twoHolders, d.Plain)
  let first := (run twoHolders).hands.get ⟨1, by decide +kernel⟩
  let second := (run twoHolders).hands.get ⟨2, by decide +kernel⟩
  let r := (run twoHolders).store.payments.get ⟨0, by decide +kernel⟩
  have hfirst : (run twoHolders).hands[1]? = some first := by decide +kernel
  have hsecond : (run twoHolders).hands[2]? = some second := by decide +kernel
  have hr : (run twoHolders).store.findId? first.id = some r := by decide +kernel
  have hr' : (run twoHolders).store.findId? second.id = some r := by decide +kernel
  have hwin := hsave 1 first r hfirst hr (by decide +kernel)
  have hlose := hsave 2 second r hsecond hr' (by decide +kernel)
  rw [if_pos (by decide +kernel)] at hwin
  rw [if_neg (by decide +kernel)] at hlose
  obtain ⟨hversion, -, hstored⟩ := haccepted 1 first r _ _ _ hfirst hr hwin
  exact ⟨first, second, _, _, hfirst, hsecond, hwin, hstored, hversion, hlose⟩

/-- One holder takes a payment up and completes it before it is saved again. -/
def twoMoves : List Deed :=
  [.create ⟨"order-1", "customer-1", ⟨100, "USD"⟩, "key-1"⟩ ⟨1⟩ ⟨10, 0⟩, .save 0,
    .move 0 (.start "ref-1") ⟨11, 0⟩, .move 0 .complete ⟨12, 0⟩, .save 0]

/-- The stored statuses alone need not be a path along the edges: a save stores the outcome of all
    moves since the last one, and no status between. -/
theorem status_between_saves_skipped :
    ¬ ∀ deeds : List Deed, (∀ d ∈ deeds, d.Plain) → ∀ id,
      ((Desk.records id (run deeds).log).reverse.map (·.status)).IsChain Status.Edge := by
  intro hall
  have hpath := hall twoMoves (by decide) ⟨1⟩
  have hstored : (Desk.records ⟨1⟩ (run twoMoves).log).reverse.map (·.status)
      = [.pending, .completed] := by decide +kernel
  rw [hstored, List.isChain_cons_cons] at hpath
  exact absurd (show Status.canMoveTo .pending .completed = true from hpath.1) (by decide)

end Desk

end PayOnce
