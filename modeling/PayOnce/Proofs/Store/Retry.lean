import PayOnce.Proofs.Store.Versions
/-!
Saves that fail and are tried again. A save that is refused leaves the payment in hand as it is, so
its holder may go on moving it and save it later. As long as nobody else writes the payment, the
save that is accepted at last writes all that has happened since the one before it, as one version.
-/

namespace PayOnce

/-! ## Saves that are refused -/

/-- A save that is answered by an error leaves the payment as it is. The store has counted the call,
    and that is all. -/
theorem MemoryStore.save_error {s t : MemoryStore} {p q : Payment} {e : DomainError}
    (h : s.save p = (.error e, q, t)) : q = p ∧ t = s.refused := by
  rcases s.save_cases p with ⟨-, -, hsave⟩ | ⟨e', -, hsave⟩ | ⟨-, hsave⟩
  · cases hsave.symm.trans h
  · cases hsave.symm.trans h
    exact ⟨rfl, rfl⟩
  · cases hsave.symm.trans h
    exact ⟨rfl, rfl⟩

theorem MemoryStore.findId?_save (s : MemoryStore) (p : Payment) (id : Uuid) :
    (s.save p).2.2.findId? id =
      if p.id = id ∧ (s.save p).1.isOk then some p.facts else s.findId? id := by
  rcases s.save_cases p with ⟨-, -, hsave⟩ | ⟨e, -, hsave⟩ | ⟨-, hsave⟩
  · simp [hsave, findId?_written, Except.isOk, Except.toBool]
  · simp [hsave, Except.isOk, Except.toBool]
    rfl
  · simp [hsave, Except.isOk, Except.toBool]
    rfl

namespace Desk

/-! ## Writers -/

/-- Would the store take the payment in hand with a number, as the payment with an id? -/
def takes (k : Desk) (id : Uuid) (n : Nat) : Bool :=
  match k.hands[n]? with
  | none => false
  | some p => p.id == id && (k.store.save p).1.isOk

/-- Does a deed write the payment with an id? -/
def writes (k : Desk) (id : Uuid) : Deed → Bool
  | .save n => k.takes id n
  | .saveUnheard n _ => k.takes id n
  | _ => false

/-- Deeds none of which writes the payment with an id. -/
def Quiet (id : Uuid) (k : Desk) : List Deed → Prop
  | [] => True
  | d :: ds => k.writes id d = false ∧ Quiet id (k.perform d) ds

instance (id : Uuid) (k : Desk) (ds : List Deed) : Decidable (k.Quiet id ds) :=
  match ds with
  | [] => isTrue trivial
  | d :: ds =>
    have : Decidable (Quiet id (k.perform d) ds) := instDecidableQuiet id (k.perform d) ds
    inferInstanceAs (Decidable (k.writes id d = false ∧ Quiet id (k.perform d) ds))

/-- A save that does not write the payment with an id leaves it as it is stored. -/
theorem findId?_of_takes {k : Desk} {id : Uuid} {n : Nat} {p : Payment}
    (hp : k.hands[n]? = some p) (h : k.takes id n = false) :
    (k.store.save p).2.2.findId? id = k.store.findId? id := by
  rw [MemoryStore.findId?_save, if_neg]
  rintro ⟨hid, hok⟩
  simp [takes, hp, hid, hok] at h

theorem findId?_perform {k : Desk} {id : Uuid} {d : Deed} (h : k.writes id d = false) :
    (k.perform d).store.findId? id = k.store.findId? id := by
  cases d with
  | create d id' now =>
    simp only [perform]
    split <;> rfl
  | loadId id' =>
    simp only [perform, MemoryStore.findById]
    cases k.store.findId? id' <;> rfl
  | loadKey key =>
    simp only [perform, MemoryStore.findByKey]
    cases k.store.findKey? key <;> rfl
  | move n m now =>
    simp only [perform]
    split
    · rfl
    · split <;> rfl
  | save n =>
    simp only [perform]
    cases hp : k.hands[n]? with
    | none => rfl
    | some p =>
      have hfind := findId?_of_takes hp h
      simp only
      split
      · next hsave =>
        rw [hsave] at hfind
        exact hfind
      · next hsave =>
        rw [hsave] at hfind
        exact hfind
  | saveUnheard n drains =>
    simp only [perform]
    cases hp : k.hands[n]? with
    | none => rfl
    | some p => exact findId?_of_takes hp h
  | outbox fails => rfl

/-! ## Between two saves -/

/-- Since the payment in hand with a number was stored as some record, nobody has written it, and
    the payment is that record changed by its moves since. The outbox still tells of it what it told
    then. -/
structure Awaits (n : Nat) (r : PaymentFacts) (told : List OutboxRow) (k : Desk) : Prop where
  sound : k.Sound
  stored : k.store.findId? r.id = some r
  hand : ∃ p, k.hands[n]? = some p ∧ (Payment.ofFacts r).moves (movesSince n k.log) = .ok p
  outbox : k.store.outbox.filter (·.aggregateId == r.id) = told

/-- A payment that may be written is not stored yet as it is. -/
theorem id_ne_of_mayWrite {s : MemoryStore} {p : Payment} {r : PaymentFacts}
    (hfind : s.findId? r.id = some r) (hmay : s.mayWrite p.facts = .ok ())
    (hsame : (s.written p).findId? r.id = some r) : p.id ≠ r.id := by
  intro hid
  rw [MemoryStore.findId?_written, if_pos hid] at hsame
  cases hsame
  have hversion := (MemoryStore.mayWrite_stored_iff hfind).1 hmay
  omega

/-- Payments with different ids are in different hands. -/
theorem ne_of_id_ne {hands : List Payment} {n m : Nat} {p q : Payment} (hp : hands[n]? = some p)
    (hq : hands[m]? = some q) (hne : p.id ≠ q.id) : m ≠ n := by
  rintro rfl
  cases hp.symm.trans hq
  exact hne rfl

theorem Outcome.awaits {k k' : Desk} {d : Deed} (h : k.Outcome d k') {n : Nat} {r : PaymentFacts}
    {told : List OutboxRow} (hk : k.Awaits n r told)
    (hsame : k'.store.findId? r.id = k.store.findId? r.id) : k'.Awaits n r told := by
  have hsound := h.sound hk.sound
  have hstored := hsame.trans hk.stored
  obtain ⟨p, hp, hmoves⟩ := hk.hand
  have hid : p.id = r.id := (Payment.follows_moves hmoves).origin.id
  have hn : n < k.hands.length := (List.getElem?_eq_some_iff.1 hp).1
  cases h with
  | idle hpayments houtbox hfails =>
    exact ⟨hsound, hstored, ⟨p, hp, hmoves⟩, houtbox ▸ hk.outbox⟩
  | created =>
    refine ⟨hsound, hstored, ⟨p, ?_, hmoves⟩, hk.outbox⟩
    exact (List.getElem?_append_left hn).trans hp
  | received hpayments houtbox hfails hr =>
    refine ⟨hsound, hstored, ⟨p, ?_, ?_⟩, houtbox ▸ hk.outbox⟩
    · exact (List.getElem?_append_left hn).trans hp
    · rw [← hmoves]
      exact congrArg _ (if_neg (Nat.ne_of_gt hn))
  | @moved m mv now p' q hp' hmove =>
    refine ⟨hsound, hstored, ?_, hk.outbox⟩
    by_cases hm : m = n
    · subst hm
      cases hp.symm.trans hp'
      refine ⟨q, List.getElem?_set_self hn, ?_⟩
      have hsince : movesSince m (.moved m mv now :: k.log) = movesSince m k.log ++ [(mv, now)] :=
        if_pos rfl
      rw [hsince]
      exact Payment.moves_concat hmoves hmove
    · refine ⟨p, (List.getElem?_set_ne hm).trans hp, ?_⟩
      rw [← hmoves]
      exact congrArg _ (if_neg hm)
  | @saved m p' hp' hmay =>
    have hfits := hk.sound.hands p' (List.mem_of_getElem? hp')
    have hne := id_ne_of_mayWrite hk.stored hmay hstored
    have hm := ne_of_id_ne hp hp' (hid.trans_ne hne.symm)
    refine ⟨hsound, hstored, ⟨p, ?_, ?_⟩, ?_⟩
    · exact (List.getElem?_set_ne hm).trans hp
    · rw [← hmoves]
      exact congrArg _ (if_neg hm)
    · exact (hfits.filter_outbox_written hk.sound.store hmay hne).trans hk.outbox
  | @unheard m drains p' hp' hmay =>
    have hfits := hk.sound.hands p' (List.mem_of_getElem? hp')
    have hne := id_ne_of_mayWrite hk.stored hmay hstored
    have hm := ne_of_id_ne hp hp' (hid.trans_ne hne.symm)
    refine ⟨hsound, hstored, ⟨p, ?_, hmoves⟩, ?_⟩
    · cases drains with
      | false => exact hp
      | true => exact (List.getElem?_set_ne hm).trans hp
    · exact (hfits.filter_outbox_written hk.sound.store hmay hne).trans hk.outbox

theorem Awaits.run {n : Nat} {r : PaymentFacts} {told : List OutboxRow} {ds : List Deed} {k : Desk}
    (hk : k.Awaits n r told) (hquiet : Quiet r.id k ds) :
    (ds.foldl perform k).Awaits n r told := by
  induction ds generalizing k with
  | nil => exact hk
  | cons d ds ih =>
    obtain ⟨hd, hds⟩ := hquiet
    exact ih ((k.perform_outcome d).awaits hk (findId?_perform hd)) hds

theorem Sound.awaits_saved {k : Desk} (hk : k.Sound) {n : Nat} {p q : Payment}
    {rows : List OutboxRow} {s : MemoryStore} (hp : k.hands[n]? = some p)
    (hsave : k.store.save p = (.ok rows, q, s)) :
    (k.perform (.save n)).Awaits n p.facts (s.outbox.filter (·.aggregateId == p.id)) := by
  have hsound := hk.perform (.save n)
  have hn : n < k.hands.length := (List.getElem?_eq_some_iff.1 hp).1
  rcases k.store.save_cases p with ⟨-, -, heq⟩ | ⟨e, -, heq⟩ | ⟨-, heq⟩
  · cases heq.symm.trans hsave
    have hperform : k.perform (.save n) =
        { k with
          store := k.store.written p
          hands := k.hands.set n p.drained
          log := .saved n p.facts :: k.log } := by
      simp only [Desk.perform, hp, hsave]
      rfl
    rw [hperform] at hsound ⊢
    refine ⟨hsound, ?_, ⟨p.drained, List.getElem?_set_self hn, ?_⟩, rfl⟩
    · exact (MemoryStore.findId?_written _ _ _).trans (if_pos rfl)
    · have hsince : movesSince n (.saved n p.facts :: k.log) = [] := if_pos rfl
      rw [hsince]
      rfl
  · cases heq.symm.trans hsave
  · cases heq.symm.trans hsave

/-! ## The save that is tried again -/

theorem Awaits.save_eq {n : Nat} {r : PaymentFacts} {told : List OutboxRow} {k : Desk}
    (hk : k.Awaits n r told) :
    ∃ p, k.hands[n]? = some p ∧
      (movesSince n k.log ≠ [] → p.facts.version = r.version + 1) ∧
      p.rows = (movesSince n k.log).map (fun m => (m.1.event r.id m.2).row) ∧
      (k.store.written p).findId? r.id = some p.facts ∧
      k.store.save p =
        if movesSince n k.log = [] then
          (.error (.versionConflict r.id r.version), p, k.store.refused)
        else if k.store.outboxFails then
          (.error (.infrastructure "insert outbox event: simulated failure"), p, k.store.refused)
        else (.ok p.rows, p.drained, k.store.written p) := by
  obtain ⟨p, hp, hmoves⟩ := hk.hand
  have hid : p.id = r.id := (Payment.follows_moves hmoves).origin.id
  have hpending : p.pending = (movesSince n k.log).map fun m => m.1.event r.id m.2 :=
    Payment.pending_moves hmoves
  refine ⟨p, hp, Payment.version_moves hmoves, ?_, ?_, ?_⟩
  · rw [Payment.rows, hpending, List.map_map]
    rfl
  · exact (MemoryStore.findId?_written _ _ _).trans (if_pos hid)
  · rw [MemoryStore.save_eq]
    by_cases hnone : movesSince n k.log = []
    · rw [hnone] at hmoves
      cases hmoves
      -- Without any move the version is still the stored one.
      have hversion : r.version ≠ r.version + 1 := by omega
      have hmay : k.store.mayWrite (Payment.ofFacts r).facts =
          .error (.versionConflict r.id r.version) :=
        MemoryStore.mayWrite_conflict hk.stored hversion
      rw [if_pos hnone, hmay]
    · have hversion := Payment.version_moves hmoves hnone
      have hmay : k.store.mayWrite p.facts = .ok () := by
        refine (MemoryStore.mayWrite_stored_iff ?_).2 hversion
        exact (congrArg _ hid).trans hk.stored
      have hevents : p.pending ≠ [] := by
        rw [hpending]
        simpa using hnone
      rw [if_neg hnone, hmay]
      simp [hevents]

/-- A failed save costs nothing. It leaves the tables and the payment as they are. So once a payment
    in hand has been saved, whatever happens to it or to other payments, be it moves, failed saves
    or a failing outbox: as long as nobody writes the payment, the next save of it that succeeds
    raises the stored version by one, and it appends and returns the rows of the moves made since,
    each one once and in order. It succeeds as soon as there is a move and the outbox works. -/
theorem retry_repairs :
    (∀ (s t : MemoryStore) (p q : Payment) (e : DomainError), s.save p = (.error e, q, t) →
      q = p ∧ t.payments = s.payments ∧ t.outbox = s.outbox) ∧
    ∀ (deeds mix : List Deed) (n : Nat) (p q : Payment) (rows : List OutboxRow) (s : MemoryStore),
      (run deeds).hands[n]? = some p → (run deeds).store.save p = (.ok rows, q, s) →
      Quiet p.id (run (deeds ++ [.save n])) mix →
      let k := run (deeds ++ [.save n] ++ mix)
      let since := movesSince n k.log
      k.store.findId? p.id = some p.facts ∧
      k.store.outbox.filter (·.aggregateId == p.id) = s.outbox.filter (·.aggregateId == p.id) ∧
      ∃ p', k.hands[n]? = some p' ∧
        (since ≠ [] → p'.facts.version = p.facts.version + 1) ∧
        p'.rows = since.map (fun m => (m.1.event p.id m.2).row) ∧
        (k.store.written p').findId? p.id = some p'.facts ∧
        (k.store.written p').outbox = k.store.outbox ++ p'.rows ∧
        k.store.save p' =
          if since = [] then (.error (.versionConflict p.id p.facts.version), p', k.store.refused)
          else if k.store.outboxFails then
            (.error (.infrastructure "insert outbox event: simulated failure"), p',
              k.store.refused)
          else (.ok p'.rows, p'.drained, k.store.written p') := by
  refine ⟨?_, ?_⟩
  · intro s t p q e h
    obtain ⟨rfl, rfl⟩ := MemoryStore.save_error h
    exact ⟨rfl, rfl, rfl⟩
  · intro deeds mix n p q rows s hp hsave hquiet k since
    have hfirst := (sound_run deeds).awaits_saved hp hsave
    have hk : k.Awaits n p.facts (s.outbox.filter (·.aggregateId == p.id)) := by
      rw [run_append] at hquiet
      unfold k
      rw [run_append, run_append]
      exact hfirst.run hquiet
    obtain ⟨p', hp', hversion, hrows, hstored, hretry⟩ := hk.save_eq
    exact ⟨hk.stored, hk.outbox, p', hp', hversion, hrows, hstored, rfl, hretry⟩

/-- Someone else loads a payment that was saved. While the outbox fails, the payment is taken up and
    completed, and it cannot be saved. -/
def failingOutbox : List Deed :=
  [.loadId ⟨1⟩, .outbox true, .move 0 (.start "ref-1") ⟨11, 0⟩, .save 0, .move 0 .complete ⟨12, 0⟩,
    .save 0, .save 1, .outbox false]

/-- Once the outbox works again, one save writes both events, as version 2. -/
theorem retry_repairs_failingOutbox :
    let draft : Draft := ⟨"order-1", "customer-1", ⟨100, "USD"⟩, "key-1"⟩
    let k := run ([.create draft ⟨1⟩ ⟨10, 0⟩] ++ [.save 0] ++ failingOutbox)
    ∃ p, k.hands[0]? = some p ∧ p.facts.version = 2 ∧
      p.rows.map (·.eventType) = ["payment.processing_started", "payment.completed"] ∧
      k.store.save p = (.ok p.rows, p.drained, k.store.written p) := by
  intro draft k
  have hfirst : (run [.create draft ⟨1⟩ ⟨10, 0⟩]).store.save (draft.issue ⟨1⟩ ⟨10, 0⟩) = _ :=
    MemoryStore.save_of_mayWrite (by decide +kernel) (by decide +kernel)
  obtain ⟨-, -, p, hp, hversion, hrows, -, -, hsave⟩ :=
    retry_repairs.2 [.create draft ⟨1⟩ ⟨10, 0⟩] failingOutbox 0 _ _ _ _ (by decide +kernel) hfirst
      (by decide +kernel)
  have hmoved : movesSince 0 k.log ≠ [] := by decide +kernel
  rw [if_neg hmoved, if_neg (by decide +kernel)] at hsave
  refine ⟨p, hp, hversion hmoved, ?_, hsave⟩
  rw [hrows]
  decide +kernel

end Desk

end PayOnce
