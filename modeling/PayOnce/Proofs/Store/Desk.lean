import PayOnce.Proofs.Store.Consistency
import Mathlib.Data.List.Induction
/-!
Payments in hand over one store. Payments are created or loaded, moved, and saved by any number of
holders in any order; a holder may be cut off while a save commits.
-/

namespace PayOnce

/-! ## Places in a list -/

theorem set_of_getElem? {α : Type} {l : List α} {n : Nat} {a : α} (h : l[n]? = some a) :
    l.set n a = l := by
  obtain ⟨hn, rfl⟩ := List.getElem?_eq_some_iff.1 h
  exact List.set_getElem_self hn

/-- What is appended comes last. -/
theorem getElem?_append_singleton {α : Type} {l : List α} {a b : α} {n : Nat}
    (h : (l ++ [a])[n]? = some b) : (n ≠ l.length ∧ l[n]? = some b) ∨ (n = l.length ∧ b = a) := by
  by_cases hn : n = l.length
  · right
    subst hn
    rw [List.getElem?_concat_length] at h
    exact ⟨rfl, (Option.some.inj h).symm⟩
  · left
    refine ⟨hn, ?_⟩
    rw [List.getElem?_append] at h
    split at h
    · exact h
    · have hzero : n - l.length ≠ 0 := by omega
      simp [hzero] at h

theorem getElem?_set_cases {α : Type} {l : List α} {a b : α} {n m : Nat}
    (h : (l.set n a)[m]? = some b) : (n ≠ m ∧ l[m]? = some b) ∨ (m = n ∧ b = a) := by
  rw [List.getElem?_set] at h
  by_cases hm : n = m
  · right
    rw [if_pos hm] at h
    split at h
    · exact ⟨hm.symm, (Option.some.inj h).symm⟩
    · cases h
  · left
    rw [if_neg hm] at h
    exact ⟨hm, h⟩

/-! ## Desks -/

/-- Something that has happened to the payment in hand with a number. -/
inductive Happening
  | loaded (hand : Nat)
  | moved (hand : Nat) (m : Move) (now : Instant)
  /-- A save was answered well; this record is stored now. -/
  | saved (hand : Nat) (r : PaymentFacts)

/-- The hand that something has happened to. -/
def Happening.hand : Happening → Nat
  | loaded n => n
  | moved n _ _ => n
  | saved n _ => n

/-- A store, the payments in hand, the ids handed out for new payments, and what has happened, the
    latest first. -/
structure Desk where
  store : MemoryStore := {}
  hands : List Payment := []
  issued : List Uuid := []
  log : List Happening := []

/-- What a holder of payments may do, and what may be done to the outbox. -/
inductive Deed
  | create (d : Draft) (id : Uuid) (now : Instant)
  | loadId (id : Uuid)
  | loadKey (key : String)
  | move (hand : Nat) (m : Move) (now : Instant)
  | save (hand : Nat)
  /-- A save that commits where it may, but whose answer never comes. The holder is cut off before
      the payment has given its events away, or after. -/
  | saveUnheard (hand : Nat) (drains : Bool)
  /-- From now on the outbox takes rows, or fails. -/
  | outbox (fails : Bool)

/-- Every save is answered, and the outbox works. -/
def Deed.Plain : Deed → Prop
  | saveUnheard _ _ => False
  | outbox _ => False
  | _ => True

instance : DecidablePred Deed.Plain
  | .create _ _ _ => isTrue trivial
  | .loadId _ => isTrue trivial
  | .loadKey _ => isTrue trivial
  | .move _ _ _ => isTrue trivial
  | .save _ => isTrue trivial
  | .saveUnheard _ _ => isFalse id
  | .outbox _ => isFalse id

namespace Desk

/-- Takes a loaded payment in hand. -/
def receive (k : Desk) (store : MemoryStore) (p : Payment) : Desk :=
  { k with store, hands := k.hands ++ [p], log := .loaded k.hands.length :: k.log }

/-- Does a deed. What is refused changes nothing. -/
def perform (k : Desk) : Deed → Desk
  | .create d id now => match d.check with
    | .ok () => { k with hands := k.hands ++ [d.issue id now], issued := id :: k.issued }
    | .error _ => k
  | .loadId id => match k.store.findById id with
    | (.ok p, store) => k.receive store p
    | (.error _, store) => { k with store }
  | .loadKey key => match k.store.findByKey key with
    | (some p, store) => k.receive store p
    | (none, store) => { k with store }
  | .move n m now => match k.hands[n]? with
    | none => k
    | some p => match p.move m now with
      | .ok q => { k with hands := k.hands.set n q, log := .moved n m now :: k.log }
      | .error _ => k
  | .save n => match k.hands[n]? with
    | none => k
    | some p => match k.store.save p with
      | (.ok _, q, store) =>
        { k with store, hands := k.hands.set n q, log := .saved n q.facts :: k.log }
      | (.error _, q, store) => { k with store, hands := k.hands.set n q }
  | .saveUnheard n drains => match k.hands[n]? with
    | none => k
    | some p =>
      let (_, q, store) := k.store.save p
      { k with store, hands := if drains then k.hands.set n q else k.hands }
  | .outbox fails => { k with store := { k.store with outboxFails := fails } }

/-- Does deeds at an empty desk. -/
def run (deeds : List Deed) : Desk :=
  deeds.foldl perform {}

/-! ## What a deed can do -/

/-- All that can come of a deed. -/
inductive Outcome (k : Desk) : Deed → Desk → Prop
  /-- The tables stay as they are. -/
  | idle {d : Deed} {s : MemoryStore} (hpayments : s.payments = k.store.payments)
      (houtbox : s.outbox = k.store.outbox)
      (hfails : s.outboxFails = k.store.outboxFails ∨ d = .outbox s.outboxFails) :
      Outcome k d { k with store := s }
  | created {d : Draft} {id : Uuid} {now : Instant} :
      Outcome k (.create d id now)
        { k with hands := k.hands ++ [d.issue id now], issued := id :: k.issued }
  | received {d : Deed} {s : MemoryStore} {r : PaymentFacts}
      (hpayments : s.payments = k.store.payments)
      (houtbox : s.outbox = k.store.outbox) (hfails : s.outboxFails = k.store.outboxFails)
      (hr : r ∈ k.store.payments) :
      Outcome k d (k.receive s (.ofFacts r))
  | moved {n : Nat} {m : Move} {now : Instant} {p q : Payment} (hp : k.hands[n]? = some p)
      (hmove : p.move m now = .ok q) :
      Outcome k (.move n m now)
        { k with hands := k.hands.set n q, log := .moved n m now :: k.log }
  | saved {n : Nat} {p : Payment} (hp : k.hands[n]? = some p)
      (hmay : k.store.mayWrite p.facts = .ok ()) :
      Outcome k (.save n)
        { k with
          store := k.store.written p
          hands := k.hands.set n p.drained
          log := .saved n p.facts :: k.log }
  | unheard {n : Nat} {drains : Bool} {p : Payment} (hp : k.hands[n]? = some p)
      (hmay : k.store.mayWrite p.facts = .ok ()) :
      Outcome k (.saveUnheard n drains)
        { k with
          store := k.store.written p
          hands := if drains then k.hands.set n p.drained else k.hands }

/-- Nothing changes. -/
theorem Outcome.same (k : Desk) (d : Deed) : k.Outcome d k :=
  .idle (s := k.store) rfl rfl (.inl rfl)

theorem perform_outcome (k : Desk) (d : Deed) : k.Outcome d (k.perform d) := by
  cases d with
  | create d id now =>
    simp only [perform]
    split
    · exact .created
    · exact .same k _
  | loadId id =>
    simp only [perform, MemoryStore.findById]
    cases hfind : k.store.findId? id with
    | none => exact .idle rfl rfl (.inl rfl)
    | some r =>
      exact .received rfl rfl rfl (MemoryStore.mem_of_findId? hfind).1
  | loadKey key =>
    simp only [perform, MemoryStore.findByKey]
    cases hfind : k.store.findKey? key with
    | none => exact .idle rfl rfl (.inl rfl)
    | some r =>
      exact .received rfl rfl rfl (MemoryStore.mem_of_findKey? hfind).1
  | move n m now =>
    simp only [perform]
    cases hp : k.hands[n]? with
    | none => exact .same k _
    | some p =>
      simp only
      cases hmove : p.move m now with
      | error e => exact .same k _
      | ok q => exact .moved hp hmove
  | save n =>
    simp only [perform]
    cases hp : k.hands[n]? with
    | none => exact .same k _
    | some p =>
      simp only
      rcases k.store.save_cases p with ⟨hmay, -, hsave⟩ | ⟨e, -, hsave⟩ | ⟨-, hsave⟩
      · rw [hsave]
        exact .saved hp hmay
      · -- Whoever is refused gets the payment back as it was.
        rw [hsave]
        simp only [set_of_getElem? hp]
        exact .idle rfl rfl (.inl rfl)
      · rw [hsave]
        simp only [set_of_getElem? hp]
        exact .idle rfl rfl (.inl rfl)
  | saveUnheard n drains =>
    simp only [perform]
    cases hp : k.hands[n]? with
    | none => exact .same k _
    | some p =>
      simp only
      rcases k.store.save_cases p with ⟨hmay, -, hsave⟩ | ⟨e, -, hsave⟩ | ⟨-, hsave⟩
      · rw [hsave]
        exact .unheard hp hmay
      · rw [hsave]
        simp only [set_of_getElem? hp, ite_self]
        exact .idle rfl rfl (.inl rfl)
      · rw [hsave]
        simp only [set_of_getElem? hp, ite_self]
        exact .idle rfl rfl (.inl rfl)
  | outbox fails => exact .idle rfl rfl (.inr rfl)

/-! ## Soundness -/

/-- The store is consistent, and every payment in hand fits it. -/
structure Sound (k : Desk) : Prop where
  store : k.store.Consistent
  hands : ∀ p ∈ k.hands, k.store.Fits p

theorem Sound.of_payments {k : Desk} (h : k.Sound) {s : MemoryStore}
    (hpayments : s.payments = k.store.payments) (houtbox : s.outbox = k.store.outbox) :
    Sound { k with store := s } :=
  ⟨h.store.of_tables hpayments houtbox, fun p hp => (h.hands p hp).of_payments hpayments⟩

/-- Another payment that fits may be taken in hand. -/
theorem Sound.append {k k' : Desk} (h : k.Sound) {p : Payment} (hp : k.store.Fits p)
    (hstore : k'.store = k.store) (hhands : k'.hands = k.hands ++ [p]) : k'.Sound := by
  refine ⟨hstore ▸ h.store, ?_⟩
  intro q hq
  rw [hhands] at hq
  rw [hstore]
  rcases List.mem_append.1 hq with hq | hq
  · exact h.hands q hq
  · rw [List.mem_singleton.1 hq]
    exact hp

/-- A payment that fits may be written where it may. -/
theorem Sound.written {k : Desk} (h : k.Sound) {p : Payment} (hp : k.store.Fits p)
    (hmay : k.store.mayWrite p.facts = .ok ()) : Sound { k with store := k.store.written p } :=
  ⟨h.store.written hp hmay, fun q hq => (h.hands q hq).written hp hmay⟩

theorem sound_empty : Sound {} :=
  ⟨MemoryStore.consistent_empty, by simp⟩

/-- A payment in hand may give way to another one that fits. -/
theorem fits_set {s : MemoryStore} {hands : List Payment} {n : Nat} {p : Payment}
    (h : ∀ q ∈ hands, s.Fits q) (hp : s.Fits p) : ∀ q ∈ hands.set n p, s.Fits q := by
  intro q hq
  rcases List.mem_or_eq_of_mem_set hq with hq | rfl
  · exact h q hq
  · exact hp

theorem Outcome.sound {k k' : Desk} {d : Deed} (h : k.Outcome d k') (hk : k.Sound) :
    k'.Sound := by
  cases h with
  | idle hpayments houtbox hfails => exact hk.of_payments hpayments houtbox
  | created => exact hk.append (MemoryStore.fits_issue hk.store _ _ _) rfl rfl
  | received hpayments houtbox hfails hr =>
    have hk' := hk.of_payments hpayments houtbox
    refine hk'.append (MemoryStore.Fits.of_payments ?_ hpayments) rfl rfl
    exact MemoryStore.fits_ofFacts (hk.store.findId?_of_mem hr)
  | @moved n m now p q hp hmove =>
    have hq := (hk.hands p (List.mem_of_getElem? hp)).move hmove
    exact ⟨hk.store, fits_set hk.hands hq⟩
  | @saved n p hp hmay =>
    have hk' := hk.written (hk.hands p (List.mem_of_getElem? hp)) hmay
    exact ⟨hk'.store, fits_set hk'.hands (MemoryStore.fits_drained _ _)⟩
  | @unheard n drains p hp hmay =>
    have hk' := hk.written (hk.hands p (List.mem_of_getElem? hp)) hmay
    -- A payment that still has its events has been overtaken by its own save.
    refine ⟨hk'.store, ?_⟩
    cases drains with
    | false => exact hk'.hands
    | true => exact fits_set hk'.hands (MemoryStore.fits_drained _ _)

theorem Sound.perform {k : Desk} (h : k.Sound) (d : Deed) : (k.perform d).Sound :=
  (k.perform_outcome d).sound h

/-! ## What a deed leaves as it is -/

/-- The outbox keeps working under plain deeds. -/
theorem Outcome.works {k k' : Desk} {d : Deed} (h : k.Outcome d k') (hd : d.Plain) :
    k'.store.outboxFails = k.store.outboxFails := by
  cases h with
  | idle _ _ hfails =>
    rcases hfails with hfails | rfl
    · exact hfails
    · exact absurd hd id
  | created => rfl
  | received _ _ hfails _ => exact hfails
  | moved => rfl
  | saved => rfl
  | unheard => rfl

/-- An id becomes stored only through a hand. -/
theorem Outcome.fresh {k k' : Desk} {d : Deed} (h : k.Outcome d k') {id : Uuid}
    (hid : k.store.findId? id = none) (hhands : ∀ p ∈ k.hands, p.id ≠ id) :
    k'.store.findId? id = none := by
  cases h with
  | idle hpayments => exact (MemoryStore.findId?_congr hpayments id).trans hid
  | created => exact hid
  | received hpayments => exact (MemoryStore.findId?_congr hpayments id).trans hid
  | moved => exact hid
  | saved hp =>
    have hne := hhands _ (List.mem_of_getElem? hp)
    exact (MemoryStore.findId?_written _ _ _).trans ((if_neg hne).trans hid)
  | unheard hp =>
    have hne := hhands _ (List.mem_of_getElem? hp)
    exact (MemoryStore.findId?_written _ _ _).trans ((if_neg hne).trans hid)

/-- The ids that were issued stay in the books. -/
theorem Outcome.issued {k k' : Desk} {d : Deed} (h : k.Outcome d k') : k.issued <:+ k'.issued := by
  cases h with
  | created => exact List.suffix_cons _ _
  | idle => exact List.suffix_rfl
  | received => exact List.suffix_rfl
  | moved => exact List.suffix_rfl
  | saved => exact List.suffix_rfl
  | unheard => exact List.suffix_rfl

/-- A payment in hand was in hand before under its id, was stored, or is created under an id that is
    issued to it. -/
theorem Outcome.hand_id {k k' : Desk} {d : Deed} (h : k.Outcome d k') {p : Payment}
    (hp : p ∈ k'.hands) :
    (∃ q ∈ k.hands, q.id = p.id) ∨ k.store.findId? p.id ≠ none ∨ k'.issued = p.id :: k.issued := by
  -- Moves and drains leave a payment its id.
  have hset {n : Nat} {q q' : Payment} (hmem : p ∈ k.hands.set n q') (hq : k.hands[n]? = some q)
      (hid : q.id = q'.id) : ∃ q ∈ k.hands, q.id = p.id := by
    rcases List.mem_or_eq_of_mem_set hmem with hmem | rfl
    · exact ⟨p, hmem, rfl⟩
    · exact ⟨q, List.mem_of_getElem? hq, hid⟩
  cases h with
  | idle => exact .inl ⟨p, hp, rfl⟩
  | created =>
    rcases List.mem_append.1 hp with hp | hp
    · exact .inl ⟨p, hp, rfl⟩
    · cases List.mem_singleton.1 hp
      exact .inr (.inr rfl)
  | @received d s r hpayments _ _ hr =>
    rcases List.mem_append.1 hp with hp | hp
    · exact .inl ⟨p, hp, rfl⟩
    · cases List.mem_singleton.1 hp
      refine .inr (.inl ?_)
      intro hnone
      exact MemoryStore.findId?_eq_none_iff.1 hnone r hr rfl
  | moved hq hmove => exact .inl (hset hp hq (Payment.follows_move hmove).origin.id.symm)
  | @saved n q hq hmay => exact .inl (hset hp hq rfl)
  | @unheard n drains q hq hmay =>
    cases drains with
    | false => exact .inl ⟨p, hp, rfl⟩
    | true => exact .inl (hset hp hq rfl)

/-! ## Runs -/

theorem run_append (ds ds' : List Deed) : run (ds ++ ds') = ds'.foldl perform (run ds) :=
  List.foldl_append

theorem sound_run (deeds : List Deed) : (run deeds).Sound := by
  induction deeds using List.reverseRecOn with
  | nil => exact sound_empty
  | append_singleton ds d ih =>
    rw [run_append]
    exact ih.perform d

end Desk

end PayOnce
