import PayOnce.Proofs.Store.Desk
/-!
How stored payments age. A record gives way only to records of the same payment: what was fixed when
the payment was created stays, the status moves along the edges of the status machine, and the
version never goes down.
-/

namespace PayOnce

/-- A record has come from another one of its payment, or is that one. -/
structure PaymentFacts.Succeeds (r old : PaymentFacts) : Prop where
  origin : r.SameOrigin old
  status : Relation.ReflTransGen Status.Edge old.status r.status
  version : old.version ≤ r.version

theorem PaymentFacts.Succeeds.refl (r : PaymentFacts) : r.Succeeds r :=
  ⟨.refl _, .refl, Int.le_refl _⟩

theorem PaymentFacts.Succeeds.trans {a b c : PaymentFacts} (h : a.Succeeds b) (h' : b.Succeeds c) :
    a.Succeeds c :=
  ⟨h.origin.trans h'.origin, h'.status.trans h.status, Int.le_trans h'.version h.version⟩

namespace MemoryStore

/-- Every stored payment stays stored, and ages. -/
def Ages (s t : MemoryStore) : Prop :=
  ∀ old ∈ s.payments, ∃ r ∈ t.payments, r.Succeeds old

variable {s t u : MemoryStore}

theorem Ages.refl (s : MemoryStore) : s.Ages s :=
  fun r hr => ⟨r, hr, .refl r⟩

theorem Ages.trans (h : s.Ages t) (h' : t.Ages u) : s.Ages u := by
  intro old hold
  obtain ⟨r, hr, hsucceeds⟩ := h old hold
  obtain ⟨r', hr', hsucceeds'⟩ := h' r hr
  exact ⟨r', hr', hsucceeds'.trans hsucceeds⟩

theorem Ages.of_payments (h : t.payments = s.payments) : s.Ages t := by
  intro r hr
  exact ⟨r, h ▸ hr, .refl r⟩

/-- What ages keeps its key and its id. -/
theorem Ages.extends (h : s.Ages t) : s.Extends t := by
  rintro key id ⟨old, hold, rfl, rfl⟩
  obtain ⟨r, hr, hsucceeds⟩ := h old hold
  exact ⟨r, hr, hsucceeds.origin.key, hsucceeds.origin.id⟩

/-- What has its origin in a store still has it there when the store has aged. -/
theorem Ages.origin (h : s.Ages t) {q : PaymentFacts} (hq : ∃ r ∈ s.payments, q.SameOrigin r) :
    ∃ r ∈ t.payments, q.SameOrigin r := by
  obtain ⟨old, hold, horigin⟩ := hq
  obtain ⟨r, hr, hsucceeds⟩ := h old hold
  exact ⟨r, hr, horigin.trans hsucceeds.origin.symm⟩

/-- A record that is written is new, under a key that nobody holds, or it succeeds the record that
    it replaces; all other records stay. -/
theorem Fits.mem_written {p : Payment} (hp : s.Fits p) (hs : s.Consistent)
    (hmay : s.mayWrite p.facts = .ok ()) {r : PaymentFacts} (hr : r ∈ (s.written p).payments) :
    (∃ old ∈ s.payments, r.Succeeds old) ∨
      r = p.facts ∧ s.findKey? p.facts.idempotencyKey = none := by
  rcases (mem_putRow hs.ids).1 hr with rfl | ⟨hr, -⟩
  · rcases hp.write_cases hmay with ⟨-, hkey, -, -⟩ | ⟨old, hfind, hversion, -, hfollows⟩
    · exact .inr ⟨rfl, hkey⟩
    · refine .inl ⟨old, (mem_of_findId? hfind).1, hfollows.origin, hfollows.status, ?_⟩
      omega
  · exact .inl ⟨r, hr, .refl r⟩

theorem Fits.ages_written {p : Payment} (hp : s.Fits p) (hs : s.Consistent)
    (hmay : s.mayWrite p.facts = .ok ()) : s.Ages (s.written p) := by
  intro old hold
  by_cases hid : old.id = p.id
  · refine ⟨p.facts, (mem_putRow hs.ids).2 (.inl rfl), ?_⟩
    have hfind := hid ▸ hs.findId?_of_mem hold
    -- The record under the id of the payment is the one that it follows.
    rcases hp.write_cases hmay with ⟨hnone, -⟩ | ⟨old', hfind', hversion, -, hfollows⟩
    · rw [hnone] at hfind
      cases hfind
    · rw [hfind] at hfind'
      cases hfind'
      exact ⟨hfollows.origin, hfollows.status, by omega⟩
  · exact ⟨old, (mem_putRow hs.ids).2 (.inr ⟨hold, hid⟩), .refl old⟩

end MemoryStore

namespace Desk.Outcome

variable {k k' : Desk} {d : Deed}

/-- Payments age under the deeds of their holders. -/
theorem ages (h : k.Outcome d k') (hk : k.Sound) : k.store.Ages k'.store := by
  cases h with
  | idle hpayments => exact .of_payments hpayments
  | created => exact .refl _
  | received hpayments => exact .of_payments hpayments
  | moved => exact .refl _
  | saved hp hmay => exact (hk.hands _ (List.mem_of_getElem? hp)).ages_written hk.store hmay
  | unheard hp hmay => exact (hk.hands _ (List.mem_of_getElem? hp)).ages_written hk.store hmay

/-- No payment leaves the store. -/
theorem grows (h : k.Outcome d k') (hk : k.Sound) : k.store.Extends k'.store :=
  (h.ages hk).extends

/-- What is stored after a deed succeeds a stored record, or it is a payment in hand that has just
    been saved under a key that nobody held. -/
theorem mem_payments (h : k.Outcome d k') (hk : k.Sound) {r : PaymentFacts}
    (hr : r ∈ k'.store.payments) :
    (∃ old ∈ k.store.payments, r.Succeeds old) ∨
      ∃ n p, (d = .save n ∨ ∃ drains, d = .saveUnheard n drains) ∧ k.hands[n]? = some p ∧
        r = p.facts ∧ k.store.findKey? r.idempotencyKey = none := by
  cases h with
  | idle hpayments => exact .inl ⟨r, hpayments ▸ hr, .refl r⟩
  | created => exact .inl ⟨r, hr, .refl r⟩
  | received hpayments => exact .inl ⟨r, hpayments ▸ hr, .refl r⟩
  | moved => exact .inl ⟨r, hr, .refl r⟩
  | @saved n p hp hmay =>
    have hfits := hk.hands _ (List.mem_of_getElem? hp)
    rcases hfits.mem_written hk.store hmay hr with hold | ⟨rfl, hkey⟩
    · exact .inl hold
    · exact .inr ⟨n, p, .inl rfl, hp, rfl, hkey⟩
  | @unheard n drains p hp hmay =>
    have hfits := hk.hands _ (List.mem_of_getElem? hp)
    rcases hfits.mem_written hk.store hmay hr with hold | ⟨rfl, hkey⟩
    · exact .inl hold
    · exact .inr ⟨n, p, .inr ⟨drains, rfl⟩, hp, rfl, hkey⟩

/-- A payment in hand has its origin in a hand, in the store, or in the deed. -/
theorem hand_origin (h : k.Outcome d k') {p : Payment} (hp : p ∈ k'.hands) :
    (∃ q ∈ k.hands, p.facts.SameOrigin q.facts) ∨
      (∃ r ∈ k.store.payments, p.facts.SameOrigin r) ∨
      ∃ draft id now, d = .create draft id now ∧ p = draft.issue id now := by
  -- Moves and drains leave a payment its origin.
  have hset {n : Nat} {q q' : Payment} (hmem : p ∈ k.hands.set n q') (hq : k.hands[n]? = some q)
      (horigin : q'.facts.SameOrigin q.facts) : ∃ q ∈ k.hands, p.facts.SameOrigin q.facts := by
    rcases List.mem_or_eq_of_mem_set hmem with hmem | rfl
    · exact ⟨p, hmem, .refl _⟩
    · exact ⟨q, List.mem_of_getElem? hq, horigin⟩
  cases h with
  | idle => exact .inl ⟨p, hp, .refl _⟩
  | @created draft id now =>
    rcases List.mem_append.1 hp with hp | hp
    · exact .inl ⟨p, hp, .refl _⟩
    · exact .inr (.inr ⟨draft, id, now, rfl, List.mem_singleton.1 hp⟩)
  | @received d s r hpayments _ _ hr =>
    rcases List.mem_append.1 hp with hp | hp
    · exact .inl ⟨p, hp, .refl _⟩
    · cases List.mem_singleton.1 hp
      exact .inr (.inl ⟨r, hr, .refl _⟩)
  | moved hq hmove => exact .inl (hset hp hq (Payment.follows_move hmove).origin)
  | @saved n q hq hmay => exact .inl (hset hp hq (.refl _))
  | @unheard n drains q hq hmay =>
    cases drains with
    | false => exact .inl ⟨p, hp, .refl _⟩
    | true => exact .inl (hset hp hq (.refl _))

end Desk.Outcome

end PayOnce
