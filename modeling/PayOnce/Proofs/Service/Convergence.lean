import PayOnce.Proofs.Service.Order
/-!
What initiations side by side come to. However their steps are mixed with each other and with what
holders of payments do, there is one payment for each key, the outbox tells the history of every
stored payment, and over a sound store every well-formed command is answered with a receipt.
-/

namespace PayOnce.Traffic

/-! ## One payment for each key -/

/-- A live entry of an honest cache names the payment that holds its key. -/
theorem Orderly.vouched {e : Circumstances} {s : Traffic} (h : Orderly e s) (hhonest : e.honest)
    {now : Instant} {key value : String} (hpeek : s.cache.peek now key = some value) :
    s.desk.store.Vouches key value :=
  (h.cache hhonest).peek hpeek

/-- Whatever faults the calls meet, and whoever is dropped: no two stored payments hold one key, a
    live entry of the cache reads as a receipt for the payment that holds its key, and all receipts
    that are ever answered for a key name the payment that holds it. -/
theorem one_payment_per_key {acts : List Action} (h : ∀ a ∈ acts, a.Honest) :
    ((run acts).desk.store.payments.map (·.idempotencyKey)).Nodup ∧
    (∀ now key value, (run acts).cache.peek now key = some value →
      ∃ receipt, Receipt.decode (Json.glyphsOf value) = .ok receipt ∧
        (run acts).desk.store.Holds key receipt.paymentId) ∧
    (∀ (i : Nat) f receipt, (run acts).flights[i]? = some f → f.answer = some (.ok receipt) →
      (run acts).desk.store.Holds f.command.idempotencyKey receipt.paymentId) ∧
    ∀ as, as <+: acts → ∀ (i j : Nat) f g receipt receipt',
      (run as).flights[i]? = some f → f.answer = some (.ok receipt) →
      (run acts).flights[j]? = some g → g.answer = some (.ok receipt') →
      f.command.idempotencyKey = g.command.idempotencyKey →
        receipt.paymentId = receipt'.paymentId := by
  have hs : Orderly ⟨True, False⟩ (run acts) := orderly_run (fun _ => h) (fun h => h.elim)
  have hholds : ∀ (i : Nat) f receipt, (run acts).flights[i]? = some f →
      f.answer = some (.ok receipt) →
      (run acts).desk.store.Holds f.command.idempotencyKey receipt.paymentId :=
    fun i f receipt hf hanswer => hs.answered hf hanswer trivial
  refine ⟨hs.desk.store.keys, fun now key value hpeek => hs.vouched trivial hpeek, hholds, ?_⟩
  intro as has i j f g receipt receipt' hf hfirst hg hsecond hkey
  have hfirst' := hholds i f receipt (answer_run has hf hfirst) hfirst
  have hsecond' := hholds j g receipt' hg hsecond
  rw [hkey] at hfirst'
  exact hs.desk.store.holds_unique hfirst' hsecond'

/-- A save that commits is cut off, and the key is asked for again twice: once the answer comes from
    the store, once from the cache. -/
def lostAnswer : List Action :=
  let c : InitiatePayment := ⟨⟨7⟩, "order-1", "customer-1", 100, "usd", "key-1"⟩
  [.begin c .standard, .cache 0 .ok, .store 0 .ok, .pass 0, .issue 0 ⟨1⟩,
    .store 0 .commitThenHang,
    .begin c .standard, .cache 1 (.fail (.unavailable "down")), .pass 1, .pass 1, .store 1 .ok,
    .begin { c with orderId := "order-2" } .standard,
    .pass 1, .pass 1, .cache 1 .commitThenHang, .tick ⟨60, 0⟩, .pass 1,
    .deed (.loadKey "key-1"), .deed (.move 0 (.start "ref-1") ⟨61, 0⟩), .deed (.save 0),
    .cache 2 .ok, .pass 2, .pass 2]

theorem one_payment_per_key_lostAnswer : ∃ f g receipt receipt',
    (run lostAnswer).flights[1]? = some f ∧ f.answer = some (.ok receipt) ∧
    (run lostAnswer).flights[2]? = some g ∧ g.answer = some (.ok receipt') ∧
    receipt.paymentId = receipt'.paymentId := by
  obtain ⟨-, -, -, hagree⟩ := one_payment_per_key (by decide : ∀ a ∈ lostAnswer, a.Honest)
  let f := (run lostAnswer).flights.get ⟨1, by decide +kernel⟩
  let g := (run lostAnswer).flights.get ⟨2, by decide +kernel⟩
  have hf : (run lostAnswer).flights[1]? = some f := List.getElem?_eq_getElem _
  have hg : (run lostAnswer).flights[2]? = some g := List.getElem?_eq_getElem _
  have hfirst : f.answer = some (.ok ⟨⟨1⟩, .pending⟩) := by decide +kernel
  have hsecond : g.answer = some (.ok ⟨⟨1⟩, .pending⟩) := by decide +kernel
  have hkey : f.command.idempotencyKey = g.command.idempotencyKey := by decide +kernel
  refine ⟨f, g, _, _, hf, hfirst, hg, hsecond, ?_⟩
  exact hagree _ List.prefix_rfl 1 2 f g _ _ hf hfirst hg hsecond hkey

/-! ## The outbox -/

/-- At any moment of any run, the outbox tells of every stored payment the history that its record
    implies, up to the last update, and it tells of no other payment. -/
theorem outbox_tells_history (acts : List Action) :
    ((run acts).desk.store.payments.map (·.id)).Nodup ∧
    (∀ r ∈ (run acts).desk.store.payments, ∃ startedAt,
      (run acts).desk.store.outbox.filter (·.aggregateId == r.id)
        = (r.history startedAt).map PaymentEvent.row ∧
      ((run acts).desk.store.outbox.filter (·.aggregateId == r.id)).getLast?.map (·.occurredAt)
        = some r.updatedAt) ∧
    ∀ o ∈ (run acts).desk.store.outbox,
      ∃ r ∈ (run acts).desk.store.payments, r.id = o.aggregateId := by
  have hstore := (orderly_anyhow acts).desk.store
  refine ⟨hstore.ids, ?_, hstore.rows⟩
  intro r hr
  obtain ⟨es, ⟨startedAt, rfl, hlast⟩, hrows⟩ := hstore.told r hr
  refine ⟨startedAt, hrows, ?_⟩
  rw [hrows, List.getLast?_map, Option.map_map]
  exact hlast

/-! ## Convergence -/

/-- Over a sound store, whatever the cache does: a well-formed command that is answered is answered
    with a receipt, and once a save was refused because of its key, a lookup of the key finds the
    payment that holds it, at any later time. -/
theorem duplicates_converge {acts : List Action} (hquiet : ∀ a ∈ acts, a.Quiet)
    (hids : (run acts).desk.issued.Nodup) :
    (∀ (i : Nat) f amount r, (run acts).flights[i]? = some f →
      f.command.validate = .ok amount → f.answer = some r → ∃ receipt, r = .ok receipt) ∧
    ∀ as, as <+: acts → ∀ p key,
      ((run as).desk.store.save p).1 = .error (.duplicateKey key) →
        ∃ winner, ((run acts).desk.store.findByKey key).1 = some winner := by
  have hs : Orderly ⟨False, True⟩ (run acts) :=
    orderly_run (fun h => h.elim) (fun _ => ⟨hquiet, hids⟩)
  refine ⟨?_, ?_⟩
  · intro i f amount r hf hvalid hanswer
    have hanswered := hs.answered hf hanswer
    cases r with
    | ok receipt => exact ⟨receipt, rfl⟩
    | error x => cases hvalid.symm.trans (hanswered trivial)
  · intro as has p key hsave
    obtain ⟨id, hheld⟩ := MemoryStore.holds_of_duplicateKey hsave
    exact (grows_run has key id hheld).findByKey

/-- Two initiations look for a key before either of them saves, and the cache makes an entry up. -/
def lostRace : List Action :=
  let c : InitiatePayment := ⟨⟨7⟩, "order-1", "customer-1", 100, "usd", "key-1"⟩
  [.begin c .standard, .begin c .standard,
    .forge 0 (fun | .get _ => some (.ok (some "not a receipt")) | _ => none), .pass 0,
    .cache 0 .hang, .pass 0, .cache 1 .miss, .store 0 .ok, .store 1 .ok, .pass 0, .pass 1,
    .issue 0 ⟨1⟩, .issue 1 ⟨2⟩, .store 1 .ok, .store 0 .ok, .store 0 .ok, .pass 0, .pass 0,
    .cache 0 .ok, .pass 1, .pass 1, .cache 1 (.fail (.unavailable "down")), .pass 1, .pass 1]

theorem duplicates_converge_lostRace : ∃ loser r receipt winner,
    (run lostRace).flights[0]? = some loser ∧ loser.answer = some r ∧ r = .ok receipt ∧
    ((run lostRace).desk.store.findByKey "key-1").1 = some winner := by
  obtain ⟨hanswers, hwinner⟩ := duplicates_converge (by decide : ∀ a ∈ lostRace, a.Quiet)
    (by decide +kernel)
  let loser := (run lostRace).flights.get ⟨0, by decide +kernel⟩
  have hloser : (run lostRace).flights[0]? = some loser := List.getElem?_eq_getElem _
  have hvalid : loser.command.validate = .ok ⟨100, "USD"⟩ := by decide +kernel
  have hanswer : loser.answer = some (.ok ⟨⟨2⟩, .pending⟩) := by decide +kernel
  obtain ⟨receipt, hreceipt⟩ := hanswers 0 loser _ _ hloser hvalid hanswer
  -- After fourteen actions the winner has saved its payment, and the loser is about to.
  let p := Draft.issue ⟨"order-1", "customer-1", ⟨100, "USD"⟩, "key-1"⟩ ⟨1⟩ ⟨0, 0⟩
  have hmay : (run (lostRace.take 14)).desk.store.mayWrite p.facts
      = .error (.duplicateKey "key-1") := by decide +kernel
  have hrefused : ((run (lostRace.take 14)).desk.store.save p).1
      = .error (.duplicateKey "key-1") := by
    rw [MemoryStore.save_of_refusal hmay]
  obtain ⟨winner, hfound⟩ := hwinner _ (List.take_prefix 14 lostRace) p _ hrefused
  exact ⟨loser, _, receipt, winner, hloser, hanswer, hreceipt, hfound⟩

end PayOnce.Traffic
