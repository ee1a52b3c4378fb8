import PayOnce.Proofs.Service.Founding
/-!
Answers that are given again. All receipts for one key name one payment, and each of them shows a
status on the way to where that payment stands. They are equal as long as the payment has not moved;
once it has, a receipt from the store tells of the move, and a receipt from the cache may not.
-/

namespace PayOnce

/-- Nothing moves to the first status. -/
theorem Status.eq_pending_of_path {s t : Status} (h : Relation.ReflTransGen Edge s t)
    (ht : t = pending) : s = pending := by
  subst ht
  rcases Relation.ReflTransGen.cases_tail_iff _ _ _ |>.1 h with heq | ⟨u, -, hedge⟩
  · exact heq.symm
  · cases u <;> cases hedge

namespace Traffic

/-- A receipt that was answered at some time shows the payment that holds the key ever after. -/
theorem shown_later {ts us : List Turn} (h : ∀ t ∈ ts, t.Honest) (hts : ts <+: us) {i : Nat}
    {f : Flight} {receipt : Receipt} (hf : (play ts).flights[i]? = some f)
    (hanswer : f.answer = some (.ok receipt)) :
    (play us).desk.store.Shows f.command.idempotencyKey receipt :=
  (ages_play hts).shows ((faithful_play h).answered hf hanswer)

/-- Whatever happens between two answers with a receipt for one key: both receipts name the payment
    that holds the key, both statuses lead to the one that is stored, and as long as the stored
    payment has not moved, the later answer is the earlier one. -/
theorem replays_name_one_payment {ts us : List Turn} (h : ∀ t ∈ us, t.Honest) (hts : ts <+: us)
    {i j : Nat} {f g : Flight} {receipt receipt' : Receipt}
    (hf : (play ts).flights[i]? = some f) (hanswer : f.answer = some (.ok receipt))
    (hg : (play us).flights[j]? = some g) (hanswer' : g.answer = some (.ok receipt'))
    (hkey : g.command.idempotencyKey = f.command.idempotencyKey) :
    receipt'.paymentId = receipt.paymentId ∧
    ∃ r ∈ (play us).desk.store.payments, r.idempotencyKey = f.command.idempotencyKey ∧
      r.id = receipt.paymentId ∧ Relation.ReflTransGen Status.Edge receipt.status r.status ∧
      Relation.ReflTransGen Status.Edge receipt'.status r.status ∧
      (r.status = .pending → receipt' = receipt) := by
  have hfirst : ∀ t ∈ ts, t.Honest := fun t ht => h t (hts.subset ht)
  obtain ⟨r, hr, hrkey, hid, hstatus⟩ := shown_later hfirst hts hf hanswer
  obtain ⟨r', hr', hrkey', hid', hstatus'⟩ := shown_later h List.prefix_rfl hg hanswer'
  -- Only one record holds the key.
  have hsame : r' = r :=
    List.inj_on_of_nodup_map (consistent_play us).keys hr' hr (hrkey'.trans (hkey.trans hrkey.symm))
  subst hsame
  have hids : receipt'.paymentId = receipt.paymentId := hid'.symm.trans hid
  refine ⟨hids, r', hr, hrkey, hid, hstatus, hstatus', ?_⟩
  intro hpending
  obtain ⟨id, status⟩ := receipt
  obtain ⟨id', status'⟩ := receipt'
  obtain rfl : status = .pending := Status.eq_pending_of_path hstatus hpending
  obtain rfl : status' = .pending := Status.eq_pending_of_path hstatus' hpending
  obtain rfl : id' = id := hids
  rfl

/-- A key is asked for, and again after its payment was taken up for processing and the cache has
    lost everything. -/
def movedBetween : List Turn :=
  let c : InitiatePayment := ⟨⟨7⟩, "order-1", "customer-1", 100, "USD", "key-1"⟩
  [.act (.begin c .standard), .act (.cache 0 .ok), .act (.store 0 .ok), .act (.pass 0),
    .act (.issue 0 ⟨1⟩), .act (.store 0 .ok), .act (.pass 0), .act (.pass 0), .act (.cache 0 .ok),
    .act (.pass 0), .act (.deed (.loadKey "key-1")),
    .act (.deed (.move 0 (.start "ref-1") ⟨60, 0⟩)), .act (.deed (.save 0)), .forget fun _ => false,
    .act (.begin c .standard), .act (.cache 1 .ok), .act (.store 1 .ok), .act (.pass 1),
    .act (.pass 1), .act (.cache 1 .ok)]

/-- The first answer is given before the move, and the second one after it. -/
theorem movedBetween_answers : ∃ f g,
    (play (movedBetween.take 10)).flights[0]? = some f ∧ (play movedBetween).flights[1]? = some g ∧
    f.answer = some (.ok ⟨⟨1⟩, .pending⟩) ∧ g.answer = some (.ok ⟨⟨1⟩, .processing⟩) ∧
    f.command.idempotencyKey = "key-1" ∧ g.command.idempotencyKey = "key-1" := by
  let f := (play (movedBetween.take 10)).flights.get ⟨0, by decide +kernel⟩
  let g := (play movedBetween).flights.get ⟨1, by decide +kernel⟩
  refine ⟨f, g, List.getElem?_eq_getElem _, List.getElem?_eq_getElem _, ?_, ?_, ?_, ?_⟩
    <;> decide +kernel

theorem replays_name_one_payment_movedBetween : ∃ r ∈ (play movedBetween).desk.store.payments,
    r.idempotencyKey = "key-1" ∧ r.id = ⟨1⟩ ∧
    Relation.ReflTransGen Status.Edge .pending r.status ∧
    Relation.ReflTransGen Status.Edge .processing r.status := by
  obtain ⟨f, g, hf, hg, hanswer, hanswer', hkey, hkey'⟩ := movedBetween_answers
  obtain ⟨-, r, hr, hheld, hid, hstatus, hstatus', -⟩ :=
    replays_name_one_payment (by decide : ∀ t ∈ movedBetween, t.Honest)
      (List.take_prefix 10 movedBetween) hf hanswer hg hanswer' (hkey'.trans hkey.symm)
  exact ⟨r, hr, hheld.trans hkey, hid, hstatus, hstatus'⟩

/-- A later answer need not be the earlier one. -/
theorem replay_after_move_differs :
    ¬ ∀ ts us, (∀ t ∈ us, t.Honest) → ts <+: us → ∀ (i j : Nat) f g receipt receipt',
      (play ts).flights[i]? = some f → f.answer = some (.ok receipt) →
      (play us).flights[j]? = some g → g.answer = some (.ok receipt') →
      g.command.idempotencyKey = f.command.idempotencyKey →
        receipt'.paymentId = receipt.paymentId ∧ receipt'.status = receipt.status := by
  intro hequal
  obtain ⟨f, g, hf, hg, hanswer, hanswer', hkey, hkey'⟩ := movedBetween_answers
  obtain ⟨-, hstatus⟩ := hequal _ _ (by decide) (List.take_prefix 10 movedBetween) 0 1 f g _ _ hf
    hanswer hg hanswer' (hkey'.trans hkey.symm)
  cases hstatus

end Traffic

end PayOnce
