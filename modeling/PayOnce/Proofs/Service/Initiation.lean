import PayOnce.Proofs.Payment.Receipt
import PayOnce.Proofs.Service.Terms
import PayOnce.Proofs.Store.Consistency
import PayOnce.Service.Initiation
/-!
What an initiation needs and what it gives, whatever runs beside it. If the cache makes nothing up,
a receipt that is answered names the payment that holds the key. If the store is sound, every
well-formed command is answered with a receipt: a save that is rejected as a duplicate finds the
winner afterwards, because no payment ever gives its key up.
-/

namespace PayOnce

/-- What may be counted on while payments are initiated. -/
structure Circumstances where
  /-- The cache makes nothing up. -/
  honest : Prop
  /-- Every call to the store is answered well, and no id is handed out twice. -/
  sound : Prop

/-- What an initiation sees of the world: the store, and the ids that were handed out to it. -/
structure Counter where
  store : MemoryStore
  ids : List Uuid

/-- An entry for a key is the text of a receipt that names the payment with the key. -/
def MemoryStore.Vouches (s : MemoryStore) (key value : String) : Prop :=
  ∃ receipt, Receipt.decode (Json.glyphsOf value) = .ok receipt ∧ s.Holds key receipt.paymentId

namespace Initiation

open Program

/-- What a lookup has told of a key. -/
def Found (e : Circumstances) (key : String) (r : Except DomainError (Option Payment))
    (w : Counter) : Prop :=
  match r with
  | .ok (some p) => w.store.Holds key p.id
  | .ok none => e.sound → ∀ id, ¬ w.store.Holds key id
  | .error _ => ¬ e.sound

/-- What a save has told of the payment that was to be written. -/
def Saved (e : Circumstances) (p : Payment) (r : Except DomainError (List OutboxRow) × Payment)
    (w : Counter) : Prop :=
  match r with
  | (.ok _, q) => q.id = p.id ∧ w.store.Holds p.facts.idempotencyKey p.id
  | (.error x, _) => e.sound → x = .duplicateKey p.facts.idempotencyKey ∧
    ∃ id, w.store.Holds p.facts.idempotencyKey id

/-- The terms of an initiation. It saves nothing but payments under ids that were handed out to it,
    and gives nothing to the cache but receipts for stored payments. -/
def terms (e : Circumstances) : Terms Counter where
  drift w w' := w.store.Extends w'.store ∧ w'.ids = w.ids ∧
    (e.sound → ∀ id ∈ w.ids, w.store.findId? id = none → w'.store.findId? id = none)
  allows w
    | .findByKey _ => True
    | .save p => ∃ d id now, p = Draft.issue d id now ∧
      (e.sound → id ∈ w.ids ∧ w.store.findId? id = none)
    | .findById _ => False
    | .ping => False
  answers w
    | .findByKey key, some r, w' => w.store.Extends w'.store ∧ Found e key r w'
    | .save p, some r, w' => w.store.Extends w'.store ∧ Saved e p r w'
    | .findById _, some _, _ => True
    | .ping, some _, _ => True
    | _, none, w' => w.store.Extends w'.store ∧ ¬ e.sound
  allowsCache w
    | .set key value _ => e.honest → w.store.Vouches key value
    | _ => True
  cacheAnswers w
    | .get key, some (.ok (some value)) => e.honest → w.store.Vouches key value
    | _, _ => True
  issues w id w' :=
    w' = { w with ids := id :: w.ids } ∧ (e.sound → w.store.findId? id = none)
  drift_refl w := ⟨.refl _, rfl, fun _ _ _ h => h⟩
  drift_trans := by
    rintro u v w ⟨huv, huv', huv''⟩ ⟨hvw, hvw', hvw''⟩
    refine ⟨huv.trans hvw, hvw'.trans huv', ?_⟩
    intro hsound id hid hnone
    exact hvw'' hsound id (huv' ▸ hid) (huv'' hsound id hid hnone)

/-- A fact about the store that stays while the store grows. -/
def Lasting (Q : Counter → Prop) : Prop :=
  ∀ w w', w.store.Extends w'.store → Q w → Q w'

/-- What a command is answered under a key. -/
def Settled (e : Circumstances) (key : String) (r : Except DomainError Receipt)
    (w : Counter) : Prop :=
  match r with
  | .ok receipt => e.honest → w.store.Holds key receipt.paymentId
  | .error _ => ¬ e.sound

theorem lasting_holds (key : String) (id : Uuid) :
    Lasting fun w => w.store.Holds key id :=
  fun _ _ hextends h => hextends key id h

/-! ## The parts of an initiation -/

section Parts

variable {e : Circumstances} {Q : Counter → Prop} {w : Counter}

theorem meets_evictCorrupt (hQ : Lasting Q) (h : Q w) (key reason : String) (limit : Span) :
    (evictCorrupt key reason limit).Meets (terms e) (fun _ => Q) w := by
  unfold evictCorrupt report
  rw [meets_report_bind, meets_callCacheWithin_bind]
  intro w' hdrift
  refine ⟨trivial, ?_⟩
  intro r _
  have hQ' : Q w' := hQ w w' hdrift.1 h
  cases timely limit r with
  | ok _ => exact hQ'
  | error x => exact hQ'

/-- A receipt that is read from the cache names the payment that holds the key. -/
theorem meets_receiptFromCache (key : String) (limit : Span) :
    (receiptFromCache key limit).Meets (terms e)
      (fun o w' => ∀ receipt, o = some receipt → e.honest →
        w'.store.Holds key receipt.paymentId) w := by
  have hevict (reason : String) (w' : Counter) :
      (do evictCorrupt key reason limit; return none : Program (Option Receipt)).Meets (terms e)
        (fun o w' => ∀ receipt, o = some receipt → e.honest →
          w'.store.Holds key receipt.paymentId) w' := by
    have hnothing : Lasting fun _ => True := fun _ _ _ _ => trivial
    refine (meets_evictCorrupt hnothing trivial key reason limit).bind ?_
    rintro _ _ _ _ ⟨⟩
  unfold receiptFromCache report
  rw [meets_callCacheWithin_bind]
  intro w' hdrift
  -- Every answer but a readable entry leads to no receipt at all.
  refine ⟨trivial, ?_⟩
  intro r hr
  cases r with
  | none =>
    rintro _ ⟨⟩
  | some answer =>
    cases answer with
    | error x =>
      cases x with
      | corrupt reason => exact hevict reason w'
      | unavailable detail => rintro _ ⟨⟩
      | timeout limit => rintro _ ⟨⟩
    | ok entry =>
      cases entry with
      | none => rintro _ ⟨⟩
      | some value =>
        simp only [timely]
        split
        · next receipt hdecode =>
          rintro _ ⟨rfl⟩ hhonest
          obtain ⟨receipt', hdecode', hholds⟩ := hr hhonest
          cases hdecode.symm.trans hdecode'
          exact hholds
        · next fault hdecode => exact hevict _ w'

/-- A receipt may be put into the cache if it names the payment that holds the key. -/
theorem meets_keepReceipt {key : String} {receipt : Receipt} (hQ : Lasting Q) (h : Q w)
    (hholds : w.store.Holds key receipt.paymentId) (limit : Span) :
    (keepReceipt key receipt limit).Meets (terms e) (fun _ => Q) w := by
  unfold keepReceipt report
  rw [meets_callCacheWithin_bind]
  intro w' hdrift
  have hholds' := hdrift.1 key receipt.paymentId hholds
  refine ⟨fun _ => ⟨receipt, Receipt.decode_render receipt, hholds'⟩, ?_⟩
  intro r _
  have hQ' : Q w' := hQ w w' hdrift.1 h
  cases timely limit r with
  | ok _ => exact hQ'
  | error x => exact hQ'

theorem found_named {key : String} {r : Except DomainError (Option Payment)} (operation : String)
    (limit : Span) (h : Found e key r w) : Found e key (named operation limit (some r)) w := by
  cases r with
  | ok o => exact h
  | error x => cases x <;> exact h

/-- What has lasted until a lookup can be held against its answer. -/
theorem meets_lookup (hQ : Lasting Q) (h : Q w) (operation key : String) (limit : Span) :
    (lookup operation key limit).Meets (terms e) (fun r w' => Found e key r w' ∧ Q w') w := by
  unfold lookup
  rw [meets_callStoreWithin_bind]
  intro w' hdrift
  refine ⟨trivial, ?_⟩
  intro r w'' hr
  have hQ' : Q w' := hQ w w' hdrift.1 h
  cases r with
  | none => exact ⟨hr.2, hQ w' w'' hr.1 hQ'⟩
  | some r => exact ⟨found_named operation limit hr.2, hQ w' w'' hr.1 hQ'⟩

/-- A payment that holds the key is a good answer. -/
theorem meets_answerWith {key : String} {p : Payment} (hholds : w.store.Holds key p.id)
    (signal : Signal) (note : String) (limit : Span) :
    (answerWith p signal note key limit).Meets (terms e) (Settled e key) w := by
  unfold answerWith report
  simp only [meets_emit_bind, meets_report_bind]
  have hlasts := lasting_holds key (Receipt.ofPayment p).paymentId
  refine (meets_keepReceipt hlasts hholds hholds limit).bind ?_
  intro _ w' h _
  exact h

/-- Whoever has lost the race for a key finds the winner. -/
theorem meets_followWinner {key : String} (hheld : e.sound → ∃ id, w.store.Holds key id)
    (deadlines : Deadlines) :
    (followWinner key deadlines).Meets (terms e) (Settled e key) w := by
  have hlasts : Lasting fun w => e.sound → ∃ id, w.store.Holds key id := by
    intro w w' hextends hw hsound
    obtain ⟨id, hid⟩ := hw hsound
    exact ⟨id, hextends key id hid⟩
  unfold followWinner
  refine (meets_lookup hlasts hheld _ key deadlines.store).bind ?_
  rintro r w' ⟨hfound, hheld'⟩
  cases r with
  | error x => exact hfound
  | ok o =>
    cases o with
    | some winner => exact meets_answerWith hfound _ _ _
    | none =>
      -- The key was held before the lookup, and keys stay held.
      intro hsound
      obtain ⟨id, hid⟩ := hheld' hsound
      exact hfound hsound id hid

theorem meets_reportCommitted (h : Q w) (rows : List OutboxRow) :
    (reportCommitted rows).Meets (terms e) (fun _ => Q) w := by
  induction rows with
  | nil => exact h
  | cons r rows ih => exact ih

/-- A payment that has just been written is a good answer. -/
theorem meets_confirm {draft : Draft} {p : Payment}
    (hholds : w.store.Holds draft.idempotencyKey p.id) (rows : List OutboxRow) (limit : Span) :
    (confirm draft p rows limit).Meets (terms e) (Settled e draft.idempotencyKey) w := by
  have hlasts := lasting_holds draft.idempotencyKey (Receipt.ofPayment p).paymentId
  -- That the payment holds its key lasts through the reports.
  have hrows := meets_reportCommitted (e := e)
    (Q := fun w => w.store.Holds draft.idempotencyKey (Receipt.ofPayment p).paymentId) hholds rows
  unfold confirm report
  refine hrows.bind ?_
  intro _ w' h
  rw [meets_emit_bind]
  refine (meets_keepReceipt hlasts h h limit).bind ?_
  intro _ w'' h' _
  exact h'

/-- A save ends well, or loses the race; anything else is a failure of the store. -/
theorem meets_create {draft : Draft} (hcheck : draft.check = .ok ()) (deadlines : Deadlines) :
    (create draft deadlines).Meets (terms e) (Settled e draft.idempotencyKey) w := by
  unfold create
  simp only [hcheck]
  rw [meets_query_now_bind]
  intro now
  rw [meets_query_paymentId_bind]
  rintro w₁ - id _ ⟨rfl, hfresh⟩
  rw [meets_callStoreWithin_bind]
  intro w₂ hdrift
  refine ⟨⟨draft, id, now, rfl, ?_⟩, ?_⟩
  · -- The id was fresh when it was handed out, and nobody else may store it since.
    intro hsound
    have hids : w₂.ids = id :: w₁.ids := hdrift.2.1
    rw [hids]
    exact ⟨List.mem_cons_self, hdrift.2.2 hsound id List.mem_cons_self (hfresh hsound)⟩
  · intro r w₃ hr
    cases r with
    | none => exact hr.2
    | some r =>
      obtain ⟨-, hsaved⟩ := hr
      rcases r with ⟨x | rows, saved⟩
      · -- A sound store refuses a new payment for its key alone.
        cases x with
        | duplicateKey key => exact meets_followWinner (fun hsound => (hsaved hsound).2) deadlines
        | _ =>
          intro hsound
          cases (hsaved hsound).1
      · obtain ⟨hid, hholds⟩ := hsaved
        exact meets_confirm (hid ▸ hholds) rows deadlines.cache

theorem meets_perform {draft : Draft} (hcheck : draft.check = .ok ()) (deadlines : Deadlines) :
    (perform draft deadlines).Meets (terms e) (Settled e draft.idempotencyKey) w := by
  have hnothing : Lasting fun _ => True := fun _ _ _ _ => trivial
  unfold perform report
  refine (meets_receiptFromCache _ deadlines.cache).bind ?_
  intro o w' hcached
  cases o with
  | some receipt => exact hcached receipt rfl
  | none =>
    refine (meets_lookup hnothing trivial _ _ deadlines.store).bind ?_
    rintro r w'' ⟨hfound, -⟩
    cases r with
    | error x => exact hfound
    | ok o =>
      cases o with
      | some existing => exact meets_answerWith hfound _ _ _
      | none => exact meets_create hcheck deadlines

end Parts

/-! ## Initiations -/

/-- A well-formed command makes a draft without blanks. -/
theorem check_draft {c : InitiatePayment} {amount : Money} (h : c.validate = .ok amount) :
    (c.draft amount).check = .ok () := by
  unfold InitiatePayment.validate at h
  obtain ⟨_, horder, h⟩ := bind_eq_ok_iff.1 h
  obtain ⟨_, hcustomer, h⟩ := bind_eq_ok_iff.1 h
  split at h
  · cases h
  obtain ⟨_, -, h⟩ := bind_eq_ok_iff.1 h
  obtain ⟨_, hkey, -⟩ := bind_eq_ok_iff.1 h
  unfold Draft.check InitiatePayment.draft
  exact bind_eq_ok_iff.2 ⟨_, horder, bind_eq_ok_iff.2 ⟨_, hcustomer, hkey⟩⟩

/-- What a command is answered. -/
def Answered (e : Circumstances) (c : InitiatePayment) (r : Except DomainError Receipt)
    (w : Counter) : Prop :=
  match r with
  | .ok receipt => e.honest → w.store.Holds c.idempotencyKey receipt.paymentId
  | .error x => e.sound → c.validate = .error x

theorem stable_answered (e : Circumstances) (c : InitiatePayment)
    (r : Except DomainError Receipt) : Stable (terms e) (Answered e c r) := by
  intro w w' hdrift h
  cases r with
  | ok receipt => exact fun hhonest => hdrift.1 _ _ (h hhonest)
  | error x => exact h

end Initiation

/-- An initiation keeps its terms and ends with a good answer, whatever the world does. -/
theorem meets_initiate (e : Circumstances) (c : InitiatePayment) (deadlines : Deadlines)
    (w : Counter) :
    (initiate c deadlines).Meets (Initiation.terms e) (Initiation.Answered e c) w := by
  unfold initiate
  refine Program.Meets.inSpan ?_ _
  cases hvalid : c.validate with
  | error x => exact fun _ => hvalid
  | ok amount =>
    have hcheck := Initiation.check_draft hvalid
    refine (Initiation.meets_perform hcheck deadlines).mono ?_
    intro r w' hsettled
    cases r with
    | ok receipt => exact hsettled
    | error x => exact fun hsound => absurd hsound hsettled

end PayOnce
