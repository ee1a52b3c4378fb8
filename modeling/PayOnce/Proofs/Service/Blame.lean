import PayOnce.Proofs.Service.Deadlines
import PayOnce.Proofs.Service.Signals
/-!
Whose error is answered. An initiation of a well-formed command fails only where one of its calls to
the store has failed, and then it is answered with the error of that call. Nothing that the cache
does is ever answered, and a save that is refused for its key never is either: it leads to a
re-fetch, which decides.
-/

namespace PayOnce

/-- The calls to the store among some exchanges, with what has come of them. -/
def storeCalls (es : List Exchange) : List Exchange :=
  es.filter Exchange.isStoreCall

@[simp] theorem storeCalls_concat (es : List Exchange) (x : Exchange) :
    storeCalls (es ++ [x]) = storeCalls es ++ if x.isStoreCall then [x] else [] := by
  cases h : x.isStoreCall <;> simp [storeCalls, h]

namespace Initiation

/-! ## Calls that fail -/

/-- What a call has failed with: an error of the store, or nothing where it was dropped at its
    limit. -/
inductive FailedWith {α : Type} : Option (Except DomainError α) → Option DomainError → Prop
  | error (e : DomainError) : FailedWith (some (.error e)) (some e)
  | dropped : FailedWith none none

/-- All calls to the store that an initiation under a key has made, the last of which has failed,
    and the error that tells so. -/
inductive Failing (key : String) (limit : Span) : List Exchange → DomainError → Prop
  /-- The first lookup has failed. -/
  | lookup {r : Option (Except DomainError (Option Payment))} {e : Option DomainError}
      (h : FailedWith r e) :
      Failing key limit [.store (.findByKey key) r] (failure "idempotency key lookup" limit e)
  /-- Nothing was found, and the save has failed for another reason than its key. -/
  | save {p : Payment} {r : Option (Except DomainError (List OutboxRow) × Payment)}
      {e : Option DomainError} (h : FailedWith (r.map Prod.fst) e)
      (hkey : ∀ key', e ≠ some (.duplicateKey key')) :
      Failing key limit
        [.store (.findByKey key) (some (.ok none)), .store (.save p) r]
        (failure "save payment" limit e)
  /-- The save was refused for its key, and the re-fetch has failed. -/
  | refetch {p q : Payment} {key' : String} {r : Option (Except DomainError (Option Payment))}
      {e : Option DomainError} (h : FailedWith r e) :
      Failing key limit
        [.store (.findByKey key) (some (.ok none)),
          .store (.save p) (some (.error (.duplicateKey key'), q)), .store (.findByKey key) r]
        (failure "idempotency key re-fetch" limit e)
  /-- The save was refused for its key, and yet no payment holds it. -/
  | vanished {p q : Payment} {key' : String} :
      Failing key limit
        [.store (.findByKey key) (some (.ok none)),
          .store (.save p) (some (.error (.duplicateKey key'), q)),
          .store (.findByKey key) (some (.ok none))]
        (.infrastructure ("idempotency key " ++ Text.Quoted.text key
          ++ " rejected as duplicate but no payment holds it"))

theorem FailedWith.unique {α : Type} {r : Option (Except DomainError α)} {e e' : Option DomainError}
    (h : FailedWith r e) (h' : FailedWith r e') : e = e' := by
  cases h <;> cases h' <;> rfl

/-- The calls determine the error. -/
theorem Failing.unique {key : String} {limit : Span} {calls : List Exchange} {e e' : DomainError}
    (h : Failing key limit calls e) (h' : Failing key limit calls e') : e = e' := by
  cases h with
  | lookup h =>
    cases h' with
    | lookup h' => rw [h.unique h']
  | save h hkey =>
    cases h' with
    | save h' => rw [h.unique h']
  | refetch h =>
    cases h' with
    | refetch h' => rw [h.unique h']
    | vanished => cases h
  | vanished =>
    cases h' with
    | refetch h' => cases h'
    | vanished => rfl

/-- What the cache has told is no receipt. -/
def NoReceiptIn (r : Option (Except CacheError (Option String))) : Prop :=
  ∀ entry receipt, r = some (.ok (some entry)) →
    Receipt.decode (Json.glyphsOf entry) ≠ .ok receipt

theorem noReceiptIn_iff (r : Option (Except CacheError (Option String))) :
    NoReceiptIn r ↔ ∀ receipt, Reading.of r ≠ .receipt receipt := by
  simp only [NoReceiptIn, ne_eq, Reading.of_eq_receipt_iff, not_exists, not_and]
  exact forall_comm

/-! ## What an initiation is answered -/

/-- An initiation is answered with an error exactly where the cache has told no receipt and a call
    to the store has failed, and then it is the error of this call. -/
def Blames (key : String) (limit : Span) (a : Except DomainError Receipt) (es : List Exchange) :
    Prop :=
  ∃ r, reads es = [r] ∧
    ∀ e, a = .error e ↔ NoReceiptIn r ∧ Failing key limit (storeCalls es) e

/-- The cache has told no receipt, and these calls to the store have been made since. -/
structure Since (calls es : List Exchange) : Prop where
  reads : ∃ r, reads es = [r] ∧ NoReceiptIn r
  calls : storeCalls es = calls

section Blames

variable {σ τ : Type} {env : Environment σ τ} {j : Journal σ τ} {calls es : List Exchange}
  {key : String} {limit : Span}

/-- An exchange that is no read of the cache. -/
theorem Since.concat (h : Since calls es) {x : Exchange} (hread : x.read? = none) :
    Since (calls ++ if x.isStoreCall then [x] else []) (es ++ [x]) where
  reads := by simpa [hread] using h.reads
  calls := by rw [storeCalls_concat, h.calls]

theorem Since.error (h : Since calls es) {e : DomainError} (hfails : Failing key limit calls e) :
    Blames key limit (.error e) es := by
  obtain ⟨r, hreads, hr⟩ := h.reads
  refine ⟨r, hreads, fun e' => ?_⟩
  rw [h.calls]
  constructor
  · rintro ⟨⟩
    exact ⟨hr, hfails⟩
  · rintro ⟨-, hfails'⟩
    rw [hfails.unique hfails']

theorem Since.ok (h : Since calls es) (hworks : ∀ e, ¬ Failing key limit calls e)
    (receipt : Receipt) : Blames key limit (.ok receipt) es := by
  obtain ⟨r, hreads, -⟩ := h.reads
  refine ⟨r, hreads, fun e => ?_⟩
  rw [h.calls]
  exact ⟨nofun, fun hfails => absurd hfails.2 (hworks e)⟩

/-- Putting the receipt into the cache has no say in the answer. -/
theorem blames_announce (h : Since calls j.exchanges) (hworks : ∀ e, ¬ Failing key limit calls e)
    (s : Signal) (p : Payment) (key' : String) (limit' : Span) :
    (announce s p key' limit').Obeys (env.rules fun _ => True)
      (fun a j => Blames key limit a j.exchanges) j := by
  rintro j rfl
  refine ⟨trivial, ?_⟩
  rintro _ ⟨⟩ _ rfl
  refine ⟨trivial, ?_⟩
  intro r j' hleads
  have hsince := (h.concat (x := .signal s) rfl).concat
    (x := .cache (.set key' (Receipt.ofPayment p).toJson.render receiptTtl) r) rfl
  simp only [Exchange.isStoreCall, Bool.false_eq_true, if_false, List.append_nil] at hsince
  cases hleads
  exact hsince.ok hworks _

/-- A lookup that does not fail leads on to what is done with a payment, or without one. -/
theorem blames_lookup (h : Since calls j.exchanges) {operation : String}
    {found : Payment → Program (Except DomainError Receipt)}
    {nothing : Program (Except DomainError Receipt)}
    (hfails : ∀ r e, FailedWith r e →
      Failing key limit (calls ++ [.store (.findByKey key) r]) (failure operation limit e))
    (hfound : ∀ (j' : Journal σ τ) p,
      Since (calls ++ [.store (.findByKey key) (some (.ok (some p)))]) j'.exchanges →
        (found p).Obeys (env.rules fun _ => True) (fun a j => Blames key limit a j.exchanges) j')
    (hnothing : ∀ j' : Journal σ τ,
      Since (calls ++ [.store (.findByKey key) (some (.ok none))]) j'.exchanges →
        nothing.Obeys (env.rules fun _ => True) (fun a j => Blames key limit a j.exchanges) j') :
    (Program.storeWithin limit (.findByKey key) (fromLookup operation limit found nothing)).Obeys
      (env.rules fun _ => True) (fun a j => Blames key limit a j.exchanges) j := by
  rintro j rfl
  refine ⟨trivial, ?_⟩
  intro r j' hleads
  have hsince : Since (calls ++ [.store (.findByKey key) r]) j'.exchanges := by
    cases hleads
    exact h.concat (x := .store (.findByKey key) r) rfl
  rcases r with _ | e | _ | p
  · exact hsince.error (hfails _ _ .dropped)
  · exact hsince.error (hfails _ _ (.error e))
  · exact hnothing j' hsince
  · exact hfound j' p hsince

theorem blames_refetch {deadlines : Deadlines} {p q : Payment} {key' : String}
    (h : Since [.store (.findByKey key) (some (.ok none)),
      .store (.save p) (some (.error (.duplicateKey key'), q))] j.exchanges) :
    (refetch key deadlines).Obeys (env.rules fun _ => True)
      (fun a j => Blames key deadlines.store a j.exchanges) j := by
  refine blames_lookup h (fun r e hr => .refetch hr) ?_ ?_
  · intro j' winner hsince
    refine blames_announce hsince ?_ _ _ _ _
    intro e hfails
    cases hfails with
    | refetch h => cases h
  · intro j' hsince
    exact hsince.error .vanished

theorem blames_issueAndSave {deadlines : Deadlines} {draft : Draft}
    (h : Since [.store (.findByKey draft.idempotencyKey) (some (.ok none))] j.exchanges) :
    (issueAndSave draft deadlines).Obeys (env.rules fun _ => True)
      (fun a j => Blames draft.idempotencyKey deadlines.store a j.exchanges) j := by
  rintro j rfl
  refine ⟨trivial, ?_⟩
  rintro now _ ⟨⟩ _ rfl
  refine ⟨trivial, ?_⟩
  rintro id _ ⟨⟩ _ rfl
  refine ⟨trivial, ?_⟩
  intro r j' hleads
  have hsince : Since [.store (.findByKey draft.idempotencyKey) (some (.ok none)),
      .store (.save (draft.issue (env.paymentId j.issued) env.clock)) r] j'.exchanges := by
    have hbefore := (h.concat (x := .now env.clock) rfl).concat
      (x := .paymentId (env.paymentId j.issued)) rfl
    cases hleads
    exact hbefore.concat (x := .store (.save _) r) rfl
  rcases r with _ | ⟨e | rows, saved⟩
  · exact hsince.error (.save .dropped nofun)
  · by_cases hkey : ∃ key', e = .duplicateKey key'
    · obtain ⟨key', rfl⟩ := hkey
      exact blames_refetch hsince
    · -- Any other error is the answer.
      have hfails : Blames draft.idempotencyKey deadlines.store
          (.error (failure "save payment" deadlines.store (some e))) j'.exchanges :=
        hsince.error (.save (.error e) fun key' h => hkey ⟨key', Option.some.inj h⟩)
      cases e with
      | duplicateKey key' => exact absurd ⟨key', rfl⟩ hkey
      | _ => exact hfails
  · refine blames_announce hsince ?_ _ _ _ _
    intro e hfails
    cases hfails with
    | save h hkey => cases h

theorem blames_lookOrCreate {deadlines : Deadlines} {draft : Draft} (h : Since [] j.exchanges) :
    (lookOrCreate draft deadlines).Obeys (env.rules fun _ => True)
      (fun a j => Blames draft.idempotencyKey deadlines.store a j.exchanges) j := by
  refine blames_lookup h (fun r e hr => .lookup hr) ?_ ?_
  · intro j' p hsince
    refine blames_announce hsince ?_ _ _ _ _
    intro e hfails
    cases hfails with
    | lookup h => cases h
  · intro j' hsince
    exact blames_issueAndSave hsince

/-- Whatever has been read from the cache, only the store can make the initiation fail. -/
theorem blames_fromReading (draft : Draft) (deadlines : Deadlines)
    {r : Option (Except CacheError (Option String))}
    (hj : j.exchanges = [.cache (.get draft.idempotencyKey) r]) :
    (fromReading draft deadlines (.of r)).Obeys (env.rules fun _ => True)
      (fun a j => Blames draft.idempotencyKey deadlines.store a j.exchanges) j := by
  have hnone := noReceiptIn_iff r
  generalize Reading.of r = reading at hnone ⊢
  have hsince (h : ∀ receipt, reading ≠ .receipt receipt) : Since [] j.exchanges :=
    ⟨⟨r, by rw [hj]; rfl, hnone.2 h⟩, by rw [hj]; rfl⟩
  cases reading with
  | receipt receipt =>
    rintro j rfl
    refine ⟨trivial, ?_⟩
    rintro _ ⟨⟩
    refine ⟨r, by simp [hj, reads, Exchange.read?], fun e => ⟨by rintro ⟨⟩, ?_⟩⟩
    rintro ⟨h, -⟩
    exact absurd rfl (hnone.1 h receipt)
  | nothing => exact blames_lookOrCreate (hsince (by rintro receipt ⟨⟩))
  | spoiled =>
    rintro j rfl
    refine ⟨trivial, ?_⟩
    intro r' j' hleads
    have hevicted : Since [] j'.exchanges := by
      cases hleads
      exact (hsince (by rintro receipt ⟨⟩)).concat (x := .cache (.evict _) r') rfl
    exact blames_lookOrCreate hevicted
  | down =>
    rintro j rfl
    refine ⟨trivial, ?_⟩
    rintro _ ⟨⟩
    have hread := hsince (by rintro receipt ⟨⟩)
    exact blames_lookOrCreate (hread.concat (x := .signal .cacheDegraded) rfl)

end Blames

/-- Whatever an initiation of a well-formed command ends with, no other call is to blame for it. -/
theorem blames_initiate {σ τ : Type} (env : Environment σ τ) (budget : Option Span)
    {c : InitiatePayment} {amount : Money} (hvalid : c.validate = .ok amount)
    (deadlines : Deadlines) (s : Progress σ τ) {a : Except DomainError Receipt}
    (ha : ((initiate c deadlines).run env budget s).1 = .finished a) :
    Blames c.idempotencyKey deadlines.store a ((initiate c deadlines).exchanges env budget s) := by
  have houtline : (outline c deadlines).Obeys (env.rules fun _ => True)
      (fun a j => Blames c.idempotencyKey deadlines.store a j.exchanges) (s.journal []) := by
    unfold outline
    rw [hvalid]
    rintro _ rfl
    refine ⟨trivial, ?_⟩
    intro r j' hleads
    refine blames_fromReading (c.draft amount) deadlines ?_
    cases hleads
    rfl
  rw [← unlogged_initiate, Program.obeys_unlogged] at houtline
  have hleaves := houtline.run budget
  rw [List.nil_append, ha] at hleaves
  exact hleaves

/-- An error that does not tell of the infrastructure is the one that the store has answered. -/
theorem eq_some_of_failure {operation : String} {limit : Span} {e : Option DomainError}
    {x : DomainError} (h : failure operation limit e = x)
    (hx : ∀ detail, x ≠ .infrastructure detail) : e = some x := by
  subst h
  rcases e with _ | e
  · exact absurd rfl (hx _)
  · cases e with
    | infrastructure detail => exact absurd rfl (hx _)
    | _ => rfl

/-- That a key is taken has been told by a lookup, not by a save. -/
theorem Failing.lookup_of_duplicateKey {key key' : String} {limit : Span} {calls : List Exchange}
    (h : Failing key limit calls (.duplicateKey key')) :
    some (.error (.duplicateKey key')) ∈ lookups calls := by
  generalize he : DomainError.duplicateKey key' = e' at h
  have hother : ∀ detail, DomainError.duplicateKey key' ≠ .infrastructure detail := nofun
  cases h with
  | lookup h =>
    cases eq_some_of_failure he.symm hother
    cases h
    exact List.mem_singleton_self _
  | save h hkey => exact absurd (eq_some_of_failure he.symm hother) (hkey key')
  | refetch h =>
    cases eq_some_of_failure he.symm hother
    cases h
    exact List.mem_cons_of_mem _ (List.mem_singleton_self _)
  | vanished => cases he

end Initiation

open Initiation

/-- An initiation of a well-formed command is answered with an error exactly where the cache has
    told no receipt and a call to the store has failed: the first lookup; the save, for another
    reason than its key; or, after a save that was refused for its key, the re-fetch, also where it
    found nothing. The error is that of this call. That a key is taken is answered only where a
    lookup has failed so, never because of a save. Collaborators that do not panic always get it to
    answer. -/
theorem store_errors_reported {c : InitiatePayment} {amount : Money}
    (hvalid : c.validate = .ok amount) (d : Deadlines) {σ τ : Type} (env : Environment σ τ)
    (budget : Option Span) (s : Progress σ τ) :
    (∀ answer, ((initiate c d).run env budget s).1 = .finished answer →
      (∃ r, reads ((initiate c d).exchanges env budget s) = [r] ∧
        ∀ e, answer = .error e ↔ NoReceiptIn r ∧
          Failing c.idempotencyKey d.store (storeCalls ((initiate c d).exchanges env budget s)) e) ∧
      ∀ key, answer = .error (.duplicateKey key) →
        some (.error (.duplicateKey key)) ∈ lookups ((initiate c d).exchanges env budget s)) ∧
    (env.Steady → ∃ answer, ((initiate c d).run env none s).1 = .finished answer) := by
  refine ⟨fun answer hanswer => ?_, fun henv => ?_⟩
  · obtain ⟨r, hreads, herror⟩ := blames_initiate env budget hvalid d s hanswer
    refine ⟨⟨r, hreads, herror⟩, fun key hkey => ?_⟩
    obtain ⟨-, hfails⟩ := (herror _).1 hkey
    exact (List.filter_sublist.filterMap _).subset hfails.lookup_of_duplicateKey
  · obtain ⟨answer, s', hrun, -⟩ := (spends_initiate c d).run henv s
    exact ⟨answer, by rw [hrun]⟩

/-- The key is taken while nobody holds it yet, and the store is lost before the holder can be
    looked for. The state of the store is the number of calls so far. -/
def lostWinner : Environment Nat Unit where
  store
    | n, .findByKey _ => .immediate n (n + 1)
        (if n = 0 then .ok none else .error (.infrastructure "connection lost"))
    | n, .save p => .immediate n (n + 1) (.error (.duplicateKey "key-1"), p)
    | n, .findById id => .immediate n (n + 1) (.error (.notFound id))
    | n, .ping => .immediate n (n + 1) (.ok ())
  cache
    | t, .get _ => .immediate t t (.error (.unavailable "refused"))
    | t, .set _ _ _ => .immediate t t (.error (.unavailable "refused"))
    | t, .evict _ => .immediate t t (.error (.unavailable "refused"))
    | t, .ping => .immediate t t (.error (.unavailable "refused"))
  clock := ⟨10, 0⟩
  paymentId n := ⟨BitVec.ofNat 128 (n + 2)⟩
  correlationId := ⟨0⟩

/-- The lost re-fetch is the answer, neither the cache that is down nor the key that is taken. -/
theorem store_errors_reported_lostWinner : ∃ answer,
    ((initiate ⟨⟨7⟩, "order-1", "customer-1", 100, "USD", "key-1"⟩ .standard).run lostWinner none
      ⟨0, (), 0, 0, []⟩).1 = .finished answer ∧
    answer = .error (.infrastructure "idempotency key re-fetch: connection lost") ∧
    Failing "key-1" Deadlines.standard.store (storeCalls
      ((initiate ⟨⟨7⟩, "order-1", "customer-1", 100, "USD", "key-1"⟩ .standard).exchanges lostWinner
        none ⟨0, (), 0, 0, []⟩))
      (.infrastructure "idempotency key re-fetch: connection lost") := by
  have hvalid : InitiatePayment.validate ⟨⟨7⟩, "order-1", "customer-1", 100, "USD", "key-1"⟩ =
      .ok ⟨100, "USD"⟩ := by
    decide +kernel
  have hsteady : lostWinner.Steady := by
    refine ⟨?_, ?_⟩
    · rintro n c p h
      cases c <;> cases h
    · rintro t c p h
      cases c <;> cases h
  have hrun : ((initiate ⟨⟨7⟩, "order-1", "customer-1", 100, "USD", "key-1"⟩ .standard).run
      lostWinner none ⟨0, (), 0, 0, []⟩).1 =
      .finished (.error (.infrastructure "idempotency key re-fetch: connection lost")) := by
    decide +kernel
  obtain ⟨hblames, hfinishes⟩ := store_errors_reported hvalid .standard lostWinner none
    ⟨0, (), 0, 0, []⟩
  obtain ⟨answer, hanswer⟩ := hfinishes hsteady
  obtain ⟨⟨r, -, herror⟩, -⟩ := hblames answer hanswer
  cases hanswer.symm.trans hrun
  exact ⟨_, hanswer, rfl, ((herror _).1 rfl).2⟩

end PayOnce
