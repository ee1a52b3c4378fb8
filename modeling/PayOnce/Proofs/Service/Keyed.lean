import PayOnce.Proofs.Service.Gate
import PayOnce.Proofs.Service.Parts
import PayOnce.Proofs.Service.Words
/-!
One key for each initiation. All that an initiation asks of the collaborators is about the key of
its command, and a receipt that it ends with was told to it under this key.
-/

namespace PayOnce

/-- A request about a key, or one that is about no payment. -/
def Request.Under (key : String) : Request → Prop
  | .store (.findByKey key') => key' = key
  | .store (.save p) => p.facts.idempotencyKey = key
  | .store (.findById _) => False
  | .store .ping => False
  | .cache c => c.Under key
  | .now => True
  | .paymentId => True
  | .signal _ => True

/-- An exchange about a key tells a receipt: it is in the cache under the key, or it is the receipt
    of the payment that holds the key, or of a payment with the key that has just been saved. -/
inductive Exchange.Tells (key : String) : Receipt → Exchange → Prop
  | cached {entry : String} {receipt : Receipt}
      (h : Receipt.decode (Json.glyphsOf entry) = .ok receipt) :
      Tells key receipt (.cache (.get key) (some (.ok (some entry))))
  | stored (p : Payment) : Tells key (.ofPayment p) (.store (.findByKey key) (some (.ok (some p))))
  | created {p : Payment} (rows : List OutboxRow) (saved : Payment)
      (h : p.facts.idempotencyKey = key) :
      Tells key (.ofPayment saved) (.store (.save p) (some (.ok rows, saved)))

/-! ## Rules that keep the exchanges -/

/-- Rules that say which requests may be made, and keep all exchanges. -/
def Rules.recording (P : Request → Prop) : Rules (List Exchange) where
  drift es es' := es' = es
  allows _ q := P q
  leads es _ x es' := es' = es ++ [x]
  drift_refl _ := rfl
  drift_trans _ _ _ h h' := h'.trans h

namespace Program

variable {α κ κ' σ τ : Type}

/-- A program that obeys some rules also obeys those of a world that can be followed by them. -/
theorem Obeys.followed {R : Rules κ} {R' : Rules κ'} {S : κ' → κ → Prop} {post : α → κ → Prop}
    {post' : α → κ' → Prop}
    (hdrift : ∀ {v w v'}, S v w → R'.drift v v' → ∃ w', R.drift w w' ∧ S v' w')
    (hallows : ∀ {v w q}, S v w → R.allows w q → R'.allows v q)
    (hleads : ∀ {v w limit x v'}, S v w → R'.leads v limit x v' →
      ∃ w', R.leads w limit x w' ∧ S v' w')
    (hpost : ∀ {a v w}, S v w → post a w → post' a v) {p : Program α} {v : κ'} {w : κ}
    (h : p.Obeys R post w) (hvw : S v w) : p.Obeys R' post' v := by
  -- A request that the rules allow is allowed, and what follows an exchange is followed on.
  have hstep {q : Request} {limit : Span} {ρ : Type} {x : ρ → Exchange} {next : ρ → Program α}
      {v : κ'} {w : κ} (hvw : S v w)
      (ih : ∀ r {v w}, (next r).Obeys R post w → S v w → (next r).Obeys R' post' v)
      (h : ∀ w', R.drift w w' → R.allows w' q ∧
        ∀ r w'', R.leads w' limit (x r) w'' → (next r).Obeys R post w'') :
      ∀ v', R'.drift v v' → R'.allows v' q ∧
        ∀ r v'', R'.leads v' limit (x r) v'' → (next r).Obeys R' post' v'' := by
    intro v' hv'
    obtain ⟨w', hw', hvw'⟩ := hdrift hvw hv'
    obtain ⟨hq, hnext⟩ := h w' hw'
    refine ⟨hallows hvw' hq, fun r v'' hv'' => ?_⟩
    obtain ⟨w'', hw'', hvw''⟩ := hleads hvw' hv''
    exact ih r (hnext r w'' hw'') hvw''
  induction p generalizing v w with
  | done a => exact hpost hvw h
  | store c next ih => exact h.elim
  | storeWithin limit c next ih => exact hstep hvw ih h
  | cacheWithin limit c next ih => exact hstep hvw ih h
  | ask q next ih =>
    cases q with
    | now => exact hstep hvw ih h
    | paymentId => exact hstep hvw ih h
    | correlationId => exact h.elim
    | elapsed => exact h.elim
  | signal s next ih =>
    intro v' hv'
    obtain ⟨hs, hnext⟩ := hstep (x := fun _ : Unit => .signal s) hvw (fun _ _ _ => ih)
      (fun w' hw' => ⟨(h w' hw').1, fun _ => (h w' hw').2⟩) v' hv'
    exact ⟨hs, hnext ()⟩
  | log e next ih => exact ih h hvw
  | wait d next ih => exact h.elim

theorem obeys_inSpan {R : Rules κ} {post : α → κ → Prop} (span : LogSpan) (p : Program α) (w : κ) :
    (p.inSpan span).Obeys R post w ↔ p.Obeys R post w := by
  rw [← obeys_unlogged, unlogged_inSpan, obeys_unlogged]

/-- What a program obeys that is recorded holds of its runs and their exchanges. -/
theorem Obeys.recorded {P : Request → Prop} {post : α → List Exchange → Prop} {p : Program α}
    (h : p.Obeys (.recording P) post []) (env : Environment σ τ) (budget : Option Span)
    (s : Progress σ τ) :
    s.Did P (p.run env budget s).2 ∧
      ∀ a, (p.run env budget s).1 = .finished a → post a (p.exchanges env budget s) := by
  constructor
  · have honly : p.Obeys (.only P) (fun _ _ => True) () :=
      h.followed (S := fun _ _ => True) (fun _ _ => ⟨_, rfl, trivial⟩) (fun _ hq => hq)
        (fun _ _ => ⟨_, rfl, trivial⟩) (fun _ _ => trivial) trivial
    exact honly.did_run env budget s
  · have hjournal : p.Obeys (env.rules fun _ => True) (fun a j => post a j.exchanges)
        (s.journal []) := by
      refine h.followed (S := fun j es => j.exchanges = es) ?_ ?_ ?_ ?_ rfl
      · rintro j es j' rfl rfl
        exact ⟨_, rfl, rfl⟩
      · rintro j es (_ | _) - - <;> trivial
      · rintro j es limit x j' rfl hleads
        refine ⟨_, rfl, ?_⟩
        cases hleads <;> rfl
      · rintro a j es rfl hpost
        exact hpost
    intro a ha
    have hleaves := hjournal.run budget
    rw [List.nil_append, ha] at hleaves
    exact hleaves

end Program

/-! ## Runs and their parts -/

section Parts

variable {α β σ τ : Type} (env : Environment σ τ) (budget : Option Span)

/-- What is done on the way to one progress and from there on to another one is done between. -/
theorem Progress.Did.trans {P : Request → Prop} {s t u : Progress σ τ} (h : s.Did P t)
    (h' : t.Did P u) : s.Did P u := by
  obtain ⟨new, hnew, hall⟩ := h
  obtain ⟨new', hnew', hall'⟩ := h'
  refine ⟨new' ++ new, by rw [hnew', hnew, List.append_assoc], ?_⟩
  intro e he
  rcases List.mem_append.1 he with he | he
  exacts [hall' e he, hall e he]

/-- What is exchanged in a run that goes on after the first of two programs, if it does. -/
def Program.exchangesThen (f : α → Program β) : Outcome α × Progress σ τ → List Exchange
  | (.finished a, s) => (f a).exchanges env budget s
  | (.cutOff, _) => []
  | (.hung, _) => []
  | (.panicked _, _) => []

theorem Program.exchanges_bind (p : Program α) (f : α → Program β) (s : Progress σ τ) :
    (p.bind f).exchanges env budget s =
      p.exchanges env budget s ++ exchangesThen env budget f (p.run env budget s) := by
  induction p generalizing s with
  | done a => rfl
  | store c next ih =>
    simp only [bind, run, exchanges]
    cases (env.store s.store c).verdict none budget s.elapsed with
    | ended t r => exact congrArg _ (ih r _)
    | _ => rfl
  | storeWithin limit c next ih =>
    simp only [bind, run, exchanges]
    cases (env.store s.store c).verdict (some limit) budget s.elapsed with
    | ended t r => exact congrArg _ (ih (some r) _)
    | expired t => exact congrArg _ (ih none _)
    | _ => rfl
  | cacheWithin limit c next ih =>
    simp only [bind, run, exchanges]
    cases (env.cache s.cache c).verdict (some limit) budget s.elapsed with
    | ended t r => exact congrArg _ (ih (some r) _)
    | expired t => exact congrArg _ (ih none _)
    | _ => rfl
  | ask q next ih =>
    cases q with
    | now => exact congrArg _ (ih _ _)
    | paymentId => exact congrArg _ (ih _ _)
    | correlationId => exact ih _ _
    | elapsed => exact ih _ _
  | signal g next ih => exact congrArg _ (ih _)
  | log e next ih => exact ih _
  | wait d next ih =>
    simp only [bind, run, exchanges]
    split
    · exact ih _
    · rfl

/-- Without its log a program ends in the same way after the same exchanges. -/
theorem Program.run_unlogged (p : Program α) {s s' : Progress σ τ} (h : s.Matches s') :
    (p.unlogged.run env budget s).1 = (p.run env budget s').1 ∧
      p.unlogged.exchanges env budget s = p.exchanges env budget s' := by
  induction p generalizing s s' with
  | done a => exact ⟨rfl, rfl⟩
  | store c next ih =>
    simp only [unlogged, run, exchanges, h.store, h.elapsed, h.cache]
    cases (env.store s'.store c).verdict none budget s'.elapsed with
    | ended t r => exact (ih r (h.did _ _ _ t)).imp_right (congrArg _)
    | _ => exact ⟨rfl, rfl⟩
  | storeWithin limit c next ih =>
    simp only [unlogged, run, exchanges, h.store, h.elapsed, h.cache]
    cases (env.store s'.store c).verdict (some limit) budget s'.elapsed with
    | ended t r => exact (ih (some r) (h.did _ _ _ t)).imp_right (congrArg _)
    | expired t => exact (ih none (h.did _ _ _ t)).imp_right (congrArg _)
    | _ => exact ⟨rfl, rfl⟩
  | cacheWithin limit c next ih =>
    simp only [unlogged, run, exchanges, h.store, h.elapsed, h.cache]
    cases (env.cache s'.cache c).verdict (some limit) budget s'.elapsed with
    | ended t r => exact (ih (some r) (h.did _ _ _ t)).imp_right (congrArg _)
    | expired t => exact (ih none (h.did _ _ _ t)).imp_right (congrArg _)
    | _ => exact ⟨rfl, rfl⟩
  | ask q next ih =>
    cases q with
    | now => exact (ih _ h).imp_right (congrArg _)
    | paymentId =>
      have hnext : Progress.Matches { s with issued := s'.issued + 1 }
          { s' with issued := s'.issued + 1 } :=
        ⟨h.store, h.cache, rfl, h.elapsed, h.events⟩
      simp only [unlogged, run, exchanges, h.issued]
      exact (ih _ hnext).imp_right (congrArg _)
    | correlationId => exact ih _ h
    | elapsed =>
      simp only [unlogged, run, exchanges, h.elapsed]
      exact ih _ h
  | signal g next ih =>
    have hnext : Progress.Matches { s with events := .signal g :: s.events }
        { s' with events := .signal g :: s'.events } :=
      ⟨h.store, h.cache, h.issued, h.elapsed, by simp only [List.filter_cons, h.events]⟩
    exact (ih hnext).imp_right (congrArg _)
  | log e next ih =>
    have hnext : s.Matches { s' with events := .log e :: s'.events } :=
      ⟨h.store, h.cache, h.issued, h.elapsed, h.events⟩
    exact ih hnext
  | wait d next ih =>
    simp only [unlogged, run, exchanges, h.elapsed]
    split
    · exact ih ⟨h.store, h.cache, h.issued, rfl, h.events⟩
    · exact ⟨rfl, rfl⟩

end Parts

/-! ## Initiations -/

namespace Initiation

open Program

/-- A receipt that is answered has been told under the key. -/
def Traced (key : String) (a : Except DomainError Receipt) (es : List Exchange) : Prop :=
  ∀ receipt, a = .ok receipt → ∃ x ∈ es, x.Tells key receipt

/-- The program keeps to a key. -/
abbrev Keeps (key : String) (p : Program (Except DomainError Receipt)) (es : List Exchange) :
    Prop :=
  p.Obeys (.recording (Request.Under key)) (Traced key) es

theorem traced_error {key : String} {e : DomainError} {es : List Exchange} :
    Traced key (.error e) es := by
  rintro _ ⟨⟩

variable {key : String} {es : List Exchange}

theorem keeps_announce {p : Payment} (htold : ∃ x ∈ es, x.Tells key (.ofPayment p)) (s : Signal)
    (limit : Span) : Keeps key (announce s p key limit) es := by
  rintro _ rfl
  refine ⟨trivial, ?_⟩
  rintro _ rfl _ rfl
  refine ⟨rfl, ?_⟩
  rintro r _ rfl receipt ⟨⟩
  obtain ⟨x, hx, htells⟩ := htold
  exact ⟨x, by simp [hx], htells⟩

theorem keeps_lookup (operation : String) (limit : Span)
    {found : Payment → Program (Except DomainError Receipt)}
    {nothing : Program (Except DomainError Receipt)}
    (hfound : ∀ p es, (∃ x ∈ es, x.Tells key (.ofPayment p)) → Keeps key (found p) es)
    (hnothing : ∀ es, Keeps key nothing es) :
    Keeps key (.storeWithin limit (.findByKey key) (fromLookup operation limit found nothing))
      es := by
  rintro _ rfl
  refine ⟨rfl, ?_⟩
  rintro r _ rfl
  rcases r with _ | e | _ | p
  · exact traced_error
  · exact traced_error
  · exact hnothing _
  · exact hfound p _ ⟨_, List.mem_append_right _ (List.mem_singleton_self _), .stored p⟩

theorem keeps_refetch (deadlines : Deadlines) : Keeps key (refetch key deadlines) es :=
  keeps_lookup _ _ (fun _ _ htold => keeps_announce htold _ _) fun _ => traced_error

theorem keeps_issueAndSave (draft : Draft) (deadlines : Deadlines) :
    Keeps draft.idempotencyKey (issueAndSave draft deadlines) es := by
  rintro _ rfl
  refine ⟨trivial, ?_⟩
  rintro now _ rfl _ rfl
  refine ⟨trivial, ?_⟩
  rintro id _ rfl _ rfl
  refine ⟨rfl, ?_⟩
  rintro r _ rfl
  rcases r with _ | ⟨e | rows, saved⟩
  · exact traced_error
  · cases e with
    | duplicateKey key' => exact keeps_refetch deadlines
    | _ => exact traced_error
  · exact keeps_announce
      ⟨_, List.mem_append_right _ (List.mem_singleton_self _), .created rows saved rfl⟩ _ _

theorem keeps_lookOrCreate (draft : Draft) (deadlines : Deadlines) :
    Keeps draft.idempotencyKey (lookOrCreate draft deadlines) es :=
  keeps_lookup _ _ (fun _ _ htold => keeps_announce htold _ _) fun _ =>
    keeps_issueAndSave draft deadlines

theorem keeps_fromReading (draft : Draft) (deadlines : Deadlines) {reading : Reading}
    (htold : ∀ receipt, reading = .receipt receipt →
      ∃ x ∈ es, x.Tells draft.idempotencyKey receipt) :
    Keeps draft.idempotencyKey (fromReading draft deadlines reading) es := by
  cases reading with
  | receipt receipt =>
    rintro _ rfl
    refine ⟨trivial, ?_⟩
    rintro _ rfl receipt' ⟨⟩
    obtain ⟨x, hx, htells⟩ := htold receipt rfl
    exact ⟨x, List.mem_append_left _ hx, htells⟩
  | nothing => exact keeps_lookOrCreate draft deadlines
  | spoiled =>
    rintro _ rfl
    refine ⟨rfl, ?_⟩
    rintro r _ rfl
    exact keeps_lookOrCreate draft deadlines
  | down =>
    rintro _ rfl
    refine ⟨trivial, ?_⟩
    rintro _ rfl
    exact keeps_lookOrCreate draft deadlines

theorem keeps_outline (c : InitiatePayment) (deadlines : Deadlines) :
    Keeps c.idempotencyKey (outline c deadlines) [] := by
  unfold outline
  cases c.validate with
  | error e => exact traced_error
  | ok amount =>
    rintro _ rfl
    refine ⟨rfl, ?_⟩
    rintro r _ rfl
    refine keeps_fromReading (c.draft amount) deadlines fun receipt hreading => ?_
    obtain ⟨entry, rfl, hdecode⟩ := (Reading.of_eq_receipt_iff ..).1 hreading
    exact ⟨_, List.mem_singleton_self _, .cached hdecode⟩

/-- All that an initiation asks for is about the key of its command, and so is the exchange that
    has told the receipt with which it ends. -/
theorem keeps_initiate (c : InitiatePayment) (deadlines : Deadlines) :
    Keeps c.idempotencyKey (initiate c deadlines) [] := by
  have h := keeps_outline c deadlines
  rwa [← unlogged_initiate, Keeps, obeys_unlogged] at h

end Initiation

end PayOnce
