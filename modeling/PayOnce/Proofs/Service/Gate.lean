import PayOnce.Proofs.Payment.Money
import PayOnce.Proofs.Service.Blame
import PayOnce.Proofs.Service.Origins
/-!
Validation as a gate. A command that something is wrong with is refused for the first thing that is,
before anybody hears of it. A command that passes is never refused later on: what it asks for can be
issued, so that an initiation answers that a value is refused only where the store has said so.
-/

namespace PayOnce

open Text

/-! ## What can be wrong with a command -/

/-- What can be wrong with a command, in the order in which it is told. -/
inductive Flaw
  | orderId
  | customerId
  | amount
  | currency
  | idempotencyKey
  | currencyCode
deriving DecidableEq, Repr

namespace Flaw

/-- All flaws, in their order. -/
def inOrder : List Flaw :=
  [orderId, customerId, amount, currency, idempotencyKey, currencyCode]

theorem mem_inOrder (f : Flaw) : f ∈ inOrder := by
  cases f <;> decide

/-- The command has the flaw. -/
def Spoils (c : InitiatePayment) : Flaw → Prop
  | orderId => isBlank c.orderId = true
  | customerId => isBlank c.customerId = true
  | amount => c.amount ≤ 0
  | currency => isBlank c.currency = true
  | idempotencyKey => isBlank c.idempotencyKey = true
  | currencyCode => Money.isCurrencyCode (trim c.currency) = false

instance (c : InitiatePayment) : DecidablePred (Spoils c)
  | orderId => inferInstanceAs (Decidable (isBlank c.orderId = true))
  | customerId => inferInstanceAs (Decidable (isBlank c.customerId = true))
  | amount => inferInstanceAs (Decidable (c.amount ≤ 0))
  | currency => inferInstanceAs (Decidable (isBlank c.currency = true))
  | idempotencyKey => inferInstanceAs (Decidable (isBlank c.idempotencyKey = true))
  | currencyCode => inferInstanceAs (Decidable (Money.isCurrencyCode (trim c.currency) = false))

/-- The command has the flaw, and none that comes before it. -/
def First (c : InitiatePayment) (f : Flaw) : Prop :=
  f.Spoils c ∧ ∃ before after, inOrder = before ++ f :: after ∧ ∀ g ∈ before, ¬ g.Spoils c

theorem first_iff {c : InitiatePayment} {f : Flaw} :
    First c f ↔ inOrder.find? (fun f => decide (f.Spoils c)) = some f := by
  simp [First, List.find?_eq_some_iff_append]

/-- The words in which a flaw of the command is told. -/
def message (c : InitiatePayment) : Flaw → String
  | orderId => "order_id is required"
  | customerId => "customer_id is required"
  | amount => "amount must be a positive integer"
  | currency => "currency is required"
  | idempotencyKey => "idempotency_key is required"
  | currencyCode =>
    "currency must be a 3-letter code, got " ++ Quoted.text (upperAscii (trim c.currency))

/-- Why a command with the flaw is refused. -/
def cause (c : InitiatePayment) : Flaw → Invalid
  | orderId => .required "order_id"
  | customerId => .required "customer_id"
  | amount => .requestedAmount
  | currency => .required "currency"
  | idempotencyKey => .required "idempotency_key"
  | currencyCode => .currency (upperAscii (trim c.currency))

theorem message_cause (c : InitiatePayment) (f : Flaw) : (f.cause c).message = f.message c := by
  cases f <;> rfl

/-- A flawed command has a first flaw. -/
theorem exists_first {c : InitiatePayment} {f : Flaw} (h : f.Spoils c) : ∃ g, First c g := by
  simp only [first_iff, ← Option.isSome_iff_exists, List.find?_isSome]
  exact ⟨f, mem_inOrder f, decide_eq_true h⟩

end Flaw

/-- Nothing is wrong with the command. -/
def InitiatePayment.WellFormed (c : InitiatePayment) : Prop :=
  ∀ f : Flaw, ¬ f.Spoils c

instance (c : InitiatePayment) : Decidable c.WellFormed :=
  decidable_of_iff (∀ f ∈ Flaw.inOrder, ¬ f.Spoils c)
    ⟨fun h f => h f f.mem_inOrder, fun h f _ => h f⟩

/-! ## What validation decides -/

/-- A field is refused where it is blank, and only there. -/
theorem refuseBlank_bind {α : Type} (field value : String) (next : Except DomainError α) :
    (do refuseBlank field value; next) =
      if isBlank value then .error (.validation (.required field)) else next := by
  unfold refuseBlank
  split <;> rfl

namespace InitiatePayment

variable {c : InitiatePayment}

/-- Validation looks for one flaw after the other. -/
theorem validate_eq (c : InitiatePayment) : c.validate =
    match Flaw.inOrder.find? (fun f => decide (f.Spoils c)) with
    | some f => .error (.validation (f.cause c))
    | none => .ok ⟨c.amount, upperAscii (trim c.currency)⟩ := by
  unfold validate
  simp only [refuseBlank_bind, Flaw.inOrder, List.find?_cons]
  by_cases horder : isBlank c.orderId = true
  · simp [horder, Flaw.Spoils, Flaw.cause]
  by_cases hcustomer : isBlank c.customerId = true
  · simp [horder, hcustomer, Flaw.Spoils, Flaw.cause]
  by_cases hamount : c.amount ≤ 0
  · simp [horder, hcustomer, hamount, Flaw.Spoils, Flaw.cause]
    rfl
  by_cases hcurrency : isBlank c.currency = true
  · simp [horder, hcustomer, hamount, hcurrency, Flaw.Spoils, Flaw.cause]
  by_cases hkey : isBlank c.idempotencyKey = true
  · simp [horder, hcustomer, hamount, hcurrency, hkey, Flaw.Spoils, Flaw.cause]
  by_cases hcode : Money.isCurrencyCode (trim c.currency) = true
  · simp [horder, hcustomer, hamount, hcurrency, hkey, hcode, Flaw.Spoils, Money.make,
      Money.normalCurrency, Money.isCurrencyCode_upperAscii]
  · simp [horder, hcustomer, hamount, hcurrency, hkey, hcode, Flaw.Spoils, Flaw.cause, Money.make,
      Money.normalCurrency, Money.isCurrencyCode_upperAscii]

/-- A flawed command is refused for its first flaw. -/
theorem validate_of_first {f : Flaw} (h : f.First c) :
    c.validate = .error (.validation (f.cause c)) := by
  rw [validate_eq, Flaw.first_iff.1 h]

/-- A command without a flaw passes, with its currency in normal form. -/
theorem WellFormed.validate_eq_ok (h : c.WellFormed) :
    c.validate = .ok ⟨c.amount, upperAscii (trim c.currency)⟩ := by
  have hnone : Flaw.inOrder.find? (fun f => decide (f.Spoils c)) = none := by
    simpa using fun f _ => h f
  rw [validate_eq, hnone]

/-- The commands that pass are those without a flaw. -/
theorem wellFormed_iff : c.WellFormed ↔ ∃ amount, c.validate = .ok amount := by
  constructor
  · intro h
    exact ⟨_, h.validate_eq_ok⟩
  · rintro ⟨amount, hvalid⟩ f hf
    obtain ⟨g, hg⟩ := Flaw.exists_first hf
    cases hvalid.symm.trans (validate_of_first hg)

end InitiatePayment

/-! ## What runs ask for, and what they are told -/

/-- The request that an event is. -/
def Event.request? : Event → Option Request
  | store c => some (.store c)
  | cache c => some (.cache c)
  | signal s => some (.signal s)
  | log _ => none

/-- Rules that say only which requests may be made. -/
def Rules.only (P : Request → Prop) : Rules Unit where
  drift _ _ := True
  allows _ q := P q
  leads _ _ _ _ := True
  drift_refl _ := trivial
  drift_trans _ _ _ _ _ := trivial

/-- The error that a reply of the store is. -/
def StoreCall.error? : (c : StoreCall) → c.Reply → Option DomainError
  | .findByKey _, .error e => some e
  | .findByKey _, .ok _ => none
  | .findById _, .error e => some e
  | .findById _, .ok _ => none
  | .save _, (.error e, _) => some e
  | .save _, (.ok _, _) => none
  | .ping, .error e => some e
  | .ping, .ok _ => none

/-- What has been done between one progress and another one are requests of some kind, apart from
    what was written to the log. -/
def Progress.Did {σ τ : Type} (P : Request → Prop) (s s' : Progress σ τ) : Prop :=
  ∃ new, s'.events = new ++ s.events ∧ ∀ e ∈ new, ∀ q, e.request? = some q → P q

section Did

variable {σ τ : Type} {P : Request → Prop} {s s₁ s' : Progress σ τ}

theorem Progress.Did.nothing (h : s'.events = s.events) : s.Did P s' :=
  ⟨[], h, by simp⟩

/-- One thing is done before the rest. -/
theorem Progress.Did.after {e : Event} (hs : s₁.events = e :: s.events)
    (he : ∀ q, e.request? = some q → P q) (h : s₁.Did P s') : s.Did P s' := by
  obtain ⟨new, hnew, hall⟩ := h
  refine ⟨new ++ [e], by simp [hnew, hs], ?_⟩
  intro e' he'
  rcases List.mem_append.1 he' with hmem | hmem
  · exact hall e' hmem
  · rw [List.mem_singleton.1 hmem]
    exact he

theorem Progress.Did.one {e : Event} (h : s'.events = e :: s.events)
    (he : ∀ q, e.request? = some q → P q) : s.Did P s' :=
  .after h he (.nothing rfl)

end Did

/-- An answer of the store in an exchange is one that it gives. -/
def Environment.Gives {σ τ : Type} (env : Environment σ τ) : Exchange → Prop
  | .store c (some r) => ∃ t, (env.store t c).ending = .answer r
  | .store _ none => True
  | .cache _ _ => True
  | .now _ => True
  | .paymentId _ => True
  | .signal _ => True

/-- A call that has ended has been answered. -/
theorem Conduct.ending_of_ended {σ ρ : Type} {c : Conduct σ ρ} {limit budget : Option Span}
    {start t : Span} {r : ρ} (h : c.verdict limit budget start = .ended t r) :
    c.ending = .answer r := by
  unfold verdict at h
  cases hending : c.ending <;> grind

namespace Program

variable {α σ τ : Type}

/-- A program that keeps to certain requests makes no other ones in a run. -/
theorem Obeys.did_run {P : Request → Prop} {post : α → Unit → Prop} {p : Program α}
    (h : p.Obeys (.only P) post ()) (env : Environment σ τ) (budget : Option Span)
    (s : Progress σ τ) : s.Did P (p.run env budget s).2 := by
  induction p generalizing s with
  | done a => exact .nothing rfl
  | store c next ih => exact h.elim
  | storeWithin limit c next ih =>
    obtain ⟨hstore, hnext⟩ := h () trivial
    have hcall : ∀ q, (Event.store c).request? = some q → P q := by
      rintro q ⟨⟩
      exact hstore
    simp only [Program.run]
    cases (env.store s.store c).verdict (some limit) budget s.elapsed with
    | ended t r => exact .after rfl hcall (ih (some r) (hnext _ _ trivial) _)
    | expired t => exact .after rfl hcall (ih none (hnext _ _ trivial) _)
    | _ => exact .one rfl hcall
  | cacheWithin limit c next ih =>
    obtain ⟨hcache, hnext⟩ := h () trivial
    have hcall : ∀ q, (Event.cache c).request? = some q → P q := by
      rintro q ⟨⟩
      exact hcache
    simp only [Program.run]
    cases (env.cache s.cache c).verdict (some limit) budget s.elapsed with
    | ended t r => exact .after rfl hcall (ih (some r) (hnext _ _ trivial) _)
    | expired t => exact .after rfl hcall (ih none (hnext _ _ trivial) _)
    | _ => exact .one rfl hcall
  | ask q next ih =>
    cases q with
    | now => exact ih _ ((h () trivial).2 _ _ trivial) s
    | paymentId => exact ih _ ((h () trivial).2 _ _ trivial) _
    | correlationId => exact h.elim
    | elapsed => exact h.elim
  | signal g next ih =>
    obtain ⟨hsignal, hnext⟩ := h () trivial
    refine .after rfl ?_ (ih (hnext _ trivial) _)
    rintro q ⟨⟩
    exact hsignal
  | log e next ih =>
    refine .after rfl ?_ (ih h _)
    rintro q ⟨⟩
  | wait d next ih => exact h.elim

/-- Every answer that a run has had from the store was given by it. -/
theorem gives_exchanges (env : Environment σ τ) (budget : Option Span) (p : Program α)
    (s : Progress σ τ) : ∀ x ∈ p.exchanges env budget s, env.Gives x := by
  induction p generalizing s with
  | done a => simp [exchanges]
  | store c next ih =>
    simp only [exchanges]
    split
    · next t r hverdict =>
      exact List.forall_mem_cons.2 ⟨⟨_, Conduct.ending_of_ended hverdict⟩, ih _ _⟩
    · simp
  | storeWithin limit c next ih =>
    simp only [exchanges]
    split
    · next t r hverdict =>
      exact List.forall_mem_cons.2 ⟨⟨_, Conduct.ending_of_ended hverdict⟩, ih _ _⟩
    · exact List.forall_mem_cons.2 ⟨trivial, ih _ _⟩
    · simp
  | cacheWithin limit c next ih =>
    simp only [exchanges]
    split
    · exact List.forall_mem_cons.2 ⟨trivial, ih _ _⟩
    · exact List.forall_mem_cons.2 ⟨trivial, ih _ _⟩
    · simp
  | ask q next ih =>
    cases q with
    | now => exact List.forall_mem_cons.2 ⟨trivial, ih _ _⟩
    | paymentId => exact List.forall_mem_cons.2 ⟨trivial, ih _ _⟩
    | correlationId => exact ih _ _
    | elapsed => exact ih _ _
  | signal g next ih => exact List.forall_mem_cons.2 ⟨trivial, ih _⟩
  | log e next ih => exact ih _
  | wait d next ih =>
    simp only [exchanges]
    split
    · exact ih _
    · simp

end Program

/-! ## Initiations of well-formed commands -/

namespace Initiation

open Program

/-- All that an initiation may save is what the command asks for. -/
def AsksFor (d : Draft) : Request → Prop
  | .store (.save p) => ∃ id now, p = d.issue id now
  | _ => True

theorem asks_announce (d : Draft) (s : Signal) (p : Payment) (key : String) (limit : Span) :
    (announce s p key limit).Obeys (.only (AsksFor d)) (fun _ _ => True) () :=
  fun _ _ => ⟨trivial, fun _ _ _ _ => ⟨trivial, fun _ _ _ => trivial⟩⟩

theorem asks_lookup (d : Draft) (operation key : String) (limit : Span)
    {found : Payment → Program (Except DomainError Receipt)}
    {nothing : Program (Except DomainError Receipt)}
    (hfound : ∀ p, (found p).Obeys (.only (AsksFor d)) (fun _ _ => True) ())
    (hnothing : nothing.Obeys (.only (AsksFor d)) (fun _ _ => True) ()) :
    (Program.storeWithin limit (.findByKey key) (fromLookup operation limit found nothing)).Obeys
      (.only (AsksFor d)) (fun _ _ => True) () := by
  refine fun _ _ => ⟨trivial, fun r _ _ => ?_⟩
  rcases r with _ | e | _ | p
  · trivial
  · trivial
  · exact hnothing
  · exact hfound p

theorem asks_issueAndSave (d : Draft) (deadlines : Deadlines) :
    (issueAndSave d deadlines).Obeys (.only (AsksFor d)) (fun _ _ => True) () := by
  refine fun _ _ => ⟨trivial, fun now _ _ _ _ => ⟨trivial, fun id _ _ _ _ => ?_⟩⟩
  refine ⟨⟨id, now, rfl⟩, fun r _ _ => ?_⟩
  rcases r with _ | ⟨e | rows, saved⟩
  · trivial
  · cases e with
    | duplicateKey key => exact asks_lookup d _ _ _ (fun p => asks_announce d _ p _ _) trivial
    | _ => trivial
  · exact asks_announce d _ saved _ _

theorem asks_outline {c : InitiatePayment} {amount : Money} (hvalid : c.validate = .ok amount)
    (deadlines : Deadlines) :
    (outline c deadlines).Obeys (.only (AsksFor (c.draft amount))) (fun _ _ => True) () := by
  have hlook : (lookOrCreate (c.draft amount) deadlines).Obeys (.only (AsksFor (c.draft amount)))
      (fun _ _ => True) () :=
    asks_lookup _ _ _ _ (fun p => asks_announce _ _ p _ _) (asks_issueAndSave _ deadlines)
  unfold outline
  rw [hvalid]
  refine fun _ _ => ⟨trivial, fun r _ _ => ?_⟩
  change (fromReading _ _ (Reading.of r)).Obeys _ _ ()
  cases Reading.of r with
  | receipt receipt => exact fun _ _ => ⟨trivial, fun _ _ => trivial⟩
  | nothing => exact hlook
  | spoiled => exact fun _ _ => ⟨trivial, fun _ _ _ => hlook⟩
  | down => exact fun _ _ => ⟨trivial, fun _ _ => hlook⟩

/-- A run of an initiation of a well-formed command begins with a look into the cache, and saves
    nothing but what the command asks for. -/
theorem did_initiate {σ τ : Type} (env : Environment σ τ) (budget : Option Span)
    {c : InitiatePayment} {amount : Money} (hvalid : c.validate = .ok amount)
    (deadlines : Deadlines) (s : Progress σ τ) : ∃ s₁ : Progress σ τ,
      s₁.events = .cache (.get c.idempotencyKey) :: s.events ∧
      s₁.Did (AsksFor (c.draft amount)) ((initiate c deadlines).run env budget s).2 := by
  have hasks := asks_outline hvalid deadlines
  rw [← unlogged_initiate, obeys_unlogged, initiate_eq hvalid] at hasks
  obtain ⟨-, hnext⟩ := hasks () trivial
  rw [initiate_eq hvalid]
  simp only [run]
  cases (env.cache s.cache (.get c.idempotencyKey)).verdict (some deadlines.cache) budget
      s.elapsed with
  | ended t r => exact ⟨_, rfl, (hnext (some r) _ trivial).did_run env budget _⟩
  | expired t => exact ⟨_, rfl, (hnext none _ trivial).did_run env budget _⟩
  | _ => exact ⟨_, rfl, .nothing rfl⟩

/-- An error that does not tell of the infrastructure has been told by one of the calls. -/
theorem Failing.told {key : String} {limit : Span} {calls : List Exchange} {x : DomainError}
    (h : Failing key limit calls x) (hx : ∀ detail, x ≠ .infrastructure detail) :
    ∃ (call : StoreCall) (r : call.Reply),
      .store call (some r) ∈ calls ∧ call.error? r = some x := by
  generalize he : x = x' at h
  cases h with
  | lookup h =>
    cases eq_some_of_failure he.symm hx
    cases h
    exact ⟨_, _, List.mem_singleton_self _, congrArg some he⟩
  | @save p r e h hkey =>
    cases eq_some_of_failure he.symm hx
    obtain _ | ⟨_, q⟩ := r <;> cases h
    exact ⟨_, _, List.mem_cons_of_mem _ (List.mem_singleton_self _), congrArg some he⟩
  | refetch h =>
    cases eq_some_of_failure he.symm hx
    cases h
    exact ⟨_, _, List.mem_cons_of_mem _ (List.mem_cons_of_mem _ (List.mem_singleton_self _)),
      congrArg some he⟩
  | vanished => exact absurd he (hx _)

end Initiation

/-- The store never says that a value is refused. -/
def Environment.NeverInvalid {σ τ : Type} (env : Environment σ τ) : Prop :=
  ∀ t (call : StoreCall) r cause, (env.store t call).ending = .answer r →
    call.error? r ≠ some (.validation cause)

/-- Nothing but the store's own word makes an initiation of a well-formed command answer that a
    value is refused. -/
theorem Environment.NeverInvalid.run_initiate {σ τ : Type} {env : Environment σ τ}
    (henv : env.NeverInvalid) (budget : Option Span) {c : InitiatePayment} {amount : Money}
    (hvalid : c.validate = .ok amount) (d : Deadlines) (s : Progress σ τ) (cause : Invalid) :
    ((initiate c d).run env budget s).1 ≠ .finished (.error (.validation cause)) := by
  intro hrun
  obtain ⟨r, -, herror⟩ := Initiation.blames_initiate env budget hvalid d s hrun
  obtain ⟨-, hfails⟩ := (herror _).1 rfl
  obtain ⟨call, r, hmem, hr⟩ := hfails.told nofun
  obtain ⟨t, ht⟩ :=
    Program.gives_exchanges env budget (initiate c d) s _ (List.mem_of_mem_filter hmem)
  exact henv t call r cause ht hr

/-- Validation decides everything there is to decide about a command. A flawed one is refused for
    its first flaw, in its words, and nothing else happens: nobody is called, asked or told. Only
    flawed commands are refused so. Of a command without a flaw a payment can always be made, with
    its currency in upper case and without blanks around it; nothing else is ever saved for it, and
    it is never answered that a value is refused unless the store says so. -/
theorem validation_is_a_gate (c : InitiatePayment) (d : Deadlines) {σ τ : Type}
    (env : Environment σ τ) (budget : Option Span) (s : Progress σ τ) :
    (∀ f : Flaw, f.First c → ∃ cause : Invalid, cause.message = f.message c ∧
      (initiate c d).run env budget s = (.finished (.error (.validation cause)), s) ∧
      (initiate c d).exchanges env budget s = []) ∧
    ((∃ cause, (initiate c d).run env budget s = (.finished (.error (.validation cause)), s)) ↔
      ∃ f : Flaw, f.Spoils c) ∧
    (c.WellFormed → ∃ amount : Money, amount = ⟨c.amount, upperAscii (trim c.currency)⟩ ∧
      c.validate = .ok amount ∧ (c.draft amount).check = .ok () ∧
      (env.NeverInvalid →
        ∀ cause, ((initiate c d).run env budget s).1 ≠ .finished (.error (.validation cause))) ∧
      ∃ new, ((initiate c d).run env budget s).2.events = new ++ s.events ∧
        ∀ p, .store (.save p) ∈ new → ∃ id now, p = (c.draft amount).issue id now) := by
  have hflawed (f : Flaw) (hf : f.First c) :
      initiate c d = .done (.error (.validation (f.cause c))) := by
    unfold initiate
    rw [InitiatePayment.validate_of_first hf]
    rfl
  refine ⟨fun f hf => ?_, ⟨?_, ?_⟩, fun hc => ?_⟩
  · refine ⟨f.cause c, f.message_cause c, ?_, ?_⟩
    · rw [hflawed f hf]
      rfl
    · rw [hflawed f hf]
      rfl
  · rintro ⟨cause, hrun⟩
    by_contra hnone
    obtain ⟨s₁, hs₁, new, hnew, -⟩ := Initiation.did_initiate env budget
      (InitiatePayment.WellFormed.validate_eq_ok fun f hf => hnone ⟨f, hf⟩) d s
    -- Something has been done, at least one look into the cache.
    rw [hrun, hs₁] at hnew
    have hlength := congrArg List.length hnew
    simp only [List.length_append, List.length_cons] at hlength
    omega
  · rintro ⟨f, hf⟩
    obtain ⟨g, hg⟩ := Flaw.exists_first hf
    exact ⟨g.cause c, by rw [hflawed g hg]; rfl⟩
  · have hvalid := hc.validate_eq_ok
    refine ⟨_, rfl, hvalid, Initiation.check_draft hvalid, ?_, ?_⟩
    · exact fun henv cause => henv.run_initiate budget hvalid d s cause
    · obtain ⟨s₁, hs₁, new, hnew, hasks⟩ := Initiation.did_initiate env budget hvalid d s
      refine ⟨new ++ [.cache (.get c.idempotencyKey)], by simp [hnew, hs₁], fun p hp => ?_⟩
      have hp : .store (.save p) ∈ new := by simpa using hp
      exact hasks _ hp _ rfl

/-- A customer of blanks only is told before a currency that is no code, and nobody is called. The
    code of a well-formed command is told to the store without its blanks and in upper case. -/
theorem validation_is_a_gate_blankCustomer :
    (∃ cause : Invalid, cause.message = "customer_id is required" ∧
      (initiate ⟨⟨7⟩, "order-1", "\u3000", 100, "euro", "key-1"⟩ .standard).run lostWinner none
        ⟨0, (), 0, 0, []⟩ = (.finished (.error (.validation cause)), ⟨0, (), 0, 0, []⟩)) ∧
    ∃ p, .store (.save p) ∈ ((initiate ⟨⟨7⟩, "order-1", "customer-1", 100, " usd\n", "key-1"⟩
        .standard).run lostWinner none ⟨0, (), 0, 0, []⟩).2.events ∧
      p.facts.amount = ⟨100, "USD"⟩ := by
  refine ⟨?_, ?_⟩
  · have hfirst : Flaw.customerId.First ⟨⟨7⟩, "order-1", "\u3000", 100, "euro", "key-1"⟩ :=
      Flaw.first_iff.2 (by decide +kernel)
    obtain ⟨hflawed, -, -⟩ := validation_is_a_gate ⟨⟨7⟩, "order-1", "\u3000", 100, "euro", "key-1"⟩
      .standard lostWinner none ⟨0, (), 0, 0, []⟩
    obtain ⟨cause, hcause, hrun, -⟩ := hflawed .customerId hfirst
    exact ⟨cause, hcause, hrun⟩
  · have hsaved : .store (.save (Draft.issue ⟨"order-1", "customer-1", ⟨100, "USD"⟩, "key-1"⟩ ⟨2⟩
        ⟨10, 0⟩)) ∈ ((initiate ⟨⟨7⟩, "order-1", "customer-1", 100, " usd\n", "key-1"⟩ .standard).run
          lostWinner none ⟨0, (), 0, 0, []⟩).2.events := by
      decide +kernel
    obtain ⟨-, -, hpasses⟩ := validation_is_a_gate
      ⟨⟨7⟩, "order-1", "customer-1", 100, " usd\n", "key-1"⟩ .standard lostWinner none
      ⟨0, (), 0, 0, []⟩
    obtain ⟨amount, hamount, -, -, -, new, hnew, hsaves⟩ := hpasses (by decide +kernel)
    rw [hnew, List.append_nil] at hsaved
    obtain ⟨id, now, hp⟩ := hsaves _ hsaved
    have hcurrency : amount = ⟨100, "USD"⟩ := hamount.trans (by decide +kernel)
    refine ⟨_, by rw [hnew, List.append_nil]; exact hsaved, ?_⟩
    rw [hp]
    exact hcurrency

end PayOnce
