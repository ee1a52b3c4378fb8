import PayOnce.Service.Initiation
import PayOnce.Service.Query
import PayOnce.Service.Run
/-!
Words. A failure outside the service, an error of the cache and a panic come in words that somebody
else has chosen. Two runs that are told the same in other words are followed side by side: they
make the same calls in the same order, and what they end with differs in words at most.
-/

namespace PayOnce

/-! ## The same in other words -/

/-- Two errors that are the same, or both tell in some words that something outside the domain
    failed. -/
inductive DomainError.Rewords : DomainError → DomainError → Prop
  | same (e : DomainError) : Rewords e e
  | infrastructure (detail detail' : String) :
    Rewords (.infrastructure detail) (.infrastructure detail')

/-- Two errors of the same kind. -/
inductive CacheError.Rewords : CacheError → CacheError → Prop
  | unavailable (detail detail' : String) : Rewords (.unavailable detail) (.unavailable detail')
  | corrupt (detail detail' : String) : Rewords (.corrupt detail) (.corrupt detail')
  | timeout (limit : Span) : Rewords (.timeout limit) (.timeout limit)

/-- Two outcomes with the same value, or with related errors. -/
inductive SameButError {ε α : Type} (E : ε → ε → Prop) : Except ε α → Except ε α → Prop
  | ok (a : α) : SameButError E (.ok a) (.ok a)
  | error {e e' : ε} (h : E e e') : SameButError E (.error e) (.error e')

/-- Two replies of the store with the same content. -/
def StoreCall.Rewords : (c : StoreCall) → c.Reply → c.Reply → Prop
  | .findByKey _ => SameButError DomainError.Rewords
  | .findById _ => SameButError DomainError.Rewords
  | .save _ => fun r r' => SameButError DomainError.Rewords r.1 r'.1 ∧ r.2 = r'.2
  | .ping => SameButError DomainError.Rewords

/-- Two replies of the cache with the same content. -/
def CacheCall.Rewords : (c : CacheCall) → c.Reply → c.Reply → Prop
  | .get _ => SameButError CacheError.Rewords
  | .set .. => SameButError CacheError.Rewords
  | .evict _ => SameButError CacheError.Rewords
  | .ping => SameButError CacheError.Rewords

section

variable {ρ σ τ : Type}

/-- Two ends of a call: with related answers, both never, or both with some panic. -/
inductive Ending.Rewords (R : ρ → ρ → Prop) : Ending ρ → Ending ρ → Prop
  | answer {r r' : ρ} (h : R r r') : Rewords R (.answer r) (.answer r')
  | never : Rewords R .never .never
  | panic (p p' : PanicPayload) : Rewords R (.panic p) (.panic p')

/-- A collaborator does the same on two occasions, and ends in related ways. -/
structure Conduct.Rewords (R : ρ → ρ → Prop) (c c' : Conduct σ ρ) : Prop where
  underway : c.underway = c'.underway
  delay : c.delay = c'.delay
  settled : c.settled = c'.settled
  ending : c.ending.Rewords R c'.ending

/-- The same surroundings, in which the collaborators choose other words. -/
structure Environment.Rewords (env env' : Environment σ τ) : Prop where
  store : ∀ s c, (env.store s c).Rewords c.Rewords (env'.store s c)
  cache : ∀ t c, (env.cache t c).Rewords c.Rewords (env'.cache t c)
  clock : env.clock = env'.clock
  paymentId : env.paymentId = env'.paymentId
  correlationId : env.correlationId = env'.correlationId

theorem SameButError.refl {ε α : Type} {E : ε → ε → Prop} (h : ∀ e, E e e) (r : Except ε α) :
    SameButError E r r := by
  cases r with
  | ok a => exact .ok a
  | error e => exact .error (h e)

theorem StoreCall.Rewords.refl (c : StoreCall) (r : c.Reply) : c.Rewords r r := by
  cases c with
  | save p => exact ⟨.refl .same r.1, rfl⟩
  | _ => exact SameButError.refl .same r

theorem CacheCall.Rewords.refl (c : CacheCall) (r : c.Reply) : c.Rewords r r := by
  have hself (e : CacheError) : e.Rewords e := by
    cases e with
    | unavailable detail => exact .unavailable detail detail
    | corrupt detail => exact .corrupt detail detail
    | timeout limit => exact .timeout limit
  cases c <;> exact SameButError.refl hself r

theorem Conduct.Rewords.refl {R : ρ → ρ → Prop} (h : ∀ r, R r r) (c : Conduct σ ρ) :
    c.Rewords R c := by
  refine ⟨rfl, rfl, rfl, ?_⟩
  cases c.ending with
  | answer r => exact .answer (h r)
  | never => exact .never
  | panic p => exact .panic p p

/-- Surroundings choose the words that they choose. -/
theorem Environment.Rewords.refl (env : Environment σ τ) : env.Rewords env :=
  ⟨fun _ c => .refl (StoreCall.Rewords.refl c) _, fun _ c => .refl (CacheCall.Rewords.refl c) _,
    rfl, rfl, rfl⟩

/-- Two verdicts at the same instant, with related answers. -/
inductive Verdict.Rewords (R : ρ → ρ → Prop) : Verdict ρ → Verdict ρ → Prop
  | ended (t : Span) {r r' : ρ} (h : R r r') : Rewords R (.ended t r) (.ended t r')
  | panicked (t : Span) (p p' : PanicPayload) : Rewords R (.panicked t p) (.panicked t p')
  | expired (t : Span) : Rewords R (.expired t) (.expired t)
  | cutOff : Rewords R .cutOff .cutOff
  | hung : Rewords R .hung .hung

/-- When a call ends, if it does, has nothing to do with words. -/
theorem Conduct.Rewords.verdict {R : ρ → ρ → Prop} {c c' : Conduct σ ρ} (h : c.Rewords R c')
    (limit budget : Option Span) (start : Span) :
    (c.verdict limit budget start).Rewords R (c'.verdict limit budget start) := by
  obtain ⟨underway, delay, settled, ending⟩ := c
  obtain ⟨underway', delay', settled', ending'⟩ := c'
  obtain ⟨-, rfl, -, hending⟩ := h
  cases hending with
  | answer hr =>
    simp only [Conduct.verdict]
    repeat' split
    all_goals first | exact .ended _ hr | constructor
  | never =>
    simp only [Conduct.verdict]
    repeat' split
    all_goals constructor
  | panic p p' =>
    simp only [Conduct.verdict]
    repeat' split
    all_goals constructor

end

/-- Can an event be seen anywhere but in the log? -/
def Event.outward : Event → Bool
  | log _ => false
  | _ => true

/-- Two runs have come equally far, and have done the same but for what they have written to the
    log. -/
structure Progress.Matches {σ τ : Type} (s s' : Progress σ τ) : Prop where
  store : s.store = s'.store
  cache : s.cache = s'.cache
  issued : s.issued = s'.issued
  elapsed : s.elapsed = s'.elapsed
  events : s.events.filter Event.outward = s'.events.filter Event.outward

theorem Progress.Matches.refl {σ τ : Type} (s : Progress σ τ) : s.Matches s :=
  ⟨rfl, rfl, rfl, rfl, rfl⟩

/-- Two runs that match do the same and have come equally far again. -/
theorem Progress.Matches.did {σ τ : Type} {s s' : Progress σ τ} (h : s.Matches s') (e : Event)
    (store : σ) (cache : τ) (elapsed : Span) :
    Matches ⟨store, cache, s.issued, elapsed, e :: s.events⟩
      ⟨store, cache, s'.issued, elapsed, e :: s'.events⟩ where
  store := rfl
  cache := rfl
  issued := h.issued
  elapsed := rfl
  events := by simp only [List.filter_cons, h.events]

/-! ## Programs side by side -/

namespace Program

variable {α β σ τ : Type} {R : α → α → Prop} {S : β → β → Prop} {p p' : Program α}

/-- Told the same in whatever words, two programs do the same, and end with related values. What
    they write to the log may differ. -/
inductive Alike (R : α → α → Prop) : Program α → Program α → Prop
  | done {a a' : α} (h : R a a') : Alike R (done a) (done a')
  | store {c : StoreCall} {next next' : c.Reply → Program α}
    (h : ∀ r r', c.Rewords r r' → Alike R (next r) (next' r')) :
    Alike R (store c next) (store c next')
  | storeWithin {limit : Span} {c : StoreCall} {next next' : Option c.Reply → Program α}
    (h : ∀ r r', Option.Rel c.Rewords r r' → Alike R (next r) (next' r')) :
    Alike R (storeWithin limit c next) (storeWithin limit c next')
  | cacheWithin {limit : Span} {c : CacheCall} {next next' : Option c.Reply → Program α}
    (h : ∀ r r', Option.Rel c.Rewords r r' → Alike R (next r) (next' r')) :
    Alike R (cacheWithin limit c next) (cacheWithin limit c next')
  | ask {q : Query} {next next' : q.Answer → Program α} (h : ∀ a, Alike R (next a) (next' a)) :
    Alike R (ask q next) (ask q next')
  | signal {s : Signal} {p p' : Program α} (h : Alike R p p') :
    Alike R (signal s p) (signal s p')
  | log {e e' : LogEntry} {p p' : Program α} (h : Alike R p p') : Alike R (log e p) (log e' p')
  | wait {d : Span} {p p' : Program α} (h : Alike R p p') : Alike R (wait d p) (wait d p')

theorem Alike.bind {f f' : α → Program β} (h : Alike R p p')
    (hf : ∀ a a', R a a' → Alike S (f a) (f' a')) : Alike S (p >>= f) (p' >>= f') := by
  induction h with
  | done h => exact hf _ _ h
  | store h ih => exact .store ih
  | storeWithin h ih => exact .storeWithin ih
  | cacheWithin h ih => exact .cacheWithin ih
  | ask h ih => exact .ask ih
  | signal h ih => exact .signal ih
  | log h ih => exact .log ih
  | wait h ih => exact .wait ih

theorem Alike.inSpans (h : Alike R p p') (span span' : LogSpan) :
    Alike R (p.inSpan span) (p'.inSpan span') := by
  induction h with
  | done h => exact .done h
  | store h ih => exact .store ih
  | storeWithin h ih => exact .storeWithin ih
  | cacheWithin h ih => exact .cacheWithin ih
  | ask h ih => exact .ask ih
  | signal h ih => exact .signal ih
  | log h ih => exact .log ih
  | wait h ih => exact .wait ih

theorem Alike.inSpan (h : Alike R p p') (span : LogSpan) :
    Alike R (p.inSpan span) (p'.inSpan span) :=
  h.inSpans span span

theorem alike_report (part : String) (level : Level) (message : String) (fields fields' : Fields) :
    Alike Eq (report part level message fields) (report part level message fields') :=
  .log (.done rfl)

theorem alike_emit (s : Signal) : Alike Eq (emit s) (emit s) :=
  .signal (.done rfl)

theorem alike_query (q : Query) : Alike Eq (query q) (query q) :=
  .ask fun _ => .done rfl

theorem alike_callStore (c : StoreCall) : Alike c.Rewords (callStore c) (callStore c) :=
  .store fun _ _ h => .done h

theorem alike_callStoreWithin (limit : Span) (c : StoreCall) :
    Alike (Option.Rel c.Rewords) (callStoreWithin limit c) (callStoreWithin limit c) :=
  .storeWithin fun _ _ h => .done h

theorem alike_callCacheWithin (limit : Span) (c : CacheCall) :
    Alike (Option.Rel c.Rewords) (callCacheWithin limit c) (callCacheWithin limit c) :=
  .cacheWithin fun _ _ h => .done h

end Program

/-- Two ends of a run: with related values, or with the same failure to end, or both with some
    panic. -/
inductive Outcome.Alike {α : Type} (R : α → α → Prop) : Outcome α → Outcome α → Prop
  | finished {a a' : α} (h : R a a') : Alike R (.finished a) (.finished a')
  | cutOff : Alike R .cutOff .cutOff
  | hung : Alike R .hung .hung
  | panicked (p p' : PanicPayload) : Alike R (.panicked p) (.panicked p')

/-- Two programs that are alike run alike in surroundings that differ in words. -/
theorem Program.Alike.run {α σ τ : Type} {R : α → α → Prop} {p p' : Program α} (h : Alike R p p')
    {env env' : Environment σ τ} (henv : env.Rewords env') (budget : Option Span)
    {s s' : Progress σ τ} (hs : s.Matches s') :
    (p.run env budget s).1.Alike R (p'.run env' budget s').1 ∧
      (p.run env budget s).2.Matches (p'.run env' budget s').2 := by
  induction h generalizing s s' with
  | done h => exact ⟨.finished h, hs⟩
  | @store c next next' h ih =>
    have hconduct := henv.store s.store c
    have hverdict := hconduct.verdict none budget s.elapsed
    simp only [Program.run, ← hs.store, ← hs.cache, ← hs.elapsed, ← hconduct.underway,
      ← hconduct.settled]
    generalize (env.store s.store c).verdict none budget s.elapsed = v,
      (env'.store s.store c).verdict none budget s.elapsed = v' at hverdict
    cases hverdict with
    | ended t hr => exact ih _ _ hr (hs.did _ _ _ _)
    | panicked t p p' => exact ⟨.panicked p p', hs.did _ _ _ _⟩
    | expired t => exact ⟨.hung, hs.did _ _ _ _⟩
    | cutOff => exact ⟨.cutOff, hs.did _ _ _ _⟩
    | hung => exact ⟨.hung, hs.did _ _ _ _⟩
  | @storeWithin limit c next next' h ih =>
    have hconduct := henv.store s.store c
    have hverdict := hconduct.verdict (some limit) budget s.elapsed
    simp only [Program.run, ← hs.store, ← hs.cache, ← hs.elapsed, ← hconduct.underway,
      ← hconduct.settled]
    generalize (env.store s.store c).verdict (some limit) budget s.elapsed = v,
      (env'.store s.store c).verdict (some limit) budget s.elapsed = v' at hverdict
    cases hverdict with
    | ended t hr => exact ih _ _ (.some hr) (hs.did _ _ _ _)
    | panicked t p p' => exact ⟨.panicked p p', hs.did _ _ _ _⟩
    | expired t => exact ih _ _ .none (hs.did _ _ _ _)
    | cutOff => exact ⟨.cutOff, hs.did _ _ _ _⟩
    | hung => exact ⟨.hung, hs.did _ _ _ _⟩
  | @cacheWithin limit c next next' h ih =>
    have hconduct := henv.cache s.cache c
    have hverdict := hconduct.verdict (some limit) budget s.elapsed
    simp only [Program.run, ← hs.store, ← hs.cache, ← hs.elapsed, ← hconduct.underway,
      ← hconduct.settled]
    generalize (env.cache s.cache c).verdict (some limit) budget s.elapsed = v,
      (env'.cache s.cache c).verdict (some limit) budget s.elapsed = v' at hverdict
    cases hverdict with
    | ended t hr => exact ih _ _ (.some hr) (hs.did _ _ _ _)
    | panicked t p p' => exact ⟨.panicked p p', hs.did _ _ _ _⟩
    | expired t => exact ih _ _ .none (hs.did _ _ _ _)
    | cutOff => exact ⟨.cutOff, hs.did _ _ _ _⟩
    | hung => exact ⟨.hung, hs.did _ _ _ _⟩
  | @ask q next next' h ih =>
    cases q with
    | now => simpa only [Program.run, henv.clock] using ih _ hs
    | paymentId =>
      simp only [Program.run, henv.paymentId, hs.issued]
      exact ih _ ⟨hs.store, hs.cache, rfl, hs.elapsed, hs.events⟩
    | correlationId => simpa only [Program.run, henv.correlationId] using ih _ hs
    | elapsed => simpa only [Program.run, hs.elapsed] using ih _ hs
  | @signal g p p' h ih =>
    simp only [Program.run, ← hs.store, ← hs.cache, ← hs.elapsed]
    exact ih (hs.did _ _ _ _)
  | log h ih =>
    exact ih ⟨hs.store, hs.cache, hs.issued, hs.elapsed, by simp [Event.outward, hs.events]⟩
  | wait h ih =>
    simp only [Program.run, hs.elapsed]
    split
    · exact ih ⟨hs.store, hs.cache, hs.issued, rfl, hs.events⟩
    · exact ⟨.cutOff, hs.store, hs.cache, hs.issued, by simp [Progress.stopAt, hs.elapsed],
        hs.events⟩

/-! ## Initiations and views -/

namespace Initiation

open Program

/-- A call to the cache that is dropped at its limit has the same words for everyone. -/
theorem rewords_timely {α : Type} (limit : Span) {r r' : Option (Except CacheError α)}
    (h : Option.Rel (SameButError CacheError.Rewords) r r') :
    SameButError CacheError.Rewords (timely limit r) (timely limit r') := by
  cases h with
  | some h => exact h
  | none => exact .error (.timeout limit)

/-- The name of an operation is put before any words. -/
theorem rewords_named {α : Type} (operation : String) (limit : Span)
    {r r' : Option (Except DomainError α)}
    (h : Option.Rel (SameButError DomainError.Rewords) r r') :
    SameButError DomainError.Rewords (named operation limit r) (named operation limit r') := by
  cases h with
  | some h => cases h with
    | ok a => exact .ok a
    | @error e e' h => cases h with
      | same => cases e <;> exact .error (.same _)
      | infrastructure detail detail' => exact .error (.infrastructure _ _)
  | none => exact .error (.same _)

theorem alike_evictCorrupt (key reason reason' : String) (limit : Span) :
    Alike Eq (evictCorrupt key reason limit) (evictCorrupt key reason' limit) := by
  refine .bind (alike_report ..) fun _ _ _ => .bind (alike_callCacheWithin ..) fun r r' h => ?_
  have h := rewords_timely limit h
  generalize timely limit r = x, timely limit r' = x' at h
  cases h with
  | ok _ => exact .done rfl
  | error _ => exact alike_report ..

/-- What the cache has to offer does not depend on words. -/
theorem alike_receiptFromCache (key : String) (limit : Span) :
    Alike Eq (receiptFromCache key limit) (receiptFromCache key limit) := by
  refine .bind (alike_callCacheWithin ..) fun r r' h => ?_
  have h := rewords_timely limit h
  generalize timely limit r = x, timely limit r' = x' at h
  cases h with
  | ok found => cases found with
    | none => exact .done rfl
    | some entry =>
      simp only
      cases Receipt.decode (Json.glyphsOf entry) with
      | ok receipt => exact .signal (.done rfl)
      | error fault => exact .bind (alike_evictCorrupt ..) fun _ _ _ => .done rfl
  | error h => cases h with
    | corrupt reason reason' => exact .bind (alike_evictCorrupt ..) fun _ _ _ => .done rfl
    | unavailable detail detail' => exact .signal (.log (.done rfl))
    | timeout limit => exact .signal (.log (.done rfl))

theorem alike_keepReceipt (key : String) (receipt : Receipt) (limit : Span) :
    Alike Eq (keepReceipt key receipt limit) (keepReceipt key receipt limit) := by
  refine .bind (alike_callCacheWithin ..) fun r r' h => ?_
  have h := rewords_timely limit h
  generalize timely limit r = x, timely limit r' = x' at h
  cases h with
  | ok _ => exact .done rfl
  | error _ => exact alike_report ..

theorem alike_lookup (operation key : String) (limit : Span) :
    Alike (SameButError DomainError.Rewords) (lookup operation key limit)
      (lookup operation key limit) :=
  .bind (alike_callStoreWithin ..) fun _ _ h => .done (rewords_named operation limit h)

theorem alike_answerWith (p : Payment) (s : Signal) (note key : String) (limit : Span) :
    Alike (SameButError DomainError.Rewords) (answerWith p s note key limit)
      (answerWith p s note key limit) :=
  .bind (alike_emit s) fun _ _ _ => .bind (alike_report ..) fun _ _ _ =>
    .bind (alike_keepReceipt ..) fun _ _ _ => .done (.ok _)

theorem alike_followWinner (key : String) (deadlines : Deadlines) :
    Alike (SameButError DomainError.Rewords) (followWinner key deadlines)
      (followWinner key deadlines) := by
  refine .bind (alike_lookup ..) fun r r' h => ?_
  cases h with
  | ok found => cases found with
    | none => exact .done (.error (.same _))
    | some winner => exact alike_answerWith ..
  | error h => exact .done (.error h)

theorem alike_reportCommitted (rows : List OutboxRow) :
    Alike Eq (reportCommitted rows) (reportCommitted rows) := by
  induction rows with
  | nil => exact .done rfl
  | cons r rows ih => exact .log ih

theorem alike_confirm (draft : Draft) (saved : Payment) (rows : List OutboxRow) (limit : Span) :
    Alike (SameButError DomainError.Rewords) (confirm draft saved rows limit)
      (confirm draft saved rows limit) :=
  .bind (alike_reportCommitted rows) fun _ _ _ => .bind (alike_emit _) fun _ _ _ =>
    .bind (alike_keepReceipt ..) fun _ _ _ => .bind (alike_report ..) fun _ _ _ => .done (.ok _)

theorem alike_create (draft : Draft) (deadlines : Deadlines) :
    Alike (SameButError DomainError.Rewords) (create draft deadlines) (create draft deadlines) := by
  unfold create
  cases draft.check with
  | error e => exact .done (.error (.same e))
  | ok _ =>
    refine .bind (alike_query _) fun now _ hnow => hnow ▸ .bind (alike_query _) fun id _ hid =>
      hid ▸ .bind (alike_callStoreWithin ..) fun r r' h => ?_
    cases h with
    | none => exact .done (.error (.same _))
    | @some r r' h =>
      obtain ⟨answer, saved⟩ := r
      obtain ⟨answer', saved'⟩ := r'
      obtain ⟨h, rfl⟩ : SameButError DomainError.Rewords answer answer' ∧ saved = saved' := h
      have h := rewords_named "save payment" deadlines.store (.some h)
      simp only
      generalize named "save payment" deadlines.store (some answer) = x,
        named "save payment" deadlines.store (some answer') = x' at h
      cases h with
      | ok rows => exact alike_confirm ..
      | @error e e' h => cases h with
        | infrastructure detail detail' => exact .done (.error (.infrastructure _ _))
        | same => cases e with
          | duplicateKey key => exact alike_followWinner ..
          | _ => exact .done (.error (.same _))

theorem alike_perform (draft : Draft) (deadlines : Deadlines) :
    Alike (SameButError DomainError.Rewords) (perform draft deadlines)
      (perform draft deadlines) := by
  refine .bind (alike_receiptFromCache ..) fun found _ h => h ▸ ?_
  cases found with
  | some receipt => exact .log (.done (.ok receipt))
  | none =>
    refine .bind (alike_lookup ..) fun r r' h => ?_
    cases h with
    | ok found => cases found with
      | none => exact alike_create ..
      | some existing => exact alike_answerWith ..
    | error h => exact .done (.error h)

end Initiation

/-- An initiation passes words on, but does not act on them. -/
theorem alike_initiate (c : InitiatePayment) (deadlines : Deadlines) :
    Program.Alike (SameButError DomainError.Rewords) (initiate c deadlines)
      (initiate c deadlines) := by
  refine .inSpan ?_ _
  cases c.validate with
  | error e => exact .done (.error (.same e))
  | ok amount => exact Initiation.alike_perform ..

theorem alike_viewPayment (id : Uuid) :
    Program.Alike (SameButError DomainError.Rewords) (viewPayment id) (viewPayment id) := by
  refine .bind (Program.alike_callStore (.findById id)) fun r r' hreply => ?_
  have h : SameButError DomainError.Rewords r r' := hreply
  cases h with
  | ok p => exact .done (.ok _)
  | error h => exact .done (.error h)

end PayOnce
