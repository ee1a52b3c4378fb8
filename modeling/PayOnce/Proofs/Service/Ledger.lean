import PayOnce.Proofs.Service.Alone
import PayOnce.Proofs.Service.Signals
/-!
The signals of many initiations as a ledger. Between the save of a payment and the signal that tells
of it, the signal is owed; a save that commits unheard is lost. So the number of stored payments is
the number of signals that tell of a new payment, and of the saves that were lost, and of the
signals that are still owed.
-/

namespace PayOnce

/-! ## Signals that are owed -/

/-- The program tells of a new payment before it turns to anybody. -/
def Program.owes {α : Type} : Program α → Bool
  | signal s next => s == .paymentCreated || next.owes
  | log _ next => next.owes
  | done _ => false
  | store _ _ => false
  | storeWithin _ _ _ => false
  | cacheWithin _ _ _ => false
  | ask _ _ => false
  | wait _ _ => false

/-- The program has ended, or waits for somebody else. -/
def Program.waits {α : Type} : Program α → Bool
  | signal _ _ => false
  | log _ _ => false
  | wait _ _ => false
  | done _ => true
  | store _ _ => true
  | storeWithin _ _ _ => true
  | cacheWithin _ _ _ => true
  | ask _ _ => true

/-- Whoever waits owes nothing. -/
theorem Program.owes_of_waits {α : Type} {p : Program α} (h : p.waits = true) : p.owes = false := by
  cases p with
  | signal s next => cases h
  | log e next => cases h
  | wait d next => rfl
  | _ => rfl

/-- A new payment was saved, and the save was answered well. -/
def Exchange.creates : Exchange → Bool
  | store (.save _) (some (.ok _, _)) => true
  | _ => false

/-- The rules of telling of new payments. A program saves nothing but new payments; once a save
    was answered well it owes the signal, gives it before anything else, and never gives it
    otherwise. -/
def dues : Rules Bool where
  drift owed owed' := owed' = owed
  allows owed
    | .store (.save p) => owed = false ∧ ∃ d id now, p = Draft.issue d id now
    | .store (.findByKey _) => owed = false
    | .store (.findById _) => False
    | .store .ping => False
    | .cache _ => owed = false
    | .now => owed = false
    | .paymentId => owed = false
    | .signal s => owed = (s == .paymentCreated)
  leads _ _ x owed := owed = x.creates
  drift_refl _ := rfl
  drift_trans _ _ _ h h' := h'.trans h

/-- A program that has ended owes nothing. -/
def Paid (_ : Except DomainError Receipt) (owed : Bool) : Prop :=
  owed = false

namespace Initiation

open Program

theorem dues_give (key : String) (receipt : Receipt) (limit : Span) :
    (give key receipt limit).Obeys dues Paid false := by
  rintro _ rfl
  exact ⟨rfl, fun _ _ h => h⟩

theorem dues_announce (s : Signal) (p : Payment) (key : String) (limit : Span) :
    (announce s p key limit).Obeys dues Paid (s == .paymentCreated) := by
  rintro _ rfl
  refine ⟨rfl, ?_⟩
  rintro _ rfl
  exact dues_give key _ limit

theorem dues_lookup (operation key : String) (limit : Span)
    {found : Payment → Program (Except DomainError Receipt)}
    {nothing : Program (Except DomainError Receipt)}
    (hfound : ∀ p, (found p).Obeys dues Paid false)
    (hnothing : nothing.Obeys dues Paid false) :
    (Program.storeWithin limit (.findByKey key)
      (fromLookup operation limit found nothing)).Obeys dues Paid false := by
  rintro _ rfl
  refine ⟨rfl, ?_⟩
  rintro r _ rfl
  rcases r with _ | e | _ | p
  · rfl
  · rfl
  · exact hnothing
  · exact hfound p

theorem dues_refetch (key : String) (deadlines : Deadlines) :
    (refetch key deadlines).Obeys dues Paid false :=
  dues_lookup _ key _ (fun p => dues_announce .creationRaceResolved p key _) rfl

theorem dues_issueAndSave (draft : Draft) (deadlines : Deadlines) :
    (issueAndSave draft deadlines).Obeys dues Paid false := by
  rintro _ rfl
  refine ⟨rfl, ?_⟩
  rintro now _ rfl _ rfl
  refine ⟨rfl, ?_⟩
  rintro id _ rfl _ rfl
  refine ⟨⟨rfl, draft, id, now, rfl⟩, ?_⟩
  intro r owed howed
  rcases r with _ | ⟨e | rows, saved⟩
  · exact howed
  · obtain rfl : owed = false := howed
    cases e with
    | duplicateKey key => exact dues_refetch _ deadlines
    | _ => rfl
  · obtain rfl : owed = true := howed
    exact dues_announce .paymentCreated saved _ _

theorem dues_lookOrCreate (draft : Draft) (deadlines : Deadlines) :
    (lookOrCreate draft deadlines).Obeys dues Paid false :=
  dues_lookup _ _ _ (fun p => dues_announce .storeReplay p _ _) (dues_issueAndSave draft deadlines)

theorem dues_fromReading (draft : Draft) (deadlines : Deadlines) (r : Reading) :
    (fromReading draft deadlines r).Obeys dues Paid false := by
  cases r with
  | receipt r =>
    rintro _ rfl
    exact ⟨rfl, fun _ h => h⟩
  | nothing => exact dues_lookOrCreate draft deadlines
  | spoiled =>
    rintro _ rfl
    refine ⟨rfl, ?_⟩
    rintro _ _ rfl
    exact dues_lookOrCreate draft deadlines
  | down =>
    rintro _ rfl
    refine ⟨rfl, ?_⟩
    rintro _ rfl
    exact dues_lookOrCreate draft deadlines

end Initiation

/-- An initiation pays its dues. -/
theorem dues_initiate (c : InitiatePayment) (deadlines : Deadlines) :
    (initiate c deadlines).Obeys dues Paid false := by
  rw [← Program.obeys_unlogged, unlogged_initiate]
  unfold Initiation.outline
  cases c.validate with
  | error e => rfl
  | ok amount =>
    rintro _ rfl
    refine ⟨rfl, ?_⟩
    rintro r _ rfl
    exact Initiation.dues_fromReading _ deadlines _

/-- What is owed can be told from what is left to do. -/
theorem owes_of_dues {p : Program (Except DomainError Receipt)} {owed : Bool}
    (h : p.Obeys dues Paid owed) : p.owes = owed := by
  induction p generalizing owed with
  | done a => exact h.symm
  | store c next ih => exact h.elim
  | storeWithin limit c next ih =>
    obtain ⟨hallows, -⟩ := h _ rfl
    cases c with
    | findByKey key => exact hallows.symm
    | findById id => exact hallows.elim
    | save p => exact hallows.1.symm
    | ping => exact hallows.elim
  | cacheWithin limit c next ih => exact (h _ rfl).1.symm
  | ask q next ih =>
    cases q with
    | now => exact (h _ rfl).1.symm
    | paymentId => exact (h _ rfl).1.symm
    | correlationId => exact h.elim
    | elapsed => exact h.elim
  | signal s next ih =>
    obtain ⟨hallows, hnext⟩ := h _ rfl
    have hrest : next.owes = false := ih (hnext false rfl)
    rw [Program.owes, hrest, Bool.or_false]
    exact hallows.symm
  | log e next ih => exact ih h
  | wait d next ih => exact h.elim

/-! ## Books -/

/-- The call is a save that commits. -/
def MemoryStore.commits (s : MemoryStore) : StoreCall → Bool
  | .save p => (s.save p).1.isOk
  | .findByKey _ => false
  | .findById _ => false
  | .ping => false

/-- The initiation tells of a new payment before it turns to anybody. -/
def Flight.owes (f : Flight) : Bool :=
  match f.rest with
  | some p => p.owes
  | none => false

/-- Nobody but initiations saves payments. -/
def Action.OfInitiations : Action → Prop
  | .deed (.outbox _) => True
  | .deed _ => False
  | _ => True

instance : DecidablePred Action.OfInitiations
  | .deed d => match d with
    | .outbox _ => isTrue trivial
    | .create _ _ _ => isFalse id
    | .loadId _ => isFalse id
    | .loadKey _ => isFalse id
    | .move _ _ _ => isFalse id
    | .save _ => isFalse id
    | .saveUnheard _ _ => isFalse id
  | .tick _ => isTrue trivial
  | .begin _ _ => isTrue trivial
  | .pass _ => isTrue trivial
  | .issue _ _ => isTrue trivial
  | .store _ _ => isTrue trivial
  | .cache _ _ => isTrue trivial
  | .forge _ _ => isTrue trivial
  | .drop _ _ => isTrue trivial

namespace Traffic

/-- What an initiation has left to do. -/
def rest? (s : Traffic) (i : Nat) : Option (Program (Except DomainError Receipt)) :=
  s.flights[i]?.bind (·.rest)

/-- The signal that is given. -/
def signal? (s : Traffic) : Action → Option Signal
  | .pass i => match s.rest? i with
    | some (.signal g _) => some g
    | _ => none
  | _ => none

/-- An initiation waits for a save that commits. -/
def committing (s : Traffic) (i : Nat) : Bool :=
  match s.rest? i with
  | some (.storeWithin _ c _) => s.desk.store.commits c
  | _ => false

/-- An initiation owes the signal that tells of a new payment. -/
def owesAt (s : Traffic) (i : Nat) : Bool :=
  match s.rest? i with
  | some p => p.owes
  | none => false

/-- A save commits, or has committed, but its initiation will not tell of it: the answer never
    comes, or the initiation is dropped. -/
def loses (s : Traffic) : Action → Bool
  | .store i .commitThenHang => s.committing i
  | .drop i reached => (reached && s.committing i) || s.owesAt i
  | _ => false

/-- The signals of a run. -/
def signalsFrom (s : Traffic) : List Action → List Signal
  | [] => []
  | a :: acts => (s.signal? a).toList ++ (s.step a).signalsFrom acts

/-- The number of saves that have committed in a run without being told of. -/
def lostFrom (s : Traffic) : List Action → Nat
  | [] => 0
  | a :: acts => (s.loses a).toNat + (s.step a).lostFrom acts

/-- The number of signals that are owed. -/
def owing (s : Traffic) : Nat :=
  s.flights.countP Flight.owes

/-- The number of stored payments. -/
def stored (s : Traffic) : Nat :=
  s.desk.store.payments.length

/-! ### Initiations pay their dues -/

/-- Every initiation pays its dues from now on. -/
def Dutiful (fs : List Flight) : Prop :=
  ∀ f ∈ fs, ∀ p, f.rest = some p → p.Obeys dues Paid p.owes

theorem obeys_owes {p : Program (Except DomainError Receipt)} {owed : Bool}
    (h : p.Obeys dues Paid owed) : p.Obeys dues Paid p.owes := by
  rw [owes_of_dues h]
  exact h

theorem Dutiful.set {fs : List Flight} (h : Dutiful fs) (i : Nat) {g : Flight}
    (hg : ∀ q, g.rest = some q → ∃ owed, q.Obeys dues Paid owed) : Dutiful (fs.set i g) := by
  intro f hf q hq
  rcases List.mem_or_eq_of_mem_set hf with hf | rfl
  · exact h f hf q hq
  · obtain ⟨owed, howed⟩ := hg q hq
    exact obeys_owes howed

theorem Dutiful.step {s : Traffic} (h : Dutiful s.flights) (a : Action) :
    Dutiful (s.step a).flights := by
  have heffect := s.step_effect a
  generalize s.step a = t at heffect ⊢
  cases heffect with
  | idle => exact h
  | deed => exact h
  | tick => exact h
  | @begun c deadlines =>
    intro f hf p hp
    rcases List.mem_append.1 hf with hf | hf
    · exact h f hf p hp
    · rw [List.mem_singleton.1 hf] at hp
      cases hp
      exact obeys_owes (dues_initiate c deadlines)
  | @passed i f p q hf hp hopen hpass =>
    have hdues := h f (List.mem_of_getElem? hf) p hp
    apply h.set i
    rintro _ ⟨⟩
    cases hpass with
    | now => exact ⟨_, (hdues _ rfl).2 _ _ rfl⟩
    | signal => exact ⟨_, (hdues _ rfl).2 _ rfl⟩
    | log => exact ⟨_, hdues⟩
    | wait => exact hdues.elim
  | @issued i f id next hf hp =>
    have hdues := h f (List.mem_of_getElem? hf) _ hp
    apply h.set i
    rintro _ ⟨⟩
    exact ⟨_, (hdues _ rfl).2 _ _ rfl⟩
  | @stored i f fault limit c next store r hf hp hcall =>
    have hdues := h f (List.mem_of_getElem? hf) _ hp
    apply h.set i
    intro q hq
    obtain ⟨x, -, rfl⟩ := Option.map_eq_some_iff.1 hq
    exact ⟨_, (hdues _ rfl).2 x _ rfl⟩
  | @cached i f fault limit c next cache r hf hp hcall =>
    have hdues := h f (List.mem_of_getElem? hf) _ hp
    apply h.set i
    intro q hq
    obtain ⟨x, -, rfl⟩ := Option.map_eq_some_iff.1 hq
    exact ⟨_, (hdues _ rfl).2 x _ rfl⟩
  | @forged i f r limit c next hf hp =>
    have hdues := h f (List.mem_of_getElem? hf) _ hp
    apply h.set i
    rintro _ ⟨⟩
    exact ⟨_, (hdues _ rfl).2 _ _ rfl⟩
  | dropped => exact h.set _ nofun
  | leftStore => exact h.set _ nofun
  | leftCache => exact h.set _ nofun

/-! ### Calls to the store -/

/-- A new payment that is accepted is one payment more. -/
theorem length_save {s : MemoryStore} (hs : s.Consistent) (d : Draft) (id : Uuid) (now : Instant) :
    (s.save (d.issue id now)).2.2.payments.length
      = s.payments.length + (s.save (d.issue id now)).1.isOk.toNat := by
  rcases s.save_cases (d.issue id now) with ⟨hmay, -, hsave⟩ | ⟨e, -, hsave⟩ | ⟨-, hsave⟩
  · rw [hsave]
    rcases (MemoryStore.fits_issue hs d id now).write_cases hmay with
      ⟨hnone, -⟩ | ⟨r, hfind, hversion, -⟩
    · have hids := MemoryStore.findId?_eq_none_iff.1 hnone
      have hpayments :
          (s.written (d.issue id now)).payments = s.payments ++ [(d.issue id now).facts] :=
        MemoryStore.putRow_eq_append hids
      rw [hpayments, List.length_append]
      rfl
    · -- A first version follows no stored one.
      have hstored := hs.versions r (MemoryStore.mem_of_findId? hfind).1
      have hfirst : (d.issue id now).facts.version = 1 := rfl
      omega
  · rw [hsave]
    rfl
  · rw [hsave]
    rfl

/-- A call of a program that pays its dues stores a payment if it is a save that commits, and tells
    the program if it is answered. -/
theorem length_handle {s : MemoryStore} (hs : s.Consistent) {c : StoreCall} {owed : Bool}
    (hallows : dues.allows owed (.store c)) :
    (s.handle c).2.payments.length = s.payments.length + (s.commits c).toNat ∧
      Exchange.creates (.store c (some (s.handle c).1)) = s.commits c := by
  cases c with
  | findByKey key => exact ⟨rfl, rfl⟩
  | findById id => exact hallows.elim
  | ping => exact hallows.elim
  | save p =>
    obtain ⟨-, d, id, now, rfl⟩ := hallows
    refine ⟨length_save hs d id now, ?_⟩
    rw [MemoryStore.handle_save, MemoryStore.commits]
    cases (s.save (d.issue id now)).1 <;> rfl

theorem creates_none (c : StoreCall) : Exchange.creates (.store c none) = false := by
  cases c <;> rfl

theorem creates_failedReply (e : DomainError) (c : StoreCall) :
    Exchange.creates (.store c (some (Lab.failedReply e c))) = false := by
  cases c <;> rfl

theorem creates_missedReply {c : StoreCall} {x : c.Reply} (h : Lab.missedReply c = some x) :
    Exchange.creates (.store c (some x)) = false := by
  cases c with
  | save p => cases h
  | _ => rfl

/-! ### Books that balance -/

/-- An action either leaves the initiations alone, or acts on one that has something left to do. -/
theorem onFlight_cases (s : Traffic) (i : Nat) :
    (s.rest? i = none ∧ ∀ act, s.onFlight i act = s) ∨
      ∃ f p, s.flights[i]? = some f ∧ f.rest = some p ∧ s.rest? i = some p ∧
        ∀ act, s.onFlight i act = act f p := by
  unfold rest? onFlight
  cases hf : s.flights[i]? with
  | none => exact .inl ⟨rfl, fun _ => rfl⟩
  | some f =>
    cases hp : f.rest with
    | none => exact .inl ⟨hp, fun _ => by simp only [hp]⟩
    | some p => exact .inr ⟨f, p, rfl, hp, hp, fun _ => by simp only [hp]⟩

theorem countP_set {fs : List Flight} {i : Nat} {f : Flight} (hf : fs[i]? = some f) (g : Flight) :
    (fs.set i g).countP Flight.owes + f.owes.toNat = fs.countP Flight.owes + g.owes.toNat := by
  obtain ⟨hi, rfl⟩ := List.getElem?_eq_some_iff.1 hf
  have hcount := List.countP_set (p := Flight.owes) (l := fs) (a := g) hi
  have hle : fs[i].owes.toNat ≤ fs.countP Flight.owes := by
    cases h : fs[i].owes with
    | false => exact Nat.zero_le _
    | true => exact List.countP_pos_iff.2 ⟨_, List.getElem_mem hi, h⟩
  have htoNat (b : Bool) : (if b = true then 1 else 0) = b.toNat := by cases b <;> rfl
  rw [htoNat, htoNat] at hcount
  omega

/-- The books balance over an action. -/
def Balances (s : Traffic) (a : Action) : Prop :=
  (s.step a).stored + s.owing = s.stored + (s.signal? a).toList.count .paymentCreated
    + (s.loses a).toNat + (s.step a).owing

/-- The books balance where an initiation goes on, if what is stored and told makes up for what it
    owes. -/
theorem balances_of_set {s : Traffic} {a : Action} {i : Nat} {f g : Flight}
    (hf : s.flights[i]? = some f) (hflights : (s.step a).flights = s.flights.set i g)
    (hbooks : (s.step a).stored + f.owes.toNat = s.stored
      + (s.signal? a).toList.count .paymentCreated + (s.loses a).toNat + g.owes.toNat) :
    s.Balances a := by
  have hcount := countP_set hf g
  unfold Balances owing
  rw [hflights]
  omega

/-- The books balance where nothing happens. -/
theorem balances_of_idle {s : Traffic} {a : Action} (hstep : s.step a = s)
    (hsignal : s.signal? a = none) (hloses : s.loses a = false) : s.Balances a := by
  unfold Balances
  rw [hstep, hsignal, hloses]
  rfl

theorem balances_pass {s : Traffic} (h : Dutiful s.flights) (i : Nat) : s.Balances (.pass i) := by
  rcases s.onFlight_cases i with ⟨hrest, hact⟩ | ⟨f, p, hf, hp, hrest, hact⟩
  · exact balances_of_idle (hact _) (by simp [signal?, hrest]) rfl
  · have hdues := h f (List.mem_of_getElem? hf) p hp
    have howes : f.owes = p.owes := by simp [Flight.owes, hp]
    cases p with
    | ask q next =>
      have hsignal : s.signal? (.pass i) = none := by simp [signal?, hrest]
      cases q with
      | now =>
        have hstep : s.step (.pass i) = s.goOn i f (some (next s.clock)) := hact _
        have hnext : (next s.clock).owes = false := owes_of_dues ((hdues _ rfl).2 s.clock _ rfl)
        refine balances_of_set hf (congrArg flights hstep) ?_
        rw [hstep, hsignal, howes]
        simp [stored, goOn, loses, Flight.owes, Program.owes, hnext]
      | paymentId => exact balances_of_idle (hact _) hsignal rfl
      | correlationId => exact balances_of_idle (hact _) hsignal rfl
      | elapsed => exact balances_of_idle (hact _) hsignal rfl
    | signal g next =>
      have hstep : s.step (.pass i) = s.goOn i f (some next) := hact _
      have hsignal : s.signal? (.pass i) = some g := by simp [signal?, hrest]
      have hnext : next.owes = false := owes_of_dues ((hdues _ rfl).2 _ rfl)
      refine balances_of_set hf (congrArg flights hstep) ?_
      rw [hstep, hsignal, howes]
      cases g <;> simp [stored, goOn, loses, Flight.owes, Program.owes, hnext]
    | log e next =>
      have hstep : s.step (.pass i) = s.goOn i f (some next) := hact _
      have hsignal : s.signal? (.pass i) = none := by simp [signal?, hrest]
      refine balances_of_set hf (congrArg flights hstep) ?_
      rw [hstep, hsignal, howes]
      simp [stored, goOn, loses, Flight.owes, Program.owes]
    | wait d next => exact hdues.elim
    | _ => exact balances_of_idle (hact _) (by simp [signal?, hrest]) rfl

theorem balances_issue {s : Traffic} (h : Dutiful s.flights) (i : Nat) (id : Uuid) :
    s.Balances (.issue i id) := by
  rcases s.onFlight_cases i with ⟨hrest, hact⟩ | ⟨f, p, hf, hp, hrest, hact⟩
  · exact balances_of_idle (hact _) rfl rfl
  · have hdues := h f (List.mem_of_getElem? hf) p hp
    have howes : f.owes = p.owes := by simp [Flight.owes, hp]
    cases p with
    | ask q next =>
      cases q with
      | paymentId =>
        have hnext : (next id).owes = false := owes_of_dues ((hdues _ rfl).2 id _ rfl)
        refine balances_of_set hf (congrArg flights (hact _)) ?_
        have hstored : (s.step (.issue i id)).stored = s.stored := by simp only [step, hact, stored]
        rw [hstored, howes]
        simp [signal?, loses, Flight.owes, Program.owes, hnext]
      | _ => exact balances_of_idle (hact _) rfl rfl
    | _ => exact balances_of_idle (hact _) rfl rfl

/-- A call to the cache leaves the books alone, whatever comes of it. -/
theorem balances_cacheCall {s : Traffic} (h : Dutiful s.flights) {a : Action} {i : Nat} {f : Flight}
    (hf : s.flights[i]? = some f) {limit : Span} {c : CacheCall}
    {next : Option c.Reply → Program (Except DomainError Receipt)}
    (hp : f.rest = some (.cacheWithin limit c next)) {r : Option (Option c.Reply)}
    (hflights : (s.step a).flights = s.flights.set i { f with rest := r.map next })
    (hstored : (s.step a).stored = s.stored) (hsignal : s.signal? a = none)
    (hloses : s.loses a = false) : s.Balances a := by
  have hdues := h f (List.mem_of_getElem? hf) _ hp
  refine balances_of_set hf hflights ?_
  have hnext : Flight.owes { f with rest := r.map next } = false := by
    cases r with
    | none => rfl
    | some r => exact owes_of_dues ((hdues _ rfl).2 r _ rfl)
  rw [hstored, hsignal, hloses, hnext]
  simp [Flight.owes, hp, Program.owes]

theorem balances_cache {s : Traffic} (h : Dutiful s.flights) (i : Nat)
    (fault : Lab.Fault CacheError) : s.Balances (.cache i fault) := by
  rcases s.onFlight_cases i with ⟨hrest, hact⟩ | ⟨f, p, hf, hp, hrest, hact⟩
  · exact balances_of_idle (hact _) rfl rfl
  · cases p with
    | cacheWithin limit c next =>
      refine balances_cacheCall h hf hp (congrArg flights (hact _)) ?_ rfl rfl
      simp only [step, hact, stored, goOn]
    | _ => exact balances_of_idle (hact _) rfl rfl

theorem balances_forge {s : Traffic} (h : Dutiful s.flights) (i : Nat)
    (r : (c : CacheCall) → Option c.Reply) : s.Balances (.forge i r) := by
  rcases s.onFlight_cases i with ⟨hrest, hact⟩ | ⟨f, p, hf, hp, hrest, hact⟩
  · exact balances_of_idle (hact _) rfl rfl
  · cases p with
    | cacheWithin limit c next =>
      refine balances_cacheCall h hf hp (r := some (r c)) (congrArg flights (hact _)) ?_ rfl rfl
      simp only [step, hact, stored, goOn]
    | _ => exact balances_of_idle (hact _) rfl rfl

theorem loses_store {s : Traffic} {i : Nat} {fault : Lab.Fault DomainError}
    (h : fault ≠ .commitThenHang ∨ s.committing i = false) : s.loses (.store i fault) = false := by
  cases fault with
  | commitThenHang => exact h.resolve_left (fun hne => hne rfl)
  | _ => rfl

/-- Whatever is stored by a call is either owed afterwards or lost. -/
theorem balances_of_outcome {s : Traffic} (h : Dutiful s.flights) {i : Nat}
    {fault : Lab.Fault DomainError} {f : Flight} (hf : s.flights[i]? = some f) {limit : Span}
    {c : StoreCall} {next : Option c.Reply → Program (Except DomainError Receipt)}
    (hp : f.rest = some (.storeWithin limit c next)) {store : MemoryStore}
    {r : Option (Option c.Reply)} (hcall : (s.desk.store.faulty fault c).outcome limit = (store, r))
    (hbooks : store.payments.length = s.stored + (s.loses (.store i fault)).toNat
      + (r.elim false fun x => Exchange.creates (.store c x)).toNat) :
    s.Balances (.store i fault) := by
  have hdues := h f (List.mem_of_getElem? hf) _ hp
  have hstep := step_store hf hp hcall
  refine balances_of_set hf (congrArg flights hstep) ?_
  have hstored : (s.step (.store i fault)).stored = store.payments.length :=
    congrArg stored hstep
  have hnext : Flight.owes { f with rest := r.map next }
      = r.elim false fun x => Exchange.creates (.store c x) := by
    cases r with
    | none => rfl
    | some r => exact owes_of_dues ((hdues _ rfl).2 r _ rfl)
  rw [hstored, hbooks, hnext]
  simp [signal?, Flight.owes, hp, Program.owes]

theorem balances_store {s : Traffic} (h : Dutiful s.flights) (hs : s.desk.store.Consistent)
    (i : Nat) (fault : Lab.Fault DomainError) : s.Balances (.store i fault) := by
  rcases s.onFlight_cases i with ⟨hrest, hact⟩ | ⟨f, p, hf, hp, hrest, hact⟩
  · exact balances_of_idle (hact _) rfl (loses_store (.inr (by simp [committing, hrest])))
  · have hdues := h f (List.mem_of_getElem? hf) _ hp
    cases p with
    | storeWithin limit c next =>
      obtain ⟨hlength, hcreates⟩ := length_handle hs (hdues _ rfl).1
      rcases outcome_fault fault s.desk.store (s.desk.store.handle c).2 (s.desk.store.handle c).1
        (Lab.failedReply · c) (Lab.missedReply c) limit with
        ⟨hfault, hcall⟩ | ⟨rfl, hcall⟩ | ⟨-, hfault, o, hcall, hreply⟩
      · refine balances_of_outcome h hf hp hcall ?_
        rw [hlength, loses_store (.inl hfault), Option.elim_some, hcreates]
        rfl
      · refine balances_of_outcome h hf hp hcall ?_
        have hloses : s.loses (.store i .commitThenHang) = s.desk.store.commits c := by
          simp [loses, committing, hrest]
        rw [hlength, hloses, Option.elim_some, creates_none]
        rfl
      · refine balances_of_outcome h hf hp hcall ?_
        have hnothing : (o.elim false fun x => Exchange.creates (.store c x)) = false := by
          rcases o with _ | _ | x
          · rfl
          · exact creates_none c
          · rcases hreply x rfl with ⟨e, -, rfl⟩ | hmissed
            · exact creates_failedReply e c
            · exact creates_missedReply hmissed
        rw [loses_store (.inl hfault), hnothing]
        rfl
    | _ => exact balances_of_idle (hact _) rfl (loses_store (.inr (by simp [committing, hrest])))

theorem flights_reach (s : Traffic) (p : Program (Except DomainError Receipt)) :
    (s.reach p).flights = s.flights := by
  cases p <;> rfl

/-- The call that an initiation waits for stores a payment if it is a save that commits. -/
theorem stored_reach {s : Traffic} (hs : s.desk.store.Consistent) {i : Nat}
    {p : Program (Except DomainError Receipt)} (hrest : s.rest? i = some p) {owed : Bool}
    (hdues : p.Obeys dues Paid owed) : (s.reach p).stored = s.stored + (s.committing i).toNat := by
  unfold committing
  rw [hrest]
  cases p with
  | storeWithin limit c next => exact (length_handle hs (hdues _ rfl).1).1
  | _ => rfl

/-- Whoever waits for a save owes nothing. -/
theorem owes_of_committing {s : Traffic} {i : Nat} {p : Program (Except DomainError Receipt)}
    (hrest : s.rest? i = some p) (h : s.committing i = true) : p.owes = false := by
  unfold committing at h
  rw [hrest] at h
  cases p with
  | storeWithin limit c next => rfl
  | _ => cases h

/-- Whoever is dropped takes with it what it owes, or what it stores by then. -/
theorem balances_of_drop {s : Traffic} (h : Dutiful s.flights) (hs : s.desk.store.Consistent)
    {i : Nat} {reached : Bool} {f : Flight} (hf : s.flights[i]? = some f)
    {p : Program (Except DomainError Receipt)} (hp : f.rest = some p) (hrest : s.rest? i = some p)
    (hstep : s.step (.drop i reached) = (if reached then s.reach p else s).goOn i f none) :
    s.Balances (.drop i reached) := by
  have hflights : (s.step (.drop i reached)).flights = s.flights.set i { f with rest := none } := by
    rw [hstep]
    cases reached with
    | false => rfl
    | true => exact congrArg (List.set · i _) (s.flights_reach p)
  have hstored : (s.step (.drop i reached)).stored
      = s.stored + (reached && s.committing i).toNat := by
    rw [hstep]
    cases reached with
    | false => rfl
    | true => exact stored_reach hs hrest (h f (List.mem_of_getElem? hf) p hp)
  refine balances_of_set hf hflights ?_
  rw [hstored]
  simp only [signal?, loses, owesAt, hrest, Flight.owes, hp]
  cases hcommits : s.committing i with
  | false => simp
  | true => simp [owes_of_committing hrest hcommits]

theorem balances_drop {s : Traffic} (h : Dutiful s.flights) (hs : s.desk.store.Consistent) (i : Nat)
    (reached : Bool) : s.Balances (.drop i reached) := by
  rcases s.onFlight_cases i with ⟨hrest, hact⟩ | ⟨f, p, hf, hp, hrest, hact⟩
  · exact balances_of_idle (hact _) rfl (by simp [loses, committing, owesAt, hrest])
  · cases p with
    | done r =>
      refine balances_of_idle (hact _) rfl ?_
      simp [loses, committing, owesAt, hrest, Program.owes]
    | _ => exact balances_of_drop h hs hf hp hrest (hact _)

/-- The books balance over every action of initiations. -/
theorem balances {s : Traffic} (h : Dutiful s.flights) (hs : s.desk.store.Consistent) {a : Action}
    (ha : a.OfInitiations) : s.Balances a := by
  cases a with
  | deed d =>
    cases d with
    | outbox fails => rfl
    | _ => exact ha.elim
  | tick now => rfl
  | begin c deadlines =>
    have howes : (initiate c deadlines).owes = false := owes_of_dues (dues_initiate c deadlines)
    simp [Balances, step, stored, signal?, loses, owing, Flight.owes, howes]
  | pass i => exact balances_pass h i
  | issue i id => exact balances_issue h i id
  | store i fault => exact balances_store h hs i fault
  | cache i fault => exact balances_cache h i fault
  | forge i r => exact balances_forge h i r
  | drop i reached => exact balances_drop h hs i reached

/-- The books balance over every run of initiations. -/
theorem balances_run {acts : List Action} (hacts : ∀ a ∈ acts, a.OfInitiations) {s : Traffic}
    (h : Dutiful s.flights) (hs : Orderly ⟨False, False⟩ s) :
    (acts.foldl step s).stored + s.owing = s.stored
      + (s.signalsFrom acts).count .paymentCreated + s.lostFrom acts
      + (acts.foldl step s).owing := by
  induction acts generalizing s with
  | nil => simp [signalsFrom, lostFrom]
  | cons a acts ih =>
    have hstep := balances h hs.desk.store (hacts a List.mem_cons_self)
    have hrest := ih (fun x hx => hacts x (List.mem_cons_of_mem _ hx)) (h.step a)
      (hs.step a (fun h => h.elim) fun h => h.elim)
    unfold Balances at hstep
    rw [List.foldl_cons, signalsFrom, lostFrom, List.count_append]
    omega

/-- Nothing is owed while every initiation has ended, was dropped, or waits. -/
theorem owing_eq_zero {s : Traffic}
    (h : ∀ f ∈ s.flights, ∀ p, f.rest = some p → p.waits = true) : s.owing = 0 := by
  refine List.countP_eq_zero.2 fun f hf howes => ?_
  unfold Flight.owes at howes
  cases hp : f.rest with
  | none => simp [hp] at howes
  | some p => simp [hp, Program.owes_of_waits (h f hf p hp)] at howes

/-! ## The ledger -/

/-- The signals are an exact ledger of what has come of initiations. Whatever its collaborators do,
    an initiation gives its signals in order, and if it answers, they tell of its answer. And over
    any run of initiations from an empty store on, the stored payments are those that a signal has
    told of and those whose save has committed unheard, and while an initiation is between its save
    and its signal, the one that it is about to tell of. -/
theorem signals_keep_ledger :
    (∀ (σ τ : Type) (env : Environment σ τ) (budget : Option Span) (c : InitiatePayment)
        (deadlines : Deadlines) (s : Progress σ τ),
      ((initiate c deadlines).run env budget s).2.events.filterMap Event.signal?
        = (signals ((initiate c deadlines).exchanges env budget s)).reverse
          ++ s.events.filterMap Event.signal? ∧
      InOrder ((initiate c deadlines).exchanges env budget s) ∧
      ∀ r, ((initiate c deadlines).run env budget s).1 = .finished r →
        Accounts ((initiate c deadlines).exchanges env budget s) r) ∧
    ∀ acts : List Action, (∀ a ∈ acts, a.OfInitiations) →
      (run acts).stored = (signalsFrom {} acts).count .paymentCreated + lostFrom {} acts
        + (run acts).owing ∧
      ((∀ f ∈ (run acts).flights, ∀ p, f.rest = some p → p.waits = true) →
        (run acts).stored = (signalsFrom {} acts).count .paymentCreated + lostFrom {} acts) := by
  refine ⟨?_, ?_⟩
  · intro σ τ env budget c deadlines s
    exact ⟨Program.signals_run env budget _ s,
      Initiation.accounts_initiate env budget c deadlines s⟩
  · intro acts hacts
    have hempty : Dutiful (({} : Traffic).flights) := by simp [Dutiful]
    have hrun := balances_run hacts hempty (orderly_empty _)
    have hbooks : (run acts).stored = (signalsFrom {} acts).count .paymentCreated
        + lostFrom {} acts + (run acts).owing := by
      simpa [run, stored, owing] using hrun
    refine ⟨hbooks, ?_⟩
    intro hwaits
    rw [hbooks, owing_eq_zero hwaits, Nat.add_zero]

/-- The save of one initiation commits unheard; another one creates its payment while the cache is
    down. -/
def unheardSave : List Action :=
  let c : InitiatePayment := ⟨⟨7⟩, "order-1", "customer-1", 100, "usd", "key-1"⟩
  [.begin c .standard, .begin { c with idempotencyKey := "key-2" } .standard,
    .cache 0 .ok, .store 0 .ok, .pass 0, .issue 0 ⟨1⟩, .store 0 .commitThenHang,
    .cache 1 (.fail (.unavailable "down")), .pass 1, .pass 1, .store 1 .ok, .pass 1, .issue 1 ⟨2⟩,
    .store 1 .ok, .pass 1, .pass 1]

theorem signals_keep_ledger_unheardSave :
    (run unheardSave).stored = (signalsFrom {} unheardSave).count .paymentCreated
      + lostFrom {} unheardSave ∧
    (signalsFrom {} unheardSave).count .paymentCreated = 1 ∧ lostFrom {} unheardSave = 1 ∧
    ∃ c r, Accounts ((initiate c .standard).exchanges (Lab.World.start ⟨60, 0⟩).environment none
      (Lab.World.start ⟨60, 0⟩).progress) (.ok r) := by
  obtain ⟨haccounts, hledger⟩ := signals_keep_ledger
  obtain ⟨-, hbooks⟩ := hledger unheardSave (by decide)
  refine ⟨hbooks (by decide +kernel), by decide +kernel, by decide +kernel, ?_⟩
  let c : InitiatePayment := ⟨⟨7⟩, "order-1", "customer-1", 100, "usd", "key-1"⟩
  obtain ⟨-, -, hfinished⟩ := haccounts _ _ (Lab.World.start ⟨60, 0⟩).environment none c .standard
    (Lab.World.start ⟨60, 0⟩).progress
  refine ⟨c, ⟨Lab.paymentId 0, .pending⟩, hfinished _ ?_⟩
  decide +kernel

end Traffic

end PayOnce
