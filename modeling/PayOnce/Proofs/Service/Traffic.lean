import PayOnce.Proofs.Service.Calls
/-!
Initiations side by side, over one store, one cache and one clock, beside holders of payments. Each
step of an initiation may be followed by steps of others; each of its calls may meet a fault; an
initiation may be dropped wherever it waits. The store stays consistent, the cache vouches for what
it holds, and every initiation keeps its terms.
-/

namespace PayOnce

/-- How a program goes on when it reads a clock or reports something. -/
inductive Program.Passes {α : Type} (now : Instant) : Program α → Program α → Prop
  | now {next : Instant → Program α} : Passes now (.ask .now next) (next now)
  | signal {s : Signal} {next : Program α} : Passes now (.signal s next) next
  | log {e : LogEntry} {next : Program α} : Passes now (.log e next) next
  | wait {d : Span} {next : Program α} : Passes now (.wait d next) next

theorem Program.Passes.meets {α κ : Type} {T : Terms κ} {post : α → κ → Prop} {now : Instant}
    {p q : Program α} (h : p.Passes now q) {w : κ} (hp : p.Meets T post w) : q.Meets T post w := by
  cases h with
  | now => exact hp now
  | signal => exact hp
  | log => exact hp
  | wait => exact hp

/-! ## The system -/

/-- An initiation: its command, the ids that were handed out to it, and what is left to do, unless
    it was dropped. -/
structure Flight where
  command : InitiatePayment
  ids : List Uuid
  rest : Option (Program (Except DomainError Receipt))

/-- What an initiation was answered. -/
def Flight.answer (f : Flight) : Option (Except DomainError Receipt) :=
  match f.rest with
  | some (.done r) => some r
  | _ => none

/-- Everything at one moment. -/
structure Traffic where
  desk : Desk := {}
  cache : MemoryCache := {}
  clock : Instant := ⟨0, 0⟩
  flights : List Flight := []

/-- Something that happens next. -/
inductive Action
  /-- A holder of payments does something. -/
  | deed (d : Deed)
  /-- The clock is set. -/
  | tick (now : Instant)
  | begin (c : InitiatePayment) (deadlines : Deadlines)
  /-- An initiation reads the clock or reports something. -/
  | pass (flight : Nat)
  /-- An initiation is given an id for a new payment. -/
  | issue (flight : Nat) (id : Uuid)
  /-- An initiation calls the store, and something happens to the call. -/
  | store (flight : Nat) (f : Lab.Fault DomainError)
  /-- An initiation calls the cache, and something happens to the call. -/
  | cache (flight : Nat) (f : Lab.Fault CacheError)
  /-- An initiation calls the cache, which makes something up. -/
  | forge (flight : Nat) (r : (c : CacheCall) → Option c.Reply)
  /-- An initiation is dropped where it waits. If it waits for a call, the call may have had its
      effect already. -/
  | drop (flight : Nat) (reached : Bool)

/-- The cache makes nothing up. -/
def Action.Honest : Action → Prop
  | forge _ _ => False
  | _ => True

instance : DecidablePred Action.Honest
  | .deed _ => isTrue trivial
  | .tick _ => isTrue trivial
  | .begin _ _ => isTrue trivial
  | .pass _ => isTrue trivial
  | .issue _ _ => isTrue trivial
  | .store _ _ => isTrue trivial
  | .cache _ _ => isTrue trivial
  | .forge _ _ => isFalse id
  | .drop _ _ => isTrue trivial

/-- Calls to the store are answered as they should, and so are saves of holders of payments. -/
def Action.Quiet : Action → Prop
  | deed d => d.Plain
  | store _ f => f = .ok
  | _ => True

instance : DecidablePred Action.Quiet
  | .deed d => inferInstanceAs (Decidable d.Plain)
  | .tick _ => isTrue trivial
  | .begin _ _ => isTrue trivial
  | .pass _ => isTrue trivial
  | .issue _ _ => isTrue trivial
  | .store _ f => inferInstanceAs (Decidable (f = .ok))
  | .cache _ _ => isTrue trivial
  | .forge _ _ => isTrue trivial
  | .drop _ _ => isTrue trivial

namespace Traffic

/-- Lets an initiation go on with another rest. -/
def goOn (s : Traffic) (i : Nat) (f : Flight)
    (rest : Option (Program (Except DomainError Receipt))) : Traffic :=
  { s with flights := s.flights.set i { f with rest } }

/-- Lets the initiation with a number do something with what is left to do. -/
def onFlight (s : Traffic) (i : Nat)
    (act : Flight → Program (Except DomainError Receipt) → Traffic) : Traffic :=
  match s.flights[i]? with
  | none => s
  | some f => match f.rest with
    | none => s
    | some p => act f p

/-- The effect of the call that a program waits for, if it waits for one. -/
def reach (s : Traffic) : Program (Except DomainError Receipt) → Traffic
  | .storeWithin _ c _ => { s with desk := { s.desk with store := (s.desk.store.handle c).2 } }
  | .cacheWithin _ c _ => { s with cache := (s.cache.handle s.clock c).2 }
  | _ => s

/-- Lets one thing happen. What cannot happen changes nothing. -/
def step (s : Traffic) : Action → Traffic
  | .deed d => { s with desk := s.desk.perform d }
  | .tick now => { s with clock := now }
  | .begin c deadlines =>
    { s with flights := s.flights ++ [⟨c, [], some (initiate c deadlines)⟩] }
  | .pass i => s.onFlight i fun f p => match p with
    | .ask .now next => s.goOn i f (some (next s.clock))
    | .signal _ next => s.goOn i f (some next)
    | .log _ next => s.goOn i f (some next)
    | .wait _ next => s.goOn i f (some next)
    | _ => s
  | .issue i id => s.onFlight i fun f p => match p with
    | .ask .paymentId next =>
      { s with
        desk := { s.desk with issued := id :: s.desk.issued }
        flights := s.flights.set i { f with ids := id :: f.ids, rest := some (next id) } }
    | _ => s
  | .store i fault => s.onFlight i fun f p => match p with
    | .storeWithin limit c next =>
      let (store, r) := (s.desk.store.faulty fault c).outcome limit
      { s with desk := { s.desk with store } }.goOn i f (r.map next)
    | _ => s
  | .cache i fault => s.onFlight i fun f p => match p with
    | .cacheWithin limit c next =>
      let (cache, r) := (s.cache.faulty s.clock fault c).outcome limit
      { s with cache }.goOn i f (r.map next)
    | _ => s
  | .forge i r => s.onFlight i fun f p => match p with
    | .cacheWithin _ c next => s.goOn i f (some (next (r c)))
    | _ => s
  | .drop i reached => s.onFlight i fun f p => match p with
    | .done _ => s
    | _ => (if reached then s.reach p else s).goOn i f none

/-- Lets things happen one after the other, from an empty store and an empty cache on. -/
def run (acts : List Action) : Traffic :=
  acts.foldl step {}

/-! ## What can happen -/

/-- All that can come of an action. -/
inductive Effect (s : Traffic) : Action → Traffic → Prop
  | idle {a : Action} : Effect s a s
  | deed {d : Deed} : Effect s (.deed d) { s with desk := s.desk.perform d }
  | tick {now : Instant} : Effect s (.tick now) { s with clock := now }
  | begun {c : InitiatePayment} {deadlines : Deadlines} :
      Effect s (.begin c deadlines)
        { s with flights := s.flights ++ [⟨c, [], some (initiate c deadlines)⟩] }
  | passed {i : Nat} {f : Flight} {p q : Program (Except DomainError Receipt)}
      (hf : s.flights[i]? = some f) (hp : f.rest = some p) (hopen : f.answer = none)
      (hpass : p.Passes s.clock q) :
      Effect s (.pass i) (s.goOn i f (some q))
  | issued {i : Nat} {f : Flight} {id : Uuid} {next : Uuid → Program (Except DomainError Receipt)}
      (hf : s.flights[i]? = some f) (hp : f.rest = some (.ask .paymentId next)) :
      Effect s (.issue i id)
        { s with
          desk := { s.desk with issued := id :: s.desk.issued }
          flights := s.flights.set i { f with ids := id :: f.ids, rest := some (next id) } }
  | stored {i : Nat} {f : Flight} {fault : Lab.Fault DomainError} {limit : Span} {c : StoreCall}
      {next : Option c.Reply → Program (Except DomainError Receipt)} {store : MemoryStore}
      {r : Option (Option c.Reply)} (hf : s.flights[i]? = some f)
      (hp : f.rest = some (.storeWithin limit c next))
      (hcall : (s.desk.store.faulty fault c).outcome limit = (store, r)) :
      Effect s (.store i fault)
        ({ s with desk := { s.desk with store } }.goOn i f (r.map next))
  | cached {i : Nat} {f : Flight} {fault : Lab.Fault CacheError} {limit : Span} {c : CacheCall}
      {next : Option c.Reply → Program (Except DomainError Receipt)} {cache : MemoryCache}
      {r : Option (Option c.Reply)} (hf : s.flights[i]? = some f)
      (hp : f.rest = some (.cacheWithin limit c next))
      (hcall : (s.cache.faulty s.clock fault c).outcome limit = (cache, r)) :
      Effect s (.cache i fault) ({ s with cache }.goOn i f (r.map next))
  | forged {i : Nat} {f : Flight} {r : (c : CacheCall) → Option c.Reply} {limit : Span}
      {c : CacheCall} {next : Option c.Reply → Program (Except DomainError Receipt)}
      (hf : s.flights[i]? = some f) (hp : f.rest = some (.cacheWithin limit c next)) :
      Effect s (.forge i r) (s.goOn i f (some (next (r c))))
  | dropped {i : Nat} {reached : Bool} {f : Flight} (hf : s.flights[i]? = some f)
      (hopen : f.answer = none) :
      Effect s (.drop i reached) (s.goOn i f none)
  | leftStore {i : Nat} {f : Flight} {limit : Span} {c : StoreCall}
      {next : Option c.Reply → Program (Except DomainError Receipt)}
      (hf : s.flights[i]? = some f) (hp : f.rest = some (.storeWithin limit c next)) :
      Effect s (.drop i true)
        ({ s with desk := { s.desk with store := (s.desk.store.handle c).2 } }.goOn i f none)
  | leftCache {i : Nat} {f : Flight} {limit : Span} {c : CacheCall}
      {next : Option c.Reply → Program (Except DomainError Receipt)}
      (hf : s.flights[i]? = some f) (hp : f.rest = some (.cacheWithin limit c next)) :
      Effect s (.drop i true) ({ s with cache := (s.cache.handle s.clock c).2 }.goOn i f none)

/-- An action on an initiation has an effect if it has one wherever there is something to do. -/
theorem onFlight_effect {s : Traffic} {a : Action} {i : Nat}
    {act : Flight → Program (Except DomainError Receipt) → Traffic}
    (h : ∀ f p, s.flights[i]? = some f → f.rest = some p → s.Effect a (act f p)) :
    s.Effect a (s.onFlight i act) := by
  unfold onFlight
  cases hf : s.flights[i]? with
  | none => exact .idle
  | some f =>
    simp only
    cases hp : f.rest with
    | none => exact .idle
    | some p => exact h f p hf hp

theorem step_effect (s : Traffic) (a : Action) : s.Effect a (s.step a) := by
  cases a with
  | deed d => exact .deed
  | tick now => exact .tick
  | begin c deadlines => exact .begun
  | pass i =>
    apply onFlight_effect
    intro f p hf hp
    have hanswer : f.answer = Flight.answer { f with rest := some p } := by rw [← hp]
    cases p with
    | ask q next =>
      cases q with
      | now => exact .passed hf hp hanswer .now
      | paymentId => exact .idle
      | correlationId => exact .idle
      | elapsed => exact .idle
    | signal g next => exact .passed hf hp hanswer .signal
    | log entry next => exact .passed hf hp hanswer .log
    | wait d next => exact .passed hf hp hanswer .wait
    | _ => exact .idle
  | issue i id =>
    apply onFlight_effect
    intro f p hf hp
    cases p with
    | ask q next =>
      cases q with
      | paymentId => exact .issued hf hp
      | _ => exact .idle
    | _ => exact .idle
  | store i fault =>
    apply onFlight_effect
    intro f p hf hp
    cases p with
    | storeWithin limit c next => exact .stored hf hp rfl
    | _ => exact .idle
  | cache i fault =>
    apply onFlight_effect
    intro f p hf hp
    cases p with
    | cacheWithin limit c next => exact .cached hf hp rfl
    | _ => exact .idle
  | forge i r =>
    apply onFlight_effect
    intro f p hf hp
    cases p with
    | cacheWithin limit c next => exact .forged hf hp
    | _ => exact .idle
  | drop i reached =>
    -- Whoever has an answer does not wait any more, and cannot be dropped.
    apply onFlight_effect
    intro f p hf hp
    have hanswer : f.answer = Flight.answer { f with rest := some p } := by rw [← hp]
    cases reached with
    | false =>
      cases p with
      | done r => exact .idle
      | _ => exact .dropped hf hanswer
    | true =>
      cases p with
      | done r => exact .idle
      | storeWithin limit c next => exact .leftStore hf hp
      | cacheWithin limit c next => exact .leftCache hf hp
      | _ => exact .dropped hf hanswer

end Traffic

end PayOnce
