import PayOnce.Proofs.Service.Parts
import PayOnce.Proofs.Service.Rules
import Mathlib.Logic.Function.Basic
/-!
Many keys over one store and one cache. Initiations under any keys go on side by side, a step at a
time, beside holders who create, load, move and save payments. What is done under one key is, to
every other key, as if it had never been done.
-/

namespace PayOnce

/-! ## Initiations keep to their key -/

namespace Initiation

open Program

/-- The rules of an initiation that was given an id for a new payment: it calls under its own key
    only. -/
def seclusion (owner : Uuid → String) (key : String) (id : Uuid) : Rules Unit where
  drift _ _ := True
  allows _
    | .store c => c.Under owner key
    | .cache c => c.Under key
    | _ => True
  leads _ _ x _ := ∀ id', x = .paymentId id' → id' = id
  drift_refl _ := trivial
  drift_trans _ _ _ _ _ := trivial

/-- The program keeps to a key, however it ends. -/
def Secluded (owner : Uuid → String) (key : String) (id : Uuid)
    (p : Program (Except DomainError Receipt)) : Prop :=
  p.Obeys (seclusion owner key id) (fun _ _ => True) ()

section Parts

variable {owner : Uuid → String} {key : String} {id : Uuid}

theorem secluded_announce (s : Signal) (p : Payment) (limit : Span) :
    Secluded owner key id (announce s p key limit) :=
  fun _ _ => ⟨trivial, fun _ _ _ _ => ⟨rfl, fun _ _ _ => trivial⟩⟩

theorem secluded_lookup {operation : String} {limit : Span}
    {found : Payment → Program (Except DomainError Receipt)}
    {nothing : Program (Except DomainError Receipt)}
    (hfound : ∀ p, Secluded owner key id (found p)) (hnothing : Secluded owner key id nothing) :
    Secluded owner key id
      (.storeWithin limit (.findByKey key) (fromLookup operation limit found nothing)) := by
  intro _ _
  refine ⟨rfl, fun r _ _ => ?_⟩
  rcases r with _ | e | _ | p
  · trivial
  · trivial
  · exact hnothing
  · exact hfound p

theorem secluded_refetch (deadlines : Deadlines) :
    Secluded owner key id (refetch key deadlines) :=
  secluded_lookup (fun p => secluded_announce _ p _) trivial

theorem secluded_issueAndSave {draft : Draft} (hkey : draft.idempotencyKey = key)
    (hid : owner id = key) (deadlines : Deadlines) :
    Secluded owner key id (issueAndSave draft deadlines) := by
  subst hkey
  intro _ _
  refine ⟨trivial, fun now _ _ _ _ => ⟨trivial, fun id' _ hid' => ?_⟩⟩
  obtain rfl : id' = id := hid' id' rfl
  refine fun _ _ => ⟨⟨rfl, Draft.owned_issue hid now⟩, fun r _ _ => ?_⟩
  rcases r with _ | ⟨e | rows, saved⟩
  · trivial
  · cases e with
    | duplicateKey key' => exact secluded_refetch deadlines
    | _ => trivial
  · exact secluded_announce _ saved _

theorem secluded_lookOrCreate {draft : Draft} (hkey : draft.idempotencyKey = key)
    (hid : owner id = key) (deadlines : Deadlines) :
    Secluded owner key id (lookOrCreate draft deadlines) := by
  have hcreate := secluded_issueAndSave hkey hid deadlines
  subst hkey
  exact secluded_lookup (fun p => secluded_announce _ p _) hcreate

theorem secluded_fromReading {draft : Draft} (hkey : draft.idempotencyKey = key)
    (hid : owner id = key) (deadlines : Deadlines) (reading : Reading) :
    Secluded owner key id (fromReading draft deadlines reading) := by
  have hlook := secluded_lookOrCreate hkey hid deadlines
  cases reading with
  | receipt r => exact fun _ _ => ⟨trivial, fun _ _ => trivial⟩
  | nothing => exact hlook
  | spoiled => exact fun _ _ => ⟨hkey, fun _ _ _ => hlook⟩
  | down => exact fun _ _ => ⟨trivial, fun _ _ => hlook⟩

end Parts

/-- An initiation keeps to the key of its command. -/
theorem secluded_initiate {owner : Uuid → String} {c : InitiatePayment} {id : Uuid}
    (hid : owner id = c.idempotencyKey) (deadlines : Deadlines) :
    Secluded owner c.idempotencyKey id (initiate c deadlines) := by
  unfold Secluded
  rw [← obeys_unlogged, unlogged_initiate, outline]
  cases c.validate with
  | error e => trivial
  | ok amount =>
    have hkey : (c.draft amount).idempotencyKey = c.idempotencyKey := rfl
    exact fun _ _ => ⟨rfl, fun r _ _ => secluded_fromReading hkey hid deadlines (.of r)⟩

end Initiation

/-! ## The floor -/

/-- An initiation under way: its command, the id that it was given for a new payment, and what is
    left to do. -/
structure Job where
  command : InitiatePayment
  id : Uuid
  rest : Program (Except DomainError Receipt)

/-- The key of an initiation. -/
def Job.key (e : Job) : String :=
  e.command.idempotencyKey

/-- Payments in hand and initiations under way, each under a name, over one store and one cache. -/
structure Floor where
  store : MemoryStore := {}
  cache : MemoryCache := {}
  clock : Instant := ⟨0, 0⟩
  hands : String → Option Payment := fun _ => none
  jobs : String → Option Job := fun _ => none

namespace Floor

/-- Something that is done next. -/
inductive Step
  | begin (name : String) (c : InitiatePayment) (deadlines : Deadlines) (id : Uuid)
  /-- An initiation makes its next call, or whatever else comes next. -/
  | go (name : String)
  /-- The clock is set. -/
  | tick (now : Instant)
  /-- From now on the outbox takes rows, or fails. -/
  | outbox (fails : Bool)
  | create (name : String) (d : Draft) (id : Uuid)
  | loadId (name : String) (id : Uuid)
  | loadKey (name key : String)
  | move (name : String) (m : Move)
  | save (name : String)

/-- The answer to a step. -/
inductive Answer
  | done
  /-- There is nothing under this name. -/
  | missing
  /-- The answer of an initiation, once it has one. -/
  | initiated (r : Option (Except DomainError Receipt))
  /-- The payment that is taken in hand. -/
  | taken (r : Except DomainError (Option Payment))
  | moved (r : Except DomainError Payment)
  | saved (r : Except DomainError (List OutboxRow)) (p : Payment)

/-- What is left to do of an initiation has come to an end. -/
def ended? : Program (Except DomainError Receipt) → Option (Except DomainError Receipt)
  | .done r => some r
  | _ => none

/-- What an initiation is told about its surroundings. -/
def tell (s : Floor) (e : Job) : (q : Query) → q.Answer
  | .now => s.clock
  | .paymentId => e.id
  | .correlationId => e.command.correlationId
  | .elapsed => 0

/-- The store, the cache and what is left to do, after the next thing that an initiation does. -/
def next (s : Floor) (e : Job) :
    MemoryStore × MemoryCache × Program (Except DomainError Receipt) :=
  match e.rest with
  | .done r => (s.store, s.cache, .done r)
  | .store c next => ((s.store.handle c).2, s.cache, next (s.store.handle c).1)
  | .storeWithin _ c next => ((s.store.handle c).2, s.cache, next (some (s.store.handle c).1))
  | .cacheWithin _ c next =>
    (s.store, (s.cache.handle s.clock c).2, next (some (s.cache.handle s.clock c).1))
  | .ask q next => (s.store, s.cache, next (s.tell e q))
  | .signal _ next => (s.store, s.cache, next)
  | .log _ next => (s.store, s.cache, next)
  | .wait _ next => (s.store, s.cache, next)

/-- Takes a payment in hand. -/
def take (s : Floor) (name : String) (p : Payment) : Answer × Floor :=
  (.taken (.ok (some p)), { s with hands := Function.update s.hands name (some p) })

/-- Takes a step. -/
def perform (s : Floor) : Step → Answer × Floor
  | .begin name c deadlines id =>
    (.done, { s with
      jobs := Function.update s.jobs name (some ⟨c, id, initiate c deadlines⟩) })
  | .go name => match s.jobs name with
    | none => (.missing, s)
    | some e =>
      let (store, cache, rest) := s.next e
      (.initiated (ended? rest),
        { s with store, cache, jobs := Function.update s.jobs name (some { e with rest }) })
  | .tick now => (.done, { s with clock := now })
  | .outbox fails => (.done, { s with store := { s.store with outboxFails := fails } })
  | .create name d id => match d.check with
    | .error e => (.taken (.error e), s)
    | .ok () => s.take name (d.issue id s.clock)
  | .loadId name id => match s.store.findById id with
    | (.error e, store) => (.taken (.error e), { s with store })
    | (.ok p, store) => { s with store }.take name p
  | .loadKey name key => match s.store.findByKey key with
    | (none, store) => (.taken (.ok none), { s with store })
    | (some p, store) => { s with store }.take name p
  | .move name m => match s.hands name with
    | none => (.missing, s)
    | some p => match p.move m s.clock with
      | .error e => (.moved (.error e), s)
      | .ok q => (.moved (.ok q), { s with hands := Function.update s.hands name (some q) })
  | .save name => match s.hands name with
    | none => (.missing, s)
    | some p =>
      let (r, q, store) := s.store.save p
      (.saved r q, { s with store, hands := Function.update s.hands name (some q) })

/-- The key that a step is about, if it is about one: that of the command, of the payment in hand,
    or of the payment that is asked for. -/
def keyOf (s : Floor) : Step → Option String
  | .begin _ c _ _ => some c.idempotencyKey
  | .go name => (s.jobs name).map Job.key
  | .tick _ => none
  | .outbox _ => none
  | .create _ d _ => some d.idempotencyKey
  | .loadId _ id => (s.store.findId? id).map (·.idempotencyKey)
  | .loadKey _ key => some key
  | .move name _ => (s.hands name).map (·.facts.idempotencyKey)
  | .save name => (s.hands name).map (·.facts.idempotencyKey)

/-- A step that was taken, the key that it was about, and its answer. -/
structure Entry where
  step : Step
  key? : Option String
  answer : Answer

/-- Takes steps one after the other. -/
def run (s : Floor) (steps : List Step) : Floor :=
  steps.foldl (fun s step => (s.perform step).2) s

/-- What has been done and answered in a run. -/
def transcript (s : Floor) : List Step → List Entry
  | [] => []
  | step :: steps => ⟨step, s.keyOf step, (s.perform step).1⟩ :: (s.perform step).2.transcript steps

/-- Is an entry about no other key? -/
def Entry.spares (key : String) (e : Entry) : Bool :=
  e.key?.all (· == key)

/-- What a run is to a key: the steps that are about no other key, with their answers. -/
def entriesFor (s : Floor) (key : String) (steps : List Step) : List Entry :=
  (s.transcript steps).filter (Entry.spares key)

/-- The steps of a run that are about no other key. -/
def stepsFor (s : Floor) (key : String) (steps : List Step) : List Step :=
  (s.entriesFor key steps).map Entry.step

/-- The id that a step is given for a new payment, with the key of the payment. -/
def Step.issued? : Step → Option (Uuid × String)
  | .begin _ c _ id => some (id, c.idempotencyKey)
  | .create _ d id => some (id, d.idempotencyKey)
  | _ => none

/-! ## What is done under a key -/

variable {owner : Uuid → String} {key : String} {s t : Floor} {e : Job} {step : Step}

/-- Every payment that is stored or in hand has the id of its owner, and every initiation under way
    keeps to its key. -/
structure Owned (owner : Uuid → String) (s : Floor) : Prop where
  store : s.store.Owned owner
  hands : ∀ name p, s.hands name = some p → p.Owned owner
  jobs : ∀ name e, s.jobs name = some e → Initiation.Secluded owner e.key e.id e.rest

/-- A step is given no id but one that belongs to its key. -/
def Step.Fits (owner : Uuid → String) (step : Step) : Prop :=
  ∀ id key, step.issued? = some (id, key) → owner id = key

/-- Under every name that has something of a key, or nothing, there is the same elsewhere. -/
def Mirrors {β : Type} (keyOf : β → String) (key : String) (f g : String → Option β) : Prop :=
  ∀ name, (∀ b, f name = some b → keyOf b = key) → g name = f name

theorem Mirrors.eq {β : Type} {keyOf : β → String} {f g : String → Option β}
    (h : Mirrors keyOf key f g) {name : String}
    (hkey : ∀ key', (f name).map keyOf = some key' → key' = key) : g name = f name :=
  h name fun b hb => hkey _ (by rw [hb, Option.map_some])

theorem Mirrors.put {β : Type} {keyOf : β → String} {f g : String → Option β}
    (h : Mirrors keyOf key f g) (name : String) (b : β) :
    Mirrors keyOf key (Function.update f name (some b)) (Function.update g name (some b)) := by
  intro name' hname'
  by_cases hname : name' = name
  · simp [hname]
  · simp only [Function.update_of_ne hname] at hname' ⊢
    exact h name' hname'

theorem Mirrors.put_elsewhere {β : Type} {keyOf : β → String} {f g : String → Option β}
    (h : Mirrors keyOf key f g) (name : String) {b : β} (hb : keyOf b ≠ key) :
    Mirrors keyOf key (Function.update f name (some b)) g := by
  intro name' hname'
  by_cases hname : name' = name
  · subst hname
    exact absurd (hname' b (by simp)) hb
  · simp only [Function.update_of_ne hname] at hname' ⊢
    exact h name' hname'

/-- One floor is the part of another one that concerns a key. -/
structure Part (owner : Uuid → String) (key : String) (s t : Floor) : Prop where
  store : s.store.Part owner key t.store
  cache : t.cache.find? key = s.cache.find? key
  clock : t.clock = s.clock
  hands : Mirrors (·.facts.idempotencyKey) key s.hands t.hands
  jobs : Mirrors Job.key key s.jobs t.jobs

/-! ### Initiations -/

theorem Owned.next (hs : s.store.Owned owner)
    (he : Initiation.Secluded owner e.key e.id e.rest) :
    (s.next e).1.Owned owner ∧ Initiation.Secluded owner e.key e.id (s.next e).2.2 := by
  obtain ⟨c, id, rest⟩ := e
  cases rest with
  | done r => exact ⟨hs, trivial⟩
  | store call next => exact he.elim
  | storeWithin limit call next =>
    obtain ⟨hcall, hnext⟩ := he () trivial
    exact ⟨hs.handle hcall, hnext _ () (by rintro _ ⟨⟩)⟩
  | cacheWithin limit call next =>
    obtain ⟨-, hnext⟩ := he () trivial
    exact ⟨hs, hnext _ () (by rintro _ ⟨⟩)⟩
  | ask q next =>
    cases q with
    | now => exact ⟨hs, (he () trivial).2 _ () (by rintro _ ⟨⟩)⟩
    | paymentId => exact ⟨hs, (he () trivial).2 _ () (by rintro _ ⟨⟩; rfl)⟩
    | correlationId => exact he.elim
    | elapsed => exact he.elim
  | signal g next => exact ⟨hs, (he () trivial).2 () (by rintro _ ⟨⟩)⟩
  | log entry next => exact ⟨hs, he⟩
  | wait d next => exact he.elim

/-- An initiation under a key does in the part what it does in the whole. -/
theorem Part.next (h : s.Part owner key t) (hs : s.store.Owned owner)
    (he : Initiation.Secluded owner e.key e.id e.rest) (hkey : e.key = key) :
    (t.next e).2.2 = (s.next e).2.2 ∧ (s.next e).1.Part owner key (t.next e).1 ∧
      (t.next e).2.1.find? key = (s.next e).2.1.find? key := by
  obtain ⟨c, id, rest⟩ := e
  subst hkey
  cases rest with
  | done r => exact ⟨rfl, h.store, h.cache⟩
  | store call next => exact he.elim
  | storeWithin limit call next =>
    obtain ⟨hanswer, hpart⟩ := h.store.handle hs (he () trivial).1
    exact ⟨congrArg (fun r => next (some r)) hanswer, hpart, h.cache⟩
  | cacheWithin limit call next =>
    obtain ⟨hanswer, hentry⟩ := MemoryCache.handle_congr h.cache s.clock (he () trivial).1
    simp only [Floor.next, h.clock]
    exact ⟨congrArg (fun r => next (some r)) hanswer, h.store, hentry⟩
  | ask q next =>
    have htell : t.tell ⟨c, id, .ask q next⟩ q = s.tell ⟨c, id, .ask q next⟩ q := by
      cases q with
      | now => exact h.clock
      | _ => rfl
    exact ⟨congrArg next htell, h.store, h.cache⟩
  | signal g next => exact ⟨rfl, h.store, h.cache⟩
  | log entry next => exact ⟨rfl, h.store, h.cache⟩
  | wait d next => exact he.elim

/-- An initiation under another key leaves the part alone. -/
theorem Part.next_elsewhere (h : s.Part owner key t) (hs : s.store.Owned owner)
    (he : Initiation.Secluded owner e.key e.id e.rest) (hkey : e.key ≠ key) :
    (s.next e).1.Part owner key t.store ∧ t.cache.find? key = (s.next e).2.1.find? key := by
  obtain ⟨c, id, rest⟩ := e
  cases rest with
  | done r => exact ⟨h.store, h.cache⟩
  | store call next => exact he.elim
  | storeWithin limit call next =>
    exact ⟨h.store.handle_elsewhere hs hkey (he () trivial).1, h.cache⟩
  | cacheWithin limit call next =>
    have hentry := s.cache.find?_handle_elsewhere s.clock hkey (he () trivial).1
    exact ⟨h.store, h.cache.trans hentry.symm⟩
  | ask q next => exact ⟨h.store, h.cache⟩
  | signal g next => exact ⟨h.store, h.cache⟩
  | log entry next => exact ⟨h.store, h.cache⟩
  | wait d next => exact he.elim

/-! ### Steps -/

/-- What is found under a name after something was put under one. -/
theorem update_cases {β : Type} {f : String → Option β} {name name' : String} {b b' : β}
    (h : Function.update f name (some b) name' = some b') : b' = b ∨ f name' = some b' := by
  by_cases hname : name' = name
  · subst hname
    rw [Function.update_self] at h
    exact .inl (Option.some.inj h).symm
  · rw [Function.update_of_ne hname] at h
    exact .inr h

theorem Owned.take (hs : s.Owned owner) {store : MemoryStore} (hstore : store.Owned owner)
    (name : String) {p : Payment} (hp : p.Owned owner) :
    Owned owner { s with store, hands := Function.update s.hands name (some p) } where
  store := hstore
  hands name' q hq := by
    rcases update_cases hq with rfl | hq
    · exact hp
    · exact hs.hands name' q hq
  jobs := hs.jobs

theorem Owned.send (hs : s.Owned owner) {store : MemoryStore} (hstore : store.Owned owner)
    (cache : MemoryCache) (name : String)
    (he : Initiation.Secluded owner e.key e.id e.rest) :
    Owned owner { s with store, cache, jobs := Function.update s.jobs name (some e) } where
  store := hstore
  hands := hs.hands
  jobs name' e' he' := by
    rcases update_cases he' with rfl | he'
    · exact he
    · exact hs.jobs name' e' he'

/-- The floor after a lookup in the store. -/
def looked (s : Floor) : Floor :=
  { s with store := { s.store with lookups := s.store.lookups + 1 } }

theorem perform_loadId (s : Floor) (name : String) (id : Uuid) :
    s.perform (.loadId name id) = match s.store.findId? id with
      | none => (.taken (.error (.notFound id)), s.looked)
      | some r => s.looked.take name (.ofFacts r) := by
  simp only [perform, MemoryStore.findById]
  cases s.store.findId? id <;> rfl

theorem perform_loadKey (s : Floor) (name key : String) :
    s.perform (.loadKey name key) = match s.store.findKey? key with
      | none => (.taken (.ok none), s.looked)
      | some r => s.looked.take name (.ofFacts r) := by
  simp only [perform, MemoryStore.findByKey]
  cases s.store.findKey? key <;> rfl

theorem Owned.looked (hs : s.Owned owner) : s.looked.Owned owner :=
  ⟨hs.store, hs.hands, hs.jobs⟩

/-- No step gives anything away to another owner. -/
theorem Owned.perform (hs : s.Owned owner) (hfits : step.Fits owner) :
    (s.perform step).2.Owned owner := by
  cases step with
  | begin name c deadlines id =>
    exact hs.send hs.store s.cache name (Initiation.secluded_initiate (hfits _ _ rfl) deadlines)
  | go name =>
    simp only [Floor.perform]
    cases he : s.jobs name with
    | none => exact hs
    | some e =>
      obtain ⟨hstore, hrest⟩ := Owned.next hs.store (hs.jobs name e he)
      exact hs.send hstore _ name hrest
  | tick now => exact ⟨hs.store, hs.hands, hs.jobs⟩
  | outbox fails => exact ⟨hs.store, hs.hands, hs.jobs⟩
  | create name d id =>
    simp only [Floor.perform]
    cases d.check with
    | error e => exact hs
    | ok _ => exact hs.take hs.store name (Draft.owned_issue (hfits _ _ rfl) s.clock)
  | loadId name id =>
    rw [perform_loadId]
    cases hfind : s.store.findId? id with
    | none => exact hs.looked
    | some r =>
      have hr := hs.store r (MemoryStore.mem_of_findId? hfind).1
      exact hs.looked.take hs.looked.store name (Payment.owned_ofFacts hr)
  | loadKey name key' =>
    rw [perform_loadKey]
    cases hfind : s.store.findKey? key' with
    | none => exact hs.looked
    | some r =>
      have hr := hs.store r (MemoryStore.mem_of_findKey? hfind).1
      exact hs.looked.take hs.looked.store name (Payment.owned_ofFacts hr)
  | move name m =>
    simp only [Floor.perform]
    cases hp : s.hands name with
    | none => exact hs
    | some p =>
      simp only
      cases hmove : p.move m s.clock with
      | error e => exact hs
      | ok q => exact hs.take hs.store name ((hs.hands name p hp).move hmove).1
  | save name =>
    simp only [Floor.perform]
    cases hp : s.hands name with
    | none => exact hs
    | some p =>
      have howned := hs.hands name p hp
      have hcall : (StoreCall.save p).Under owner p.facts.idempotencyKey := ⟨rfl, howned⟩
      exact hs.take (hs.store.handle hcall) name (s.store.owned_save howned).1

theorem Part.take (h : s.Part owner key t) {store store' : MemoryStore}
    (hstore : store.Part owner key store') (name : String) (p : Payment) :
    Part owner key { s with store, hands := Function.update s.hands name (some p) }
      { t with store := store', hands := Function.update t.hands name (some p) } :=
  ⟨hstore, h.cache, h.clock, h.hands.put name p, h.jobs⟩

theorem Part.take_elsewhere (h : s.Part owner key t) {store : MemoryStore}
    (hstore : store.Part owner key t.store) (name : String) {p : Payment}
    (hp : p.facts.idempotencyKey ≠ key) :
    Part owner key { s with store, hands := Function.update s.hands name (some p) } t :=
  ⟨hstore, h.cache, h.clock, h.hands.put_elsewhere name hp, h.jobs⟩

theorem Part.looked (h : s.Part owner key t) : s.looked.Part owner key t.looked :=
  ⟨h.store.of_tables ⟨rfl, rfl, rfl⟩ ⟨rfl, rfl, rfl⟩, h.cache, h.clock, h.hands, h.jobs⟩

theorem Part.looked_elsewhere (h : s.Part owner key t) : s.looked.Part owner key t :=
  ⟨h.store.of_tables ⟨rfl, rfl, rfl⟩ ⟨rfl, rfl, rfl⟩, h.cache, h.clock, h.hands, h.jobs⟩

/-- A step about a key, or about none, is so in the part as well. -/
theorem Part.keyOf (h : s.Part owner key t) (hkey : ∀ key', s.keyOf step = some key' → key' = key) :
    t.keyOf step = s.keyOf step := by
  cases step with
  | go name =>
    simp only [Floor.keyOf, h.jobs.eq hkey]
  | loadId name id =>
    have hsame : t.store.findId? id = s.store.findId? id :=
      h.store.findId? fun r hr => hkey _ (by simp [Floor.keyOf, hr])
    simp only [Floor.keyOf, hsame]
  | move name m =>
    simp only [Floor.keyOf, h.hands.eq hkey]
  | save name =>
    simp only [Floor.keyOf, h.hands.eq hkey]
  | _ => rfl

/-- A step about a key, or about none, is answered in the part as it is answered in the whole. -/
theorem Part.perform (h : s.Part owner key t) (hs : s.Owned owner)
    (hkey : ∀ key', s.keyOf step = some key' → key' = key) :
    (t.perform step).1 = (s.perform step).1 ∧
      (s.perform step).2.Part owner key (t.perform step).2 := by
  cases step with
  | begin name c deadlines id =>
    exact ⟨rfl, h.store, h.cache, h.clock, h.hands, h.jobs.put name _⟩
  | go name =>
    have hsame : t.jobs name = s.jobs name := h.jobs.eq hkey
    cases he : s.jobs name with
    | none =>
      simp only [Floor.perform, hsame, he]
      exact ⟨trivial, h⟩
    | some e =>
      have hown : e.key = key := hkey _ (by simp [Floor.keyOf, he])
      obtain ⟨hrest, hstore, hcache⟩ := h.next hs.store (hs.jobs name e he) hown
      simp only [Floor.perform, hsame, he, hrest]
      exact ⟨trivial, hstore, hcache, h.clock, h.hands, h.jobs.put name _⟩
  | tick now => exact ⟨rfl, h.store, h.cache, rfl, h.hands, h.jobs⟩
  | outbox fails =>
    exact ⟨rfl, ⟨h.store.payments, h.store.outbox, rfl⟩, h.cache, h.clock, h.hands, h.jobs⟩
  | create name d id =>
    have hissue : d.issue id t.clock = d.issue id s.clock := by rw [h.clock]
    simp only [Floor.perform, hissue]
    cases d.check with
    | error e => exact ⟨rfl, h⟩
    | ok _ => exact ⟨rfl, h.take h.store name _⟩
  | loadId name id =>
    have hsame : t.store.findId? id = s.store.findId? id :=
      h.store.findId? fun r hr => hkey _ (by simp [Floor.keyOf, hr])
    rw [perform_loadId, perform_loadId, hsame]
    cases s.store.findId? id with
    | none => exact ⟨rfl, h.looked⟩
    | some r => exact ⟨rfl, h.looked.take h.looked.store name _⟩
  | loadKey name key' =>
    obtain rfl : key' = key := hkey _ rfl
    rw [perform_loadKey, perform_loadKey, h.store.findKey?]
    cases s.store.findKey? key' with
    | none => exact ⟨rfl, h.looked⟩
    | some r => exact ⟨rfl, h.looked.take h.looked.store name _⟩
  | move name m =>
    have hsame : t.hands name = s.hands name := h.hands.eq hkey
    cases hp : s.hands name with
    | none =>
      simp only [Floor.perform, hsame, hp]
      exact ⟨trivial, h⟩
    | some p =>
      have hmove : p.move m t.clock = p.move m s.clock := by rw [h.clock]
      simp only [Floor.perform, hsame, hp, hmove]
      cases p.move m s.clock with
      | error e => exact ⟨rfl, h⟩
      | ok q => exact ⟨rfl, h.take h.store name q⟩
  | save name =>
    have hsame : t.hands name = s.hands name := h.hands.eq hkey
    cases hp : s.hands name with
    | none =>
      simp only [Floor.perform, hsame, hp]
      exact ⟨trivial, h⟩
    | some p =>
      have hown : p.facts.idempotencyKey = key :=
        hkey _ (by simp [Floor.keyOf, hp])
      obtain ⟨hrows, hhand, hstore⟩ := h.store.save hs.store (hs.hands name p hp) hown
      simp only [Floor.perform, hsame, hp, hrows, hhand]
      exact ⟨trivial, h.take hstore name _⟩

/-- A step about another key leaves the part alone. -/
theorem Part.perform_elsewhere (h : s.Part owner key t) (hs : s.Owned owner) {key' : String}
    (hstep : s.keyOf step = some key') (hkey : key' ≠ key) :
    (s.perform step).2.Part owner key t := by
  cases step with
  | begin name c deadlines id =>
    obtain rfl : c.idempotencyKey = key' := Option.some.inj hstep
    exact ⟨h.store, h.cache, h.clock, h.hands, h.jobs.put_elsewhere name hkey⟩
  | go name =>
    obtain ⟨e, he, rfl⟩ := Option.map_eq_some_iff.1 hstep
    obtain ⟨hstore, hcache⟩ := h.next_elsewhere hs.store (hs.jobs name e he) hkey
    simp only [Floor.perform, he]
    exact ⟨hstore, hcache, h.clock, h.hands, h.jobs.put_elsewhere name hkey⟩
  | tick now => cases hstep
  | outbox fails => cases hstep
  | create name d id =>
    obtain rfl : d.idempotencyKey = key' := Option.some.inj hstep
    simp only [Floor.perform]
    cases d.check with
    | error e => exact h
    | ok _ => exact h.take_elsewhere h.store name hkey
  | loadId name id =>
    obtain ⟨r, hr, rfl⟩ := Option.map_eq_some_iff.1 hstep
    rw [perform_loadId, hr]
    exact h.looked_elsewhere.take_elsewhere h.looked_elsewhere.store name hkey
  | loadKey name key'' =>
    obtain rfl : key'' = key' := Option.some.inj hstep
    rw [perform_loadKey]
    cases hfind : s.store.findKey? key'' with
    | none => exact h.looked_elsewhere
    | some r =>
      have hr := (MemoryStore.mem_of_findKey? hfind).2
      exact h.looked_elsewhere.take_elsewhere h.looked_elsewhere.store name (hr ▸ hkey)
  | move name m =>
    obtain ⟨p, hp, rfl⟩ := Option.map_eq_some_iff.1 hstep
    simp only [Floor.perform, hp]
    cases hmove : p.move m s.clock with
    | error e => exact h
    | ok q =>
      have hq := ((hs.hands name p hp).move hmove).2
      exact h.take_elsewhere h.store name (hq ▸ hkey)
  | save name =>
    obtain ⟨p, hp, rfl⟩ := Option.map_eq_some_iff.1 hstep
    have howned := hs.hands name p hp
    have hcall : (StoreCall.save p).Under owner p.facts.idempotencyKey := ⟨rfl, howned⟩
    have hq := (s.store.owned_save howned).2
    simp only [Floor.perform, hp]
    exact h.take_elsewhere (h.store.handle_elsewhere hs.store hkey hcall) name (hq ▸ hkey)

/-! ## Runs -/

/-- Taken by themselves, the steps of a run that are about no other key are answered as they are in
    the run, and what concerns the key is the same in the end. -/
theorem Part.run (h : s.Part owner key t) (hs : s.Owned owner) {steps : List Step}
    (hfits : ∀ step ∈ steps, step.Fits owner) :
    t.transcript (s.stepsFor key steps) = s.entriesFor key steps ∧
      (s.run steps).Part owner key (t.run (s.stepsFor key steps)) ∧
      (s.run steps).Owned owner := by
  induction steps generalizing s t with
  | nil => exact ⟨rfl, h, hs⟩
  | cons step steps ih =>
    obtain ⟨hstep, hfits⟩ := List.forall_mem_cons.1 hfits
    have howned := hs.perform hstep
    by_cases hspares : Entry.spares key ⟨step, s.keyOf step, (s.perform step).1⟩
    · have hkey : ∀ key', s.keyOf step = some key' → key' = key := by
        intro key' hkey'
        simpa [Entry.spares, hkey'] using hspares
      have hentries : s.entriesFor key (step :: steps) =
          ⟨step, s.keyOf step, (s.perform step).1⟩ :: (s.perform step).2.entriesFor key steps := by
        simp only [entriesFor, transcript, List.filter_cons, if_pos hspares]
      obtain ⟨hanswer, hpart⟩ := h.perform hs hkey
      obtain ⟨hrest, hend⟩ := ih hpart howned hfits
      simp only [stepsFor, hentries, List.map_cons, transcript, h.keyOf hkey, hanswer]
      exact ⟨congrArg _ hrest, hend⟩
    · obtain ⟨key', hkey', hne⟩ : ∃ key', s.keyOf step = some key' ∧ key' ≠ key := by
        cases hkeyOf : s.keyOf step with
        | none => simp [Entry.spares, hkeyOf] at hspares
        | some key' => exact ⟨key', rfl, by simpa [Entry.spares, hkeyOf] using hspares⟩
      have hentries :
          s.entriesFor key (step :: steps) = (s.perform step).2.entriesFor key steps := by
        simp only [entriesFor, transcript, List.filter_cons, if_neg hspares]
      simp only [stepsFor, hentries]
      exact ih (h.perform_elsewhere hs hkey' hne) howned hfits

theorem owned_empty (owner : Uuid → String) : Owned owner {} :=
  ⟨by rintro r ⟨⟩, by rintro name p ⟨⟩, by rintro name e ⟨⟩⟩

theorem part_empty (owner : Uuid → String) (key : String) : Part owner key {} {} :=
  ⟨⟨rfl, rfl, rfl⟩, rfl, rfl, fun _ _ => rfl, fun _ _ => rfl⟩

/-- Where no id is given twice, every id has an owner. -/
theorem exists_owner {steps : List Step}
    (hids : ((steps.filterMap Step.issued?).map Prod.fst).Nodup) :
    ∃ owner : Uuid → String, ∀ step ∈ steps, step.Fits owner := by
  classical
  refine ⟨fun id => if h : ∃ key, (id, key) ∈ steps.filterMap Step.issued? then h.choose else "",
    ?_⟩
  intro step hstep id key hissued
  have hmem : (id, key) ∈ steps.filterMap Step.issued? :=
    List.mem_filterMap.2 ⟨step, hstep, hissued⟩
  have hexists : ∃ key, (id, key) ∈ steps.filterMap Step.issued? := ⟨key, hmem⟩
  simp only [dif_pos hexists]
  exact (Prod.ext_iff.1 (List.inj_on_of_nodup_map hids hexists.choose_spec hmem rfl)).2

/-- Keys do not interfere with each other. If all that is done under other keys is left out of a
    run, everything else is answered as before, and in the end there are the same payments under the
    key, the same rows of the outbox for them, and the same entry in the cache. -/
theorem keys_do_not_interfere (key : String) (steps : List Step)
    (hids : ((steps.filterMap Step.issued?).map Prod.fst).Nodup) :
    transcript {} (stepsFor {} key steps) = entriesFor {} key steps ∧
      (run {} (stepsFor {} key steps)).store.withKey key = (run {} steps).store.withKey key ∧
      (∀ r ∈ (run {} steps).store.withKey key,
        (run {} (stepsFor {} key steps)).store.outbox.filter (·.aggregateId == r.id) =
          (run {} steps).store.outbox.filter (·.aggregateId == r.id)) ∧
      (run {} (stepsFor {} key steps)).cache.find? key = (run {} steps).cache.find? key := by
  obtain ⟨owner, hfits⟩ := exists_owner hids
  obtain ⟨htranscript, hpart, howned⟩ := (part_empty owner key).run (owned_empty owner) hfits
  have hpayments := hpart.store.payments
  have houtbox := hpart.store.outbox
  refine ⟨htranscript, ?_, ?_, hpart.cache⟩
  · rw [MemoryStore.withKey, hpayments]
    simp [MemoryStore.withKey]
  · intro r hr
    obtain ⟨hmem, hkey⟩ := List.mem_filter.1 hr
    have howner : owner r.id = key := (howned.store r hmem).trans (by simpa using hkey)
    rw [houtbox, List.filter_filter]
    refine List.filter_congr fun row _ => ?_
    by_cases hrow : row.aggregateId = r.id
    · simp [hrow, howner]
    · simp [hrow]

/-- Two initiations under different keys take turns, and a holder creates and saves a payment under
    one of these keys meanwhile. -/
def takingTurns : List Step :=
  [.begin "first" ⟨⟨7⟩, "order-1", "customer-1", 100, "USD", "key-1"⟩ .standard ⟨1⟩,
    .begin "second" ⟨⟨8⟩, "order-2", "customer-2", 200, "EUR", "key-2"⟩ .standard ⟨2⟩,
    .create "third" ⟨"order-3", "customer-2", ⟨300, "EUR"⟩, "key-2"⟩ ⟨3⟩] ++
  (List.replicate 12 [.go "first", .go "second"]).flatten ++ [.save "third"]

/-- Half of the entries are left to one of the keys. Its initiation creates a payment all the
    same. -/
theorem keys_do_not_interfere_takingTurns :
    takingTurns.length = 28 ∧ (entriesFor {} "key-1" takingTurns).length = 13 ∧
      transcript {} (stepsFor {} "key-1" takingTurns) = entriesFor {} "key-1" takingTurns ∧
      (run {} (stepsFor {} "key-1" takingTurns)).store.withKey "key-1" =
        (run {} takingTurns).store.withKey "key-1" ∧
      ((run {} takingTurns).store.withKey "key-1").map (·.id) = [⟨1⟩] := by
  obtain ⟨htranscript, hpayments, -, -⟩ :=
    keys_do_not_interfere "key-1" takingTurns (by decide +kernel)
  exact ⟨by decide +kernel, by decide +kernel, htranscript, hpayments, by decide +kernel⟩

/-! ## Initiations by themselves -/

/-- What an initiation that is by itself runs in: a store and a cache that answer at once. -/
def surroundings (clock : Instant) (c : InitiatePayment) (id : Uuid) :
    Environment MemoryStore MemoryCache where
  store store call := .immediate store (store.handle call).2 (store.handle call).1
  cache cache call := .immediate cache (cache.handle clock call).2 (cache.handle clock call).1
  clock
  paymentId _ := id
  correlationId := c.correlationId

/-- The floor with an initiation under a name. -/
def send (s : Floor) (name : String) (e : Job) : Floor :=
  { s with jobs := Function.update s.jobs name (some e) }

theorem run_go_send (s : Floor) (name : String) (e : Job) (steps : List Step) :
    (s.send name e).run (.go name :: steps) =
      ({ s with store := (s.next e).1, cache := (s.next e).2.1 }.send name
        { e with rest := (s.next e).2.2 }).run steps := by
  have hgo : ((s.send name e).perform (.go name)).2 =
      { s with store := (s.next e).1, cache := (s.next e).2.1 }.send name
        { e with rest := (s.next e).2.2 } := by
    simp only [Floor.perform, send, Function.update_self, Function.update_idem]
    rfl
  exact congrArg (fun s : Floor => s.run steps) hgo

/-- After its next step, an initiation goes on from there. -/
theorem run_replicate_send (s : Floor) (name : String) (e : Job) (n : Nat) :
    (s.send name e).run (List.replicate (n + 1) (.go name)) =
      ({ s with store := (s.next e).1, cache := (s.next e).2.1 }.send name
        { e with rest := (s.next e).2.2 }).run (List.replicate n (.go name)) := by
  rw [List.replicate_succ, run_go_send]

/-- An initiation that nobody interferes with is answered as if it were run by itself, and leaves
    the same behind. -/
theorem run_alone {rest : Program (Except DomainError Receipt)} {id : Uuid}
    (h : Initiation.Secluded owner key id rest) (s : Floor) (name : String) (c : InitiatePayment)
    (r : Progress MemoryStore MemoryCache) (hstore : r.store = s.store)
    (hcache : r.cache = s.cache) :
    ∃ n answer r', rest.run (surroundings s.clock c id) none r = (.finished answer, r') ∧
      (s.send name ⟨c, id, rest⟩).run (List.replicate n (.go name)) =
        { s with store := r'.store, cache := r'.cache }.send name ⟨c, id, .done answer⟩ := by
  induction rest generalizing s r with
  | done answer =>
    refine ⟨0, answer, r, rfl, ?_⟩
    rw [hstore, hcache]
    rfl
  | store call next ih => exact h.elim
  | storeWithin limit call next ih =>
    have hnext := (h () trivial).2 (some (s.store.handle call).1) () (by rintro _ ⟨⟩)
    obtain ⟨n, answer, r', hrun, hgo⟩ := ih _ hnext { s with store := (s.store.handle call).2 }
      { r with store := (s.store.handle call).2, events := .store call :: r.events } rfl hcache
    refine ⟨n + 1, answer, r', ?_, (run_replicate_send s name _ n).trans hgo⟩
    simp only [Program.run, hstore]
    exact hrun
  | cacheWithin limit call next ih =>
    have hnext := (h () trivial).2 (some (s.cache.handle s.clock call).1) () (by rintro _ ⟨⟩)
    obtain ⟨n, answer, r', hrun, hgo⟩ := ih _ hnext
      { s with cache := (s.cache.handle s.clock call).2 }
      { r with cache := (s.cache.handle s.clock call).2, events := .cache call :: r.events }
      hstore rfl
    refine ⟨n + 1, answer, r', ?_, (run_replicate_send s name _ n).trans hgo⟩
    simp only [Program.run, hcache]
    exact hrun
  | ask q next ih =>
    cases q with
    | now =>
      have hnext := (h () trivial).2 s.clock () (by rintro _ ⟨⟩)
      obtain ⟨n, answer, r', hrun, hgo⟩ := ih _ hnext s r hstore hcache
      exact ⟨n + 1, answer, r', hrun, (run_replicate_send s name _ n).trans hgo⟩
    | paymentId =>
      have hnext := (h () trivial).2 id () (by rintro _ ⟨⟩; rfl)
      obtain ⟨n, answer, r', hrun, hgo⟩ :=
        ih _ hnext s { r with issued := r.issued + 1 } hstore hcache
      exact ⟨n + 1, answer, r', hrun, (run_replicate_send s name _ n).trans hgo⟩
    | correlationId => exact h.elim
    | elapsed => exact h.elim
  | signal g next ih =>
    have hnext := (h () trivial).2 () (by rintro _ ⟨⟩)
    obtain ⟨n, answer, r', hrun, hgo⟩ :=
      ih hnext s { r with events := .signal g :: r.events } hstore hcache
    exact ⟨n + 1, answer, r', hrun, (run_replicate_send s name _ n).trans hgo⟩
  | log entry next ih =>
    obtain ⟨n, answer, r', hrun, hgo⟩ :=
      ih h s { r with events := .log entry :: r.events } hstore hcache
    exact ⟨n + 1, answer, r', hrun, (run_replicate_send s name _ n).trans hgo⟩
  | wait d next ih => exact h.elim

theorem initiation_alone (s : Floor) (name : String) (c : InitiatePayment) (deadlines : Deadlines)
    (id : Uuid) (r : Progress MemoryStore MemoryCache) (hstore : r.store = s.store)
    (hcache : r.cache = s.cache) :
    ∃ n answer r',
      (initiate c deadlines).run (surroundings s.clock c id) none r = (.finished answer, r') ∧
      s.run (.begin name c deadlines id :: List.replicate n (.go name)) =
        { s with store := r'.store, cache := r'.cache }.send name ⟨c, id, .done answer⟩ :=
  run_alone (@Initiation.secluded_initiate (fun _ => c.idempotencyKey) c id rfl deadlines) s name c
    r hstore hcache

end Floor

end PayOnce
