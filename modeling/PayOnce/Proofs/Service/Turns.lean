import PayOnce.Proofs.Service.Order
import PayOnce.Service.Query
/-!
What happens around initiations: payments are read, and the cache loses entries. Neither touches the
tables of the store, so that everything stays in order and payments age throughout.
-/

namespace PayOnce

/-- Something that happens next among initiations, holders and readers of payments. -/
inductive Turn
  | act (a : Action)
  /-- A payment is read, and something happens to the call. -/
  | read (id : Uuid) (f : Lab.Fault DomainError)
  /-- The cache loses its entries, except for those of some keys. -/
  | forget (keeps : String → Bool)

/-- The cache makes nothing up. -/
def Turn.Honest : Turn → Prop
  | act a => a.Honest
  | _ => True

instance : DecidablePred Turn.Honest
  | .act a => inferInstanceAs (Decidable a.Honest)
  | .read _ _ => isTrue trivial
  | .forget _ => isTrue trivial

namespace Traffic

/-- The surroundings of a reader, to whose call something happens. -/
def around (s : Traffic) (f : Lab.Fault DomainError) : Environment MemoryStore MemoryCache where
  store m c := m.faulty f c
  cache m c := m.faulty s.clock .ok c
  clock := s.clock
  paymentId _ := ⟨0⟩
  correlationId := ⟨0⟩

/-- Reads the payment with an id. -/
def read (s : Traffic) (id : Uuid) (f : Lab.Fault DomainError) :
    Outcome (Except DomainError PaymentView) × Traffic :=
  let start : Progress MemoryStore MemoryCache := ⟨s.desk.store, s.cache, 0, 0, []⟩
  let (outcome, progress) := (viewPayment id).run (s.around f) none start
  (outcome, { s with desk := { s.desk with store := progress.store } })

/-- Lets one thing happen. -/
def turn (s : Traffic) : Turn → Traffic
  | .act a => s.step a
  | .read id f => (s.read id f).2
  | .forget keeps =>
    { s with cache := { s.cache with entries := s.cache.entries.filter fun x => keeps x.1 } }

/-- Lets things happen one after the other, from an empty store and an empty cache on. -/
def play (turns : List Turn) : Traffic :=
  turns.foldl turn {}

theorem play_append (ts us : List Turn) : play (ts ++ us) = us.foldl turn (play ts) :=
  List.foldl_append

theorem play_concat (ts : List Turn) (t : Turn) : play (ts ++ [t]) = (play ts).turn t :=
  play_append ts [t]

/-! ## Reads -/

theorem viewPayment_eq (id : Uuid) :
    viewPayment id = .store (.findById id) fun r => .done (r.map .ofPayment) := by
  refine congrArg (Program.store _) (funext fun r => ?_)
  cases r <;> rfl

/-- A read leaves the tables of the store as they are, whatever happens to it. -/
theorem read_tables (s : Traffic) (id : Uuid) (f : Lab.Fault DomainError) :
    (s.read id f).2.desk.store.payments = s.desk.store.payments ∧
      (s.read id f).2.desk.store.outbox = s.desk.store.outbox := by
  unfold read
  rw [viewPayment_eq]
  cases f <;>
    simp [Program.run, around, MemoryStore.faulty, Lab.Fault.conduct, Conduct.immediate,
      Conduct.silent, Conduct.verdict, withinBudget, Lab.missedReply, MemoryStore.handle,
      MemoryStore.findById]

/-- A reader who is not disturbed sees the payment that is stored. -/
theorem read_stored {s : Traffic} {r : PaymentFacts} (h : s.desk.store.findId? r.id = some r) :
    (s.read r.id .ok).1 = .finished (.ok (.ofPayment (.ofFacts r))) := by
  have hreply : (s.desk.store.handle (.findById r.id)).1 = .ok (.ofFacts r) := by
    simp only [MemoryStore.handle, MemoryStore.findById, h]
  have hrun : (s.read r.id .ok).1
      = .finished ((s.desk.store.handle (.findById r.id)).1.map .ofPayment) := by
    unfold read
    rw [viewPayment_eq]
    simp [Program.run, around, MemoryStore.faulty, Lab.Fault.conduct, Conduct.immediate,
      Conduct.verdict, withinBudget]
  rw [hrun, hreply]
  rfl

/-! ## What is no action -/

/-- Nothing has happened but that a payment may have been read, and that the cache may have lost
    entries. -/
structure Still (s t : Traffic) : Prop where
  payments : t.desk.store.payments = s.desk.store.payments
  outbox : t.desk.store.outbox = s.desk.store.outbox
  hands : t.desk.hands = s.desk.hands
  entries : t.cache.entries ⊆ s.cache.entries
  flights : t.flights = s.flights

theorem turn_cases (s : Traffic) (t : Turn) :
    (∃ a, t = .act a ∧ s.turn t = s.step a) ∨ s.Still (s.turn t) := by
  cases t with
  | act a => exact .inl ⟨a, rfl, rfl⟩
  | read id f =>
    obtain ⟨hpayments, houtbox⟩ := s.read_tables id f
    exact .inr ⟨hpayments, houtbox, rfl, List.Subset.refl _, rfl⟩
  | forget keeps => exact .inr ⟨rfl, rfl, rfl, fun x hx => (List.mem_filter.1 hx).1, rfl⟩

theorem Still.keeps {s t : Traffic} (h : s.Still t) {P : String → String → Prop}
    (hs : s.cache.Keeps P) : t.cache.Keeps P :=
  fun x hx => hs x (h.entries hx)

/-- Where the store is not counted upon, order does not depend on what is no action. -/
theorem Still.orderly {e : Circumstances} {s t : Traffic} (h : s.Still t) (he : ¬ e.sound)
    (hs : Orderly e s) : Orderly e t := by
  have hextends : s.desk.store.Extends t.desk.store := .of_payments h.payments
  refine ⟨?_, ?_, ?_, fun hsound => absurd hsound he, fun hsound => absurd hsound he⟩
  · have hsound := hs.desk.of_payments h.payments h.outbox
    exact ⟨hsound.store, fun p hp => hsound.hands p (h.hands ▸ hp)⟩
  · exact fun hhonest => (h.keeps (hs.cache hhonest)).mono fun _ _ => vouches_mono hextends
  · intro i f hf
    rw [h.flights] at hf
    exact (hs.flights i f hf).drift hextends fun hsound => absurd hsound he

theorem orderly_play {e : Circumstances} (he : ¬ e.sound) {turns : List Turn}
    (hhonest : e.honest → ∀ t ∈ turns, t.Honest) : Orderly e (play turns) := by
  induction turns using List.reverseRecOn with
  | nil => exact orderly_empty e
  | append_singleton ts t ih =>
    have hbefore : Orderly e (play ts) :=
      ih fun hh u hu => hhonest hh u (List.mem_append_left _ hu)
    rw [play_concat]
    rcases (play ts).turn_cases t with ⟨a, rfl, heq⟩ | hstill
    · rw [heq]
      apply hbefore.step a
      · exact fun hh => hhonest hh _ (List.mem_append_right _ (List.mem_singleton.2 rfl))
      · exact fun hsound => absurd hsound he
    · exact hstill.orderly he hbefore

/-- The store is consistent throughout. -/
theorem consistent_play (turns : List Turn) : (play turns).desk.store.Consistent :=
  (orderly_play (e := ⟨False, False⟩) id fun h => h.elim).desk.store

/-! ## What time does not take away -/

theorem ages_turn (ts : List Turn) (t : Turn) :
    (play ts).desk.store.Ages (play (ts ++ [t])).desk.store := by
  rw [play_concat]
  rcases (play ts).turn_cases t with ⟨a, -, heq⟩ | hstill
  · rw [heq]
    have h : Orderly ⟨False, False⟩ (play ts) := orderly_play id fun h => h.elim
    exact h.ages a
  · exact .of_payments hstill.payments

/-- Payments age from any moment to any later one. -/
theorem ages_play {ts us : List Turn} (h : ts <+: us) :
    (play ts).desk.store.Ages (play us).desk.store := by
  obtain ⟨vs, rfl⟩ := h
  induction vs using List.reverseRecOn with
  | nil =>
    rw [List.append_nil]
    exact .refl _
  | append_singleton vs v ih =>
    rw [← List.append_assoc]
    exact ih.trans (ages_turn _ v)

end Traffic

end PayOnce
