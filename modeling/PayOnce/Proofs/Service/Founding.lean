import PayOnce.Proofs.Service.Origins
import PayOnce.Proofs.Service.Turns
/-!
How stored payments were founded. Every stored payment goes back to one turn that put it down as the
first one under its key, on behalf of an initiation or of a holder of payments. Whatever happens
later, whoever reads the payment is told what it was created from.
-/

namespace PayOnce.Traffic

/-! ## Foundings -/

/-- The clock has shown a time to an initiation. -/
def ReadsClock (turns : List Turn) (i : Nat) (now : Instant) : Prop :=
  ∃ ts f next, ts ++ [.act (.pass i)] <+: turns ∧ (play ts).flights[i]? = some f ∧
    f.rest = some (.ask .now next) ∧ (play ts).clock = now

/-- In this turn, a call of an initiation to the store may have its effect. -/
inductive Serves (i : Nat) : Turn → Prop
  | call {f : Lab.Fault DomainError} : Serves i (.act (.store i f))
  | drop : Serves i (.act (.drop i true))

/-- In this turn, a payment in hand may be saved. -/
inductive Saves (n : Nat) : Turn → Prop
  | heard : Saves n (.act (.deed (.save n)))
  | unheard {drains : Bool} : Saves n (.act (.deed (.saveUnheard n drains)))

/-- Who writes the payment of a draft, with its id and its time of creation, in the next turn. -/
inductive Source (ts : List Turn) (t : Turn) (d : Draft) (id : Uuid) (now : Instant) : Prop
  /-- An initiation, whose command asks for the draft, at a time that its clock has shown. -/
  | initiation {i : Nat} {f : Flight} {limit : Span}
      {next : Option (StoreCall.save (d.issue id now)).Reply →
        Program (Except DomainError Receipt)}
      (hserves : Serves i t) (hf : (play ts).flights[i]? = some f) (hasked : d = f.command.asked)
      (hrest : f.rest = some (.storeWithin limit (.save (d.issue id now)) next))
      (hnow : ReadsClock ts i now)
  /-- A holder of a payment that was created from the draft. -/
  | holder {n : Nat} {p : Payment} (hsaves : Saves n t) (hp : (play ts).desk.hands[n]? = some p)
      (hcreate : .act (.deed (.create d id now)) ∈ ts)
      (horigin : p.facts.SameOrigin (d.issue id now).facts)

/-- A turn puts down the payment of a draft, the first one under its key. -/
structure Founding (ts : List Turn) (t : Turn) (d : Draft) (id : Uuid) (now : Instant) : Prop where
  unheld : (play ts).desk.store.findKey? d.idempotencyKey = none
  source : Source ts t d id now
  stored : ∃ r ∈ (play (ts ++ [t])).desk.store.payments, r.SameOrigin (d.issue id now).facts

/-- A record goes back to a founding. -/
def Founded (turns : List Turn) (r : PaymentFacts) : Prop :=
  ∃ ts t d id now, ts ++ [t] <+: turns ∧ Founding ts t d id now ∧
    r.SameOrigin (d.issue id now).facts

/-- A record has been created by a holder. -/
def Created (turns : List Turn) (r : PaymentFacts) : Prop :=
  ∃ d id now, .act (.deed (.create d id now)) ∈ turns ∧ r.SameOrigin (d.issue id now).facts

variable {ts us : List Turn} {r r' : PaymentFacts}

theorem ReadsClock.later {i : Nat} {now : Instant} (h : ReadsClock ts i now) (hts : ts <+: us) :
    ReadsClock us i now := by
  obtain ⟨vs, f, next, hvs, h⟩ := h
  exact ⟨vs, f, next, hvs.trans hts, h⟩

theorem Created.later (h : Created ts r) (hts : ts <+: us) : Created us r := by
  obtain ⟨d, id, now, hcreate, horigin⟩ := h
  exact ⟨d, id, now, hts.subset hcreate, horigin⟩

theorem Created.origin (h : Created ts r) (horigin : r'.SameOrigin r) : Created ts r' := by
  obtain ⟨d, id, now, hcreate, h⟩ := h
  exact ⟨d, id, now, hcreate, horigin.trans h⟩

theorem Founded.later (h : Founded ts r) (hts : ts <+: us) : Founded us r := by
  obtain ⟨vs, t, d, id, now, hvs, h⟩ := h
  exact ⟨vs, t, d, id, now, hvs.trans hts, h⟩

theorem Founded.origin (h : Founded ts r) (horigin : r'.SameOrigin r) : Founded ts r' := by
  obtain ⟨vs, t, d, id, now, hvs, hfounding, h⟩ := h
  exact ⟨vs, t, d, id, now, hvs, hfounding, horigin.trans h⟩

/-! ## Keeping faith -/

/-- An initiation follows its rules from now on, and knows only times that its clock has shown. -/
def KeepsFaith (turns : List Turn) (store : MemoryStore) (i : Nat) (f : Flight) : Prop :=
  ∀ p, f.rest = some p → ∃ times, (∀ now ∈ times, ReadsClock turns i now) ∧
    p.Obeys (Initiation.faith f.command) (Initiation.Honours f.command) ⟨store, times⟩

/-- The cache, the initiations and the holders of payments are all true to the store and to what has
    happened so far. -/
structure Faithful (turns : List Turn) (s : Traffic) : Prop where
  cache : s.cache.Keeps s.desk.store.Attests
  flights : ∀ (i : Nat) f, s.flights[i]? = some f → KeepsFaith turns s.desk.store i f
  hands : ∀ p ∈ s.desk.hands,
    Created turns p.facts ∨ ∃ r ∈ s.desk.store.payments, p.facts.SameOrigin r

theorem faithful_empty : Faithful [] {} :=
  ⟨by simp [MemoryCache.Keeps], by simp, by simp⟩

theorem KeepsFaith.later {s t : MemoryStore} {i : Nat} {f : Flight} (h : KeepsFaith ts s i f)
    (hts : ts <+: us) (hages : s.Ages t) : KeepsFaith us t i f := by
  intro p hp
  obtain ⟨times, htimes, hobeys⟩ := h p hp
  refine ⟨times, fun now hnow => (htimes now hnow).later hts, ?_⟩
  have hdrift : (Initiation.faith f.command).drift ⟨s, times⟩ ⟨t, times⟩ := ⟨hages, rfl⟩
  exact hobeys.drift (Initiation.honours_drift f.command) hdrift

/-- A new initiation keeps faith. -/
theorem keepsFaith_initiate (turns : List Turn) (store : MemoryStore) (i : Nat)
    (c : InitiatePayment) (deadlines : Deadlines) :
    KeepsFaith turns store i ⟨c, [], some (initiate c deadlines)⟩ := by
  rintro _ ⟨⟩
  exact ⟨[], by simp, Initiation.honours_initiate c deadlines _⟩

theorem keepsFaith_dropped (turns : List Turn) (store : MemoryStore) (i : Nat) (f : Flight) :
    KeepsFaith turns store i { f with rest := none } := by
  rintro _ ⟨⟩

/-- An initiation may go on where the clock or a report leads it. -/
theorem KeepsFaith.pass {store : MemoryStore} {i : Nat} {f : Flight}
    {p q : Program (Except DomainError Receipt)} {now : Instant} (h : KeepsFaith ts store i f)
    (hp : f.rest = some p) (hpass : p.Passes now q)
    (hnow : ∀ next, p = .ask .now next → ReadsClock ts i now) :
    KeepsFaith ts store i { f with rest := some q } := by
  obtain ⟨times, htimes, hobeys⟩ := h p hp
  have hself := (Initiation.faith f.command).drift_refl ⟨store, times⟩
  rintro _ ⟨⟩
  cases hpass with
  | @now next =>
    refine ⟨now :: times, ?_, (hobeys _ hself).2 now _ ⟨.refl _, rfl, trivial⟩⟩
    exact List.forall_mem_cons.2 ⟨hnow next rfl, htimes⟩
  | signal => exact ⟨times, htimes, (hobeys _ hself).2 _ ⟨.refl _, rfl, trivial⟩⟩
  | log => exact ⟨times, htimes, hobeys⟩
  | wait => exact hobeys.elim

/-- One initiation has made a step, and the store has aged. -/
theorem Faithful.next {s t : Traffic} (h : Faithful ts s) {i : Nat} {g : Flight}
    (hflights : t.flights = s.flights.set i g) (hhands : t.desk.hands = s.desk.hands)
    (hages : s.desk.store.Ages t.desk.store) (hcache : t.cache.Keeps t.desk.store.Attests)
    (hg : KeepsFaith ts t.desk.store i g) : Faithful ts t := by
  refine ⟨hcache, ?_, ?_⟩
  · intro j f hf
    rw [hflights] at hf
    rcases getElem?_set_cases hf with ⟨-, hf⟩ | ⟨rfl, rfl⟩
    · exact (h.flights j f hf).later List.prefix_rfl hages
    · exact hg
  · intro p hp
    rw [hhands] at hp
    exact (h.hands p hp).imp_right hages.origin

/-! ### Steps -/

section Calls

variable {s : MemoryStore} {i : Nat} {f : Flight} {limit : Span}

/-- An initiation that calls the store may do so, and goes on from any answer. -/
theorem KeepsFaith.store (h : KeepsFaith ts s i f) {c : StoreCall}
    {next : Option c.Reply → Program (Except DomainError Receipt)}
    (hp : f.rest = some (.storeWithin limit c next)) :
    ∃ times, (∀ now ∈ times, ReadsClock ts i now) ∧
      (Initiation.faith f.command).allows ⟨s, times⟩ (.store c) ∧
      ∀ r w, (Initiation.faith f.command).leads ⟨s, times⟩ limit (.store c r) w →
        (next r).Obeys (Initiation.faith f.command) (Initiation.Honours f.command) w := by
  obtain ⟨times, htimes, hobeys⟩ := h _ hp
  exact ⟨times, htimes, hobeys _ ((Initiation.faith f.command).drift_refl _)⟩

theorem KeepsFaith.cache (h : KeepsFaith ts s i f) {c : CacheCall}
    {next : Option c.Reply → Program (Except DomainError Receipt)}
    (hp : f.rest = some (.cacheWithin limit c next)) :
    ∃ times, (∀ now ∈ times, ReadsClock ts i now) ∧
      (Initiation.faith f.command).allows ⟨s, times⟩ (.cache c) ∧
      ∀ r w, (Initiation.faith f.command).leads ⟨s, times⟩ limit (.cache c r) w →
        (next r).Obeys (Initiation.faith f.command) (Initiation.Honours f.command) w := by
  obtain ⟨times, htimes, hobeys⟩ := h _ hp
  exact ⟨times, htimes, hobeys _ ((Initiation.faith f.command).drift_refl _)⟩

/-- Payments age under the calls of an initiation. -/
theorem KeepsFaith.ages (h : KeepsFaith ts s i f) {c : StoreCall}
    {next : Option c.Reply → Program (Except DomainError Receipt)}
    (hp : f.rest = some (.storeWithin limit c next)) (hs : s.Consistent) {t : MemoryStore}
    (ht : s.Touched c t) : s.Ages t := by
  obtain ⟨times, -, hallows, -⟩ := h.store hp
  exact ht.ages hs (Initiation.fits_of_faith hallows hs)

end Calls

/-- Faith is kept by every action, if it is on record that the clock is read and that payments are
    created. -/
theorem Faithful.step {s : Traffic} (h : Faithful ts s) (hs : s.desk.Sound) {a : Action}
    (hhonest : a.Honest)
    (hnow : ∀ i f next, a = .pass i → s.flights[i]? = some f → f.rest = some (.ask .now next) →
      ReadsClock ts i s.clock)
    (hcreate : ∀ d id now, a = .deed (.create d id now) → .act a ∈ ts) :
    Faithful ts (s.step a) := by
  have heffect := s.step_effect a
  generalize s.step a = t at heffect ⊢
  cases heffect with
  | idle => exact h
  | tick => exact ⟨h.cache, h.flights, h.hands⟩
  | @deed d =>
    have houtcome := s.desk.perform_outcome d
    have hages := houtcome.ages hs
    refine ⟨h.cache.mono fun _ _ => hages.attests, ?_, ?_⟩
    · exact fun i f hf => (h.flights i f hf).later List.prefix_rfl hages
    · intro p hp
      rcases houtcome.hand_origin hp with ⟨q, hq, horigin⟩ | hstored | ⟨draft, id, now, rfl, rfl⟩
      · rcases h.hands q hq with hcreated | ⟨r, hr, hq⟩
        · exact .inl (hcreated.origin horigin)
        · exact .inr (hages.origin ⟨r, hr, horigin.trans hq⟩)
      · exact .inr (hages.origin hstored)
      · exact .inl ⟨draft, id, now, hcreate _ _ _ rfl, .refl _⟩
  | @begun c deadlines =>
    refine ⟨h.cache, ?_, h.hands⟩
    intro i f hf
    rcases getElem?_append_singleton hf with ⟨-, hf⟩ | ⟨-, rfl⟩
    · exact h.flights i f hf
    · exact keepsFaith_initiate ts _ i c deadlines
  | @passed i f p q hf hp hopen hpass =>
    refine h.next rfl rfl (.refl _) h.cache ((h.flights i f hf).pass hp hpass ?_)
    rintro next rfl
    exact hnow i f next rfl hf hp
  | @issued i f id next hf hp =>
    obtain ⟨times, htimes, hobeys⟩ := h.flights i f hf _ hp
    refine h.next (g := { f with ids := id :: f.ids, rest := some (next id) }) rfl rfl (.refl _)
      h.cache ?_
    rintro _ ⟨⟩
    have hself := (Initiation.faith f.command).drift_refl ⟨s.desk.store, times⟩
    exact ⟨times, htimes, (hobeys _ hself).2 id _ ⟨.refl _, rfl, trivial⟩⟩
  | @stored i f fault limit c next store r hf hp hcall =>
    obtain ⟨times, htimes, hallows, hnext⟩ := (h.flights i f hf).store hp
    have hages := (h.flights i f hf).ages hp hs.store (s.desk.store.touched_faulty hcall)
    refine h.next rfl rfl hages (h.cache.mono fun _ _ => hages.attests) ?_
    intro q hq
    cases r with
    | none => cases hq
    | some r =>
      cases hq
      exact ⟨times, htimes, hnext r _ (Initiation.leads_store hallows hs.store hcall)⟩
  | @cached i f fault limit c next cache r hf hp hcall =>
    obtain ⟨times, htimes, hallows, hnext⟩ := (h.flights i f hf).cache hp
    have hkeeps := h.cache.faulty (Initiation.attests_of_faith hallows) hcall
    refine h.next rfl rfl (.refl _) hkeeps ?_
    intro q hq
    cases r with
    | none => cases hq
    | some r =>
      cases hq
      exact ⟨times, htimes, hnext r _ (Initiation.leads_cache h.cache hcall)⟩
  | forged => exact hhonest.elim
  | @dropped i reached f hf hopen =>
    exact h.next rfl rfl (.refl _) h.cache (keepsFaith_dropped ts _ i f)
  | @leftStore i f limit c next hf hp =>
    have hages := (h.flights i f hf).ages hp hs.store (s.desk.store.touched_handle c)
    exact h.next rfl rfl hages (h.cache.mono fun _ _ => hages.attests)
      (keepsFaith_dropped ts _ i f)
  | @leftCache i f limit c next hf hp =>
    obtain ⟨times, -, hallows, -⟩ := (h.flights i f hf).cache hp
    have hkeeps := h.cache.handle s.clock (Initiation.attests_of_faith hallows)
    exact h.next rfl rfl (.refl _) hkeeps (keepsFaith_dropped ts _ i f)

/-- Where nothing happens, nothing is lost. -/
theorem Faithful.still {s t : Traffic} (h : Faithful ts s) (hstill : s.Still t) :
    Faithful ts t := by
  have hages : s.desk.store.Ages t.desk.store := .of_payments hstill.payments
  refine ⟨(hstill.keeps h.cache).mono fun _ _ => hages.attests, ?_, ?_⟩
  · intro i f hf
    rw [hstill.flights] at hf
    exact (h.flights i f hf).later List.prefix_rfl hages
  · rw [hstill.hands, hstill.payments]
    exact h.hands

theorem Faithful.later {s : Traffic} (h : Faithful ts s) (hts : ts <+: us) : Faithful us s := by
  refine ⟨h.cache, fun i f hf => (h.flights i f hf).later hts (.refl _), ?_⟩
  exact fun p hp => (h.hands p hp).imp_left fun hcreated => hcreated.later hts

theorem faithful_play {turns : List Turn} (h : ∀ t ∈ turns, t.Honest) :
    Faithful turns (play turns) := by
  induction turns using List.reverseRecOn with
  | nil => exact faithful_empty
  | append_singleton ts t ih =>
    have hbefore : ∀ u ∈ ts, u.Honest := fun u hu => h u (List.mem_append_left _ hu)
    have hlast : t ∈ ts ++ [t] := List.mem_append_right _ (List.mem_singleton.2 rfl)
    have hfaithful : Faithful (ts ++ [t]) (play ts) := (ih hbefore).later (List.prefix_append _ _)
    have horderly : Orderly ⟨True, False⟩ (play ts) := orderly_play id fun _ => hbefore
    rw [play_concat]
    rcases (play ts).turn_cases t with ⟨a, rfl, heq⟩ | hstill
    · rw [heq]
      apply hfaithful.step horderly.desk (h _ hlast)
      · rintro i f next rfl hf hrest
        exact ⟨ts, f, next, List.prefix_rfl, hf, hrest, rfl⟩
      · exact fun _ _ _ _ => hlast
    · exact hfaithful.still hstill

/-! ## Foundings of stored payments -/

/-- A record arises in the next turn: nobody holds its key so far, and somebody writes it. -/
def Arises (ts : List Turn) (t : Turn) (r : PaymentFacts) : Prop :=
  (play ts).desk.store.findKey? r.idempotencyKey = none ∧
    ∃ d id now, Source ts t d id now ∧ r.SameOrigin (d.issue id now).facts

/-- What an initiation writes under a new key it has made from its command. -/
theorem KeepsFaith.mem_payments {i : Nat} {f : Flight}
    (h : KeepsFaith ts (play ts).desk.store i f) {t : Turn} (hserves : Serves i t)
    (hf : (play ts).flights[i]? = some f) {limit : Span} {c : StoreCall}
    {next : Option c.Reply → Program (Except DomainError Receipt)}
    (hp : f.rest = some (.storeWithin limit c next)) {store : MemoryStore}
    (htouched : (play ts).desk.store.Touched c store) (hr : r ∈ store.payments) :
    (∃ old ∈ (play ts).desk.store.payments, r.Succeeds old) ∨ Arises ts t r := by
  obtain ⟨times, htimes, hallows, -⟩ := h.store hp
  have hstore := consistent_play ts
  rcases htouched.mem_payments hstore (Initiation.fits_of_faith hallows hstore) hr with
    hold | ⟨p, rfl, rfl, hkey⟩
  · exact .inl hold
  · obtain ⟨id, now, hnow, rfl⟩ := hallows
    refine .inr ⟨hkey, f.command.asked, id, now, ?_, .refl _⟩
    exact .initiation hserves hf rfl hp (htimes now hnow)

/-- What is stored after a turn succeeds a stored record, or it arises. -/
theorem Faithful.mem_payments (h : Faithful ts (play ts)) {t : Turn}
    (hr : r ∈ ((play ts).turn t).desk.store.payments) :
    (∃ old ∈ (play ts).desk.store.payments, r.Succeeds old) ∨ Arises ts t r := by
  have horderly : Orderly ⟨False, False⟩ (play ts) := orderly_play id False.elim
  rcases (play ts).turn_cases t with ⟨a, rfl, heq⟩ | hstill
  · rw [heq] at hr
    cases (play ts).step_storeEffect a with
    | idle hpayments => exact .inl ⟨r, hpayments ▸ hr, .refl r⟩
    | @deed d ha hdesk =>
      rw [hdesk] at hr
      subst ha
      rcases ((play ts).desk.perform_outcome d).mem_payments horderly.desk hr with
        hold | ⟨n, p, hd, hp, rfl, hkey⟩
      · exact .inl hold
      · -- A payment in hand under a new key has not been loaded.
        rcases h.hands p (List.mem_of_getElem? hp) with
          ⟨draft, id, now, hcreate, horigin⟩ | ⟨old, hold, horigin⟩
        · refine .inr ⟨hkey, draft, id, now, .holder (n := n) ?_ hp hcreate horigin, horigin⟩
          rcases hd with rfl | ⟨drains, rfl⟩
          · exact .heard
          · exact .unheard
        · exact absurd horigin.key.symm (MemoryStore.findKey?_eq_none_iff.1 hkey old hold)
    | call ha hf hp htouched =>
      refine (h.flights _ _ hf).mem_payments ?_ hf hp htouched hr
      rcases ha with ⟨fault, rfl⟩ | rfl
      · exact .call
      · exact .drop
  · exact .inl ⟨r, hstill.payments ▸ hr, .refl r⟩

/-- Every stored payment goes back to its founding. -/
theorem founded_play {turns : List Turn} (h : ∀ t ∈ turns, t.Honest) :
    ∀ r ∈ (play turns).desk.store.payments, Founded turns r := by
  induction turns using List.reverseRecOn with
  | nil => simp [play]
  | append_singleton ts t ih =>
    intro r hr
    have hbefore : ∀ u ∈ ts, u.Honest := fun u hu => h u (List.mem_append_left _ hu)
    have hr' : r ∈ ((play ts).turn t).desk.store.payments := play_concat ts t ▸ hr
    rcases (faithful_play hbefore).mem_payments hr' with
      ⟨old, hold, hsucceeds⟩ | ⟨hkey, d, id, now, hsource, horigin⟩
    · exact ((ih hbefore old hold).origin hsucceeds.origin).later (List.prefix_append _ _)
    · refine ⟨ts, t, d, id, now, List.prefix_rfl, ⟨?_, hsource, r, hr, horigin⟩, horigin⟩
      rw [horigin.key] at hkey
      exact hkey

/-! ## Payments stay readable -/

/-- A receipt that was answered shows the payment that holds the key. -/
theorem Faithful.answered {s : Traffic} (h : Faithful ts s) {i : Nat} {f : Flight}
    (hf : s.flights[i]? = some f) {receipt : Receipt} (hanswer : f.answer = some (.ok receipt)) :
    s.desk.store.Shows f.command.idempotencyKey receipt := by
  unfold Flight.answer at hanswer
  split at hanswer
  · next r hrest =>
    cases hanswer
    obtain ⟨times, -, hobeys⟩ := h.flights i f hf _ hrest
    exact hobeys receipt rfl
  · cases hanswer

/-- A view tells what a payment was created from, and when. -/
structure Recounts (v : PaymentView) (d : Draft) (id : Uuid) (now : Instant) : Prop where
  paymentId : v.paymentId = id
  orderId : v.orderId = d.orderId
  customerId : v.customerId = d.customerId
  amount : v.amount = d.amount
  createdAt : v.createdAt = now

theorem recounts_of_origin {d : Draft} {id : Uuid} {now : Instant}
    (h : r.SameOrigin (d.issue id now).facts) :
    Recounts (.ofPayment (.ofFacts r)) d id now :=
  ⟨h.id, h.orderId, h.customerId, h.amount, h.createdAt⟩

/-- Whoever reads a stored payment later without being disturbed sees what it has become. -/
theorem read_later (hts : ts <+: us) (hr : r ∈ (play ts).desk.store.payments) :
    ∃ r' ∈ (play us).desk.store.payments, r'.Succeeds r ∧
      ((play us).read r.id .ok).1 = .finished (.ok (.ofPayment (.ofFacts r'))) := by
  obtain ⟨r', hr', hsucceeds⟩ := ages_play hts r hr
  refine ⟨r', hr', hsucceeds, ?_⟩
  rw [← hsucceeds.origin.id]
  exact read_stored ((consistent_play us).findId?_of_mem hr')

/-- Once an initiation was answered with a receipt, whatever happens to calls and to holders of
    payments: the payment of the receipt was the first one that somebody has put down under the key,
    and whoever reads it later without being disturbed is told what it was created from, in versions
    that never go down. -/
theorem confirmed_stays_readable (h : ∀ t ∈ ts, t.Honest) {i : Nat} {f : Flight}
    {receipt : Receipt} (hf : (play ts).flights[i]? = some f)
    (hanswer : f.answer = some (.ok receipt)) :
    (∃ bs b d now, bs ++ [b] <+: ts ∧ Founding bs b d receipt.paymentId now ∧
      d.idempotencyKey = f.command.idempotencyKey ∧
      ∀ us, ts <+: us → ∃ v, ((play us).read receipt.paymentId .ok).1 = .finished (.ok v) ∧
        Recounts v d receipt.paymentId now) ∧
    ∀ us vs v v', ts <+: us → us <+: vs →
      ((play us).read receipt.paymentId .ok).1 = .finished (.ok v) →
      ((play vs).read receipt.paymentId .ok).1 = .finished (.ok v') → v.version ≤ v'.version := by
  obtain ⟨r, hr, hkey, hid, -⟩ := (faithful_play h).answered hf hanswer
  rw [← hid]
  refine ⟨?_, ?_⟩
  · obtain ⟨bs, b, d, id, now, hbs, hfounding, horigin⟩ := founded_play h r hr
    obtain rfl : r.id = id := horigin.id
    refine ⟨bs, b, d, now, hbs, hfounding, horigin.key.symm.trans hkey, ?_⟩
    intro us hus
    obtain ⟨r', -, hsucceeds, hread⟩ := read_later hus hr
    exact ⟨_, hread, recounts_of_origin (hsucceeds.origin.trans horigin)⟩
  · intro us vs v v' hus hvs hread hread'
    -- The record that was read first is succeeded by the one that is read later.
    obtain ⟨old, hold, hsucceeds, hread₁⟩ := read_later hus hr
    obtain ⟨new, -, hnew, hread₂⟩ := read_later hvs hold
    rw [hsucceeds.origin.id] at hread₂
    cases hread.symm.trans hread₁
    cases hread'.symm.trans hread₂
    exact hnew.version

/-- A save commits, but its initiation is cut off; the key is then asked for with other fields, and
    the payment is loaded, moved, saved and read while the cache loses everything. -/
def lostFounder : List Turn :=
  let c : InitiatePayment := ⟨⟨7⟩, "order-1", "customer-1", 100, " usd ", "key-1"⟩
  let c' : InitiatePayment := ⟨⟨8⟩, "order-2", "customer-2", 500, "eur", "key-1"⟩
  [.act (.tick ⟨30, 0⟩), .act (.begin c .standard), .act (.cache 0 .ok), .act (.store 0 .ok),
    .act (.pass 0), .act (.issue 0 ⟨1⟩), .act (.drop 0 true), .act (.tick ⟨60, 0⟩),
    .act (.begin c' .standard), .act (.cache 1 (.fail (.unavailable "down"))), .act (.pass 1),
    .act (.pass 1), .act (.store 1 .ok), .act (.pass 1), .act (.pass 1), .act (.cache 1 .ok)]

/-- What happens after the second initiation was answered. -/
def lostFounderLater : List Turn :=
  lostFounder ++ [.read ⟨1⟩ .hang, .act (.deed (.loadId ⟨1⟩)),
    .act (.deed (.move 0 (.start "ref-1") ⟨61, 0⟩)), .act (.deed (.save 0)), .forget fun _ => false]

/-- The payment was founded by the first of the two commands. -/
theorem confirmed_stays_readable_lostFounder : ∃ bs b,
    Founding bs b ⟨"order-1", "customer-1", ⟨100, "USD"⟩, "key-1"⟩ ⟨1⟩ ⟨30, 0⟩ := by
  let f := (play lostFounder).flights.get ⟨1, by decide +kernel⟩
  have hf : (play lostFounder).flights[1]? = some f := List.getElem?_eq_getElem _
  have hanswer : f.answer = some (.ok ⟨⟨1⟩, .pending⟩) := by decide +kernel
  have hkey : f.command.idempotencyKey = "key-1" := by decide +kernel
  obtain ⟨⟨bs, b, ⟨order, customer, amount, key⟩, now, -, hfounding, hheld, hread⟩, -⟩ :=
    confirmed_stays_readable (by decide : ∀ t ∈ lostFounder, t.Honest) hf hanswer
  obtain ⟨v, hv, -, horder, hcustomer, hamount, hnow⟩ :=
    hread lostFounderLater (List.prefix_append _ _)
  have hview : ((play lostFounderLater).read ⟨1⟩ .ok).1 = .finished (.ok ⟨⟨1⟩, "order-1",
      "customer-1", ⟨100, "USD"⟩, .processing, some "ref-1", none, 2, ⟨30, 0⟩, ⟨61, 0⟩⟩) := by
    decide +kernel
  cases hv.symm.trans hview
  obtain rfl : key = "key-1" := hheld.trans hkey
  cases horder
  cases hcustomer
  cases hamount
  cases hnow
  exact ⟨bs, b, hfounding⟩

end PayOnce.Traffic
