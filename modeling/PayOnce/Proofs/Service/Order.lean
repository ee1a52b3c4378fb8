import PayOnce.Proofs.Service.Traffic
import Mathlib.Data.List.Induction
/-!
Order among initiations. Whatever happens, the store stays consistent and every initiation keeps its
terms; if the cache makes nothing up, it vouches for what it holds; if the store is sound, nobody
uses an id that was issued to somebody else.
-/

namespace PayOnce.Traffic

/-! ## The invariant -/

/-- Nobody uses an id that was issued to somebody else: whatever is stored or in hand was issued, no
    two initiations share an id, and a payment in hand that an initiation has made is stored. -/
structure Apart (k : Desk) (ids : List (List Uuid)) : Prop where
  stored : ∀ r ∈ k.store.payments, r.id ∈ k.issued
  hands : ∀ p ∈ k.hands, p.id ∈ k.issued
  given : ∀ (i : Nat) is, ids[i]? = some is → ∀ id ∈ is, id ∈ k.issued
  disjoint : ∀ (i j : Nat) is js, i ≠ j → ids[i]? = some is → ids[j]? = some js → ∀ id ∈ is, id ∉ js
  owned : ∀ p ∈ k.hands, ∀ (i : Nat) is, ids[i]? = some is → p.id ∈ is →
    k.store.findId? p.id ≠ none

/-- An initiation keeps its terms from now on. -/
def Keeps (e : Circumstances) (store : MemoryStore) (f : Flight) : Prop :=
  ∀ p, f.rest = some p →
    p.Meets (Initiation.terms e) (Initiation.Answered e f.command) ⟨store, f.ids⟩

/-- The ids that were handed out to the initiations. -/
def ids (s : Traffic) : List (List Uuid) :=
  s.flights.map (·.ids)

/-- Everything is in order, under some circumstances. -/
structure Orderly (e : Circumstances) (s : Traffic) : Prop where
  desk : s.desk.Sound
  cache : e.honest → s.cache.Keeps s.desk.store.Vouches
  flights : ∀ (i : Nat) f, s.flights[i]? = some f → Keeps e s.desk.store f
  works : e.sound → s.desk.store.outboxFails = false
  apart : e.sound → Apart s.desk s.ids

theorem orderly_empty (e : Circumstances) : Orderly e {} :=
  ⟨Desk.sound_empty, by simp [MemoryCache.Keeps], by simp, fun _ => rfl,
    fun _ => ⟨by simp, by simp, by simp [ids], by simp [ids], by simp⟩⟩

theorem vouches_mono {s t : MemoryStore} (h : s.Extends t) {key value : String}
    (hs : s.Vouches key value) : t.Vouches key value := by
  obtain ⟨receipt, hdecode, hholds⟩ := hs
  exact ⟨receipt, hdecode, h _ _ hholds⟩

/-- An initiation does not mind what others do. -/
theorem Keeps.drift {e : Circumstances} {s t : MemoryStore} {f : Flight} (h : Keeps e s f)
    (hextends : s.Extends t)
    (hfresh : e.sound → ∀ id ∈ f.ids, s.findId? id = none → t.findId? id = none) :
    Keeps e t f := by
  intro p hp
  exact (h p hp).drift (Initiation.stable_answered e f.command) ⟨hextends, rfl, hfresh⟩

/-- A new initiation keeps its terms. -/
theorem keeps_initiate (e : Circumstances) (store : MemoryStore) (c : InitiatePayment)
    (deadlines : Deadlines) : Keeps e store ⟨c, [], some (initiate c deadlines)⟩ := by
  rintro _ ⟨⟩
  exact meets_initiate e c deadlines _

theorem ids_goOn {s : Traffic} {i : Nat} {f : Flight} (hf : s.flights[i]? = some f)
    (rest : Option (Program (Except DomainError Receipt))) : (s.goOn i f rest).ids = s.ids := by
  unfold ids goOn
  have hids : (s.flights.map (·.ids))[i]? = some f.ids := by
    rw [List.getElem?_map, hf]
    rfl
  rw [List.map_set]
  exact set_of_getElem? hids

theorem ids_get {s : Traffic} {i : Nat} {f : Flight} (hf : s.flights[i]? = some f) :
    s.ids[i]? = some f.ids := by
  unfold ids
  rw [List.getElem?_map, hf]
  rfl

/-- An id that was not issued is not stored. -/
theorem Apart.findId?_eq_none {k : Desk} {ids : List (List Uuid)} (h : Apart k ids) {id : Uuid}
    (hid : id ∉ k.issued) : k.store.findId? id = none := by
  rw [MemoryStore.findId?_eq_none_iff]
  rintro r hr rfl
  exact hid (h.stored r hr)

/-! ### Deeds of holders -/

/-- A holder of payments leaves the ids of the initiations alone. -/
theorem Apart.perform {k : Desk} {ids : List (List Uuid)} (h : Apart k ids) (hk : k.Sound)
    {d : Deed} (hnodup : (k.perform d).issued.Nodup) : Apart (k.perform d) ids := by
  have houtcome := k.perform_outcome d
  have hgrows := houtcome.grows hk
  have hissued := houtcome.issued.subset
  have hhands : ∀ p ∈ (k.perform d).hands, p.id ∈ (k.perform d).issued := by
    intro p hp
    rcases houtcome.hand_id hp with ⟨q, hq, hid⟩ | hstored | hnew
    · exact hissued (hid ▸ h.hands q hq)
    · cases hfind : k.store.findId? p.id with
      | none => exact absurd hfind hstored
      | some r =>
        obtain ⟨hr, hid⟩ := MemoryStore.mem_of_findId? hfind
        exact hissued (hid ▸ h.stored r hr)
    · rw [hnew]
      exact List.mem_cons_self
  refine ⟨?_, hhands, ?_, h.disjoint, ?_⟩
  · -- An id that was not issued was neither stored nor in hand, so it is not stored now.
    intro r hr
    by_contra hid
    have hnone := h.findId?_eq_none fun hold => hid (hissued hold)
    have hfresh := houtcome.fresh hnone fun p hp heq => hid (hissued (heq ▸ h.hands p hp))
    exact MemoryStore.findId?_eq_none_iff.1 hfresh r hr rfl
  · exact fun i is his id hid => hissued (h.given i is his id hid)
  · intro p hp i is his hid
    rcases houtcome.hand_id hp with ⟨q, hq, heq⟩ | hstored | hnew
    · rw [← heq]
      exact hgrows.findId?_ne_none (h.owned q hq i is his (heq ▸ hid))
    · exact hgrows.findId?_ne_none hstored
    · -- The id of a new payment was not issued before, least of all to an initiation.
      rw [hnew] at hnodup
      exact absurd (h.given i is his _ hid) (List.nodup_cons.1 hnodup).1

/-! ### Steps of initiations -/

/-- An initiation that saves a payment under an id of its own leaves the ids of others alone. -/
theorem Apart.touched {k : Desk} {ids : List (List Uuid)} (h : Apart k ids) {c : StoreCall}
    {t : MemoryStore} (ht : k.store.Touched c t) (hgrows : k.store.Extends t) {i : Nat}
    {is : List Uuid} (hi : ids[i]? = some is) (hown : ∀ p, c = .save p → p.id ∈ is) :
    Apart { k with store := t } ids := by
  refine ⟨?_, h.hands, h.given, h.disjoint, ?_⟩
  · intro r hr
    by_contra hid
    have hnone := h.findId?_eq_none hid
    have hne : ∀ p, c = .save p → p.id ≠ r.id :=
      fun p hp heq => hid (heq ▸ h.given i is hi _ (hown p hp))
    exact MemoryStore.findId?_eq_none_iff.1 (ht.fresh hnone hne) r hr rfl
  · exact fun p hp j js hj hid => hgrows.findId?_ne_none (h.owned p hp j js hj hid)

/-- A fresh id may be handed out. -/
theorem Apart.issue {k : Desk} {ids : List (List Uuid)} (h : Apart k ids) {i : Nat}
    {is : List Uuid} (hi : ids[i]? = some is) {id : Uuid} (hfresh : id ∉ k.issued) :
    Apart { k with issued := id :: k.issued } (ids.set i (id :: is)) := by
  -- The fresh id was given to nobody before, so it is nobody else's now.
  have hothers {j : Nat} {js : List Uuid} (hj : ids[j]? = some js) : id ∉ js :=
    fun hid => hfresh (h.given j js hj id hid)
  refine ⟨fun r hr => List.mem_cons_of_mem _ (h.stored r hr),
    fun p hp => List.mem_cons_of_mem _ (h.hands p hp), ?_, ?_, ?_⟩
  · intro j js hj x hx
    rcases getElem?_set_cases hj with ⟨-, hj⟩ | ⟨rfl, rfl⟩
    · exact List.mem_cons_of_mem _ (h.given j js hj x hx)
    · rcases List.mem_cons.1 hx with rfl | hx
      · exact List.mem_cons_self
      · exact List.mem_cons_of_mem _ (h.given _ is hi x hx)
  · intro j l js ls hne hj hl x hx hx'
    rcases getElem?_set_cases hj with ⟨-, hj'⟩ | ⟨rfl, rfl⟩
    · rcases getElem?_set_cases hl with ⟨-, hl'⟩ | ⟨rfl, rfl⟩
      · exact h.disjoint j l js ls hne hj' hl' x hx hx'
      · rcases List.mem_cons.1 hx' with rfl | hx'
        · exact hothers hj' hx
        · exact h.disjoint j _ js is hne hj' hi x hx hx'
    · rcases getElem?_set_cases hl with ⟨-, hl'⟩ | ⟨rfl, -⟩
      · rcases List.mem_cons.1 hx with rfl | hx
        · exact hothers hl' hx'
        · exact h.disjoint _ l is ls hne hi hl' x hx hx'
      · exact hne rfl
  · intro p hp j js hj hid
    rcases getElem?_set_cases hj with ⟨-, hj⟩ | ⟨rfl, rfl⟩
    · exact h.owned p hp j js hj hid
    · rcases List.mem_cons.1 hid with heq | hid
      · exact absurd (heq ▸ h.hands p hp) hfresh
      · exact h.owned p hp _ is hi hid

theorem Apart.begin {k : Desk} {ids : List (List Uuid)} (h : Apart k ids) :
    Apart k (ids ++ [[]]) := by
  have hget {j : Nat} {js : List Uuid} {x : Uuid} (hj : (ids ++ [[]])[j]? = some js)
      (hx : x ∈ js) : ids[j]? = some js := by
    rcases getElem?_append_singleton hj with ⟨-, hj⟩ | ⟨-, rfl⟩
    · exact hj
    · exact absurd hx List.not_mem_nil
  refine ⟨h.stored, h.hands, ?_, ?_, ?_⟩
  · exact fun j js hj x hx => h.given j js (hget hj hx) x hx
  · exact fun j l js ls hne hj hl x hx hx' =>
      h.disjoint j l js ls hne (hget hj hx) (hget hl hx') x hx hx'
  · exact fun p hp j js hj hid => h.owned p hp j js (hget hj hid) hid

/-- An initiation may go on with whatever keeps its terms. -/
theorem Orderly.goOn {e : Circumstances} {s : Traffic} (h : Orderly e s) {i : Nat} {f : Flight}
    (hf : s.flights[i]? = some f) {rest : Option (Program (Except DomainError Receipt))}
    (hrest : Keeps e s.desk.store { f with rest }) : Orderly e (s.goOn i f rest) := by
  refine ⟨h.desk, h.cache, ?_, h.works, fun hsound => ids_goOn hf rest ▸ h.apart hsound⟩
  intro j g hg
  rcases getElem?_set_cases hg with ⟨-, hg⟩ | ⟨rfl, rfl⟩
  · exact h.flights j g hg
  · exact hrest

/-- What an initiation may do to the store with its next call. -/
theorem Orderly.touched {e : Circumstances} {s : Traffic} (h : Orderly e s) {i : Nat} {f : Flight}
    {limit : Span} {c : StoreCall} {next : Option c.Reply → Program (Except DomainError Receipt)}
    (hf : s.flights[i]? = some f) (hp : f.rest = some (.storeWithin limit c next))
    {t : MemoryStore} (ht : s.desk.store.Touched c t) :
    (∀ p, c = .save p → s.desk.store.Fits p) ∧ s.desk.store.Extends t := by
  obtain ⟨hallows, -⟩ := h.flights i f hf _ hp _ ((Initiation.terms e).drift_refl _)
  have hfits := Initiation.fits_of_allows hallows h.desk.store
  exact ⟨hfits, ht.grows h.desk.store hfits⟩

/-- An initiation may call the store, and go on with whatever keeps its terms then. -/
theorem Orderly.callStore {e : Circumstances} {s : Traffic} (h : Orderly e s) {i : Nat}
    {f : Flight} {limit : Span} {c : StoreCall}
    {next : Option c.Reply → Program (Except DomainError Receipt)}
    (hf : s.flights[i]? = some f) (hp : f.rest = some (.storeWithin limit c next))
    {t : MemoryStore} (ht : s.desk.store.Touched c t)
    {rest : Option (Program (Except DomainError Receipt))} (hrest : Keeps e t { f with rest }) :
    Orderly e ({ s with desk := { s.desk with store := t } }.goOn i f rest) := by
  obtain ⟨hallows, -⟩ := h.flights i f hf _ hp _ ((Initiation.terms e).drift_refl _)
  obtain ⟨hfits, hgrows⟩ := h.touched hf hp ht
  -- In sound circumstances, what is saved has an id of the initiation's own.
  have hown : e.sound → ∀ p, c = .save p → p.id ∈ f.ids := by
    rintro hs p rfl
    obtain ⟨d, id, now, rfl, hid⟩ := hallows
    exact (hid hs).1
  refine ⟨h.desk.touched ht hfits, ?_, ?_, ?_, ?_⟩
  · exact fun hh => (h.cache hh).mono fun _ _ => vouches_mono hgrows
  · intro j g hg
    rcases getElem?_set_cases hg with ⟨hne, hg⟩ | ⟨rfl, rfl⟩
    · refine (h.flights j g hg).drift hgrows ?_
      intro hs id hid hnone
      apply ht.fresh hnone
      rintro p hc rfl
      exact (h.apart hs).disjoint i j _ _ hne (ids_get hf) (ids_get hg) _ (hown hs p hc) hid
    · exact hrest
  · exact fun hs => ht.works.trans (h.works hs)
  · intro hs
    have hids : ({ s with desk := { s.desk with store := t } }.goOn i f rest).ids = s.ids :=
      ids_goOn (s := { s with desk := { s.desk with store := t } }) hf _
    rw [hids]
    exact (h.apart hs).touched ht hgrows (ids_get hf) (hown hs)

/-- An initiation may call the cache, and go on with whatever keeps its terms. -/
theorem Orderly.callCache {e : Circumstances} {s : Traffic} (h : Orderly e s) {i : Nat}
    {f : Flight} (hf : s.flights[i]? = some f) {m : MemoryCache}
    (hm : e.honest → m.Keeps s.desk.store.Vouches)
    {rest : Option (Program (Except DomainError Receipt))}
    (hrest : Keeps e s.desk.store { f with rest }) :
    Orderly e ({ s with cache := m }.goOn i f rest) := by
  have hs' : Orderly e { s with cache := m } := ⟨h.desk, hm, h.flights, h.works, h.apart⟩
  exact hs'.goOn hf hrest

/-- An initiation that was dropped has nothing left to keep. -/
theorem keeps_dropped (e : Circumstances) (store : MemoryStore) (f : Flight) :
    Keeps e store { f with rest := none } := by
  rintro _ ⟨⟩

/-! ### Steps -/

theorem Orderly.step {e : Circumstances} {s : Traffic} (h : Orderly e s) (a : Action)
    (hhonest : e.honest → a.Honest)
    (hsound : e.sound → a.Quiet ∧ (s.step a).desk.issued.Nodup) : Orderly e (s.step a) := by
  have heffect := s.step_effect a
  generalize s.step a = t at heffect hsound ⊢
  cases heffect with
  | idle => exact h
  | tick => exact ⟨h.desk, h.cache, h.flights, h.works, h.apart⟩
  | @deed d =>
    have houtcome := s.desk.perform_outcome d
    have hgrows := houtcome.grows h.desk
    refine ⟨h.desk.perform d, ?_, ?_, ?_, ?_⟩
    · exact fun hh => (h.cache hh).mono fun _ _ => vouches_mono hgrows
    · intro i f hf
      refine (h.flights i f hf).drift hgrows ?_
      intro hs id hid hnone
      -- What a holder has in hand under an id of the initiation is stored already.
      apply houtcome.fresh hnone
      rintro p hp rfl
      exact (h.apart hs).owned p hp i f.ids (ids_get hf) hid hnone
    · exact fun hs => (houtcome.works (hsound hs).1).trans (h.works hs)
    · exact fun hs => (h.apart hs).perform h.desk (hsound hs).2
  | @begun c deadlines =>
    refine ⟨h.desk, h.cache, ?_, h.works, ?_⟩
    · intro i f hf
      rcases getElem?_append_singleton hf with ⟨-, hf⟩ | ⟨-, rfl⟩
      · exact h.flights i f hf
      · exact keeps_initiate e _ c deadlines
    · intro hs
      have hids : ids { s with flights := s.flights ++ [⟨c, [], some (initiate c deadlines)⟩] }
          = s.ids ++ [[]] := List.map_append
      exact hids ▸ (h.apart hs).begin
  | @passed i f p q hf hp hopen hpass =>
    apply h.goOn hf
    rintro _ ⟨⟩
    exact hpass.meets (h.flights i f hf p hp)
  | @issued i f id next hf hp =>
    refine ⟨⟨h.desk.store, h.desk.hands⟩, h.cache, ?_, h.works, ?_⟩
    · intro j g hg
      rcases getElem?_set_cases hg with ⟨-, hg⟩ | ⟨rfl, rfl⟩
      · exact h.flights j g hg
      · rintro _ ⟨⟩
        have hmeets := h.flights _ f hf _ hp
        refine hmeets _ ((Initiation.terms e).drift_refl _) id _ ⟨rfl, ?_⟩
        intro hs
        exact (h.apart hs).findId?_eq_none (List.nodup_cons.1 (hsound hs).2).1
    · intro hs
      have hids : ids { s with
          desk := { s.desk with issued := id :: s.desk.issued }
          flights := s.flights.set i { f with ids := id :: f.ids, rest := some (next id) } }
          = s.ids.set i (id :: f.ids) := List.map_set
      rw [hids]
      exact (h.apart hs).issue (ids_get hf) (List.nodup_cons.1 (hsound hs).2).1
  | @stored i f fault limit c next store r hf hp hcall =>
    have hmeets := h.flights i f hf _ hp
    obtain ⟨hallows, hanswers⟩ := hmeets _ ((Initiation.terms e).drift_refl _)
    apply h.callStore hf hp (s.desk.store.touched_faulty hcall)
    intro q hq
    cases r with
    | none => cases hq
    | some r =>
      cases hq
      apply hanswers
      exact Initiation.answers_faulty hallows h.desk.store h.works (fun hs => (hsound hs).1) hcall
  | @cached i f fault limit c next cache r hf hp hcall =>
    have hmeets := h.flights i f hf _ hp
    obtain ⟨hallows, hanswers⟩ := hmeets _ ((Initiation.terms e).drift_refl _)
    apply h.callCache hf (Initiation.keeps_faulty h.cache hallows hcall)
    intro q hq
    cases r with
    | none => cases hq
    | some r =>
      cases hq
      exact hanswers r (Initiation.cacheAnswers_faulty h.cache hcall)
  | @forged i f r limit c next hf hp =>
    have hmeets := h.flights i f hf _ hp
    obtain ⟨-, hanswers⟩ := hmeets _ ((Initiation.terms e).drift_refl _)
    have hdishonest : ¬ e.honest := fun hh => hhonest hh
    apply h.goOn hf
    rintro _ ⟨⟩
    exact hanswers (r c) (Initiation.cacheAnswers_forged hdishonest c (r c))
  | @dropped i reached f hf hopen => exact h.goOn hf (keeps_dropped e _ f)
  | @leftStore i f limit c next hf hp =>
    exact h.callStore hf hp (s.desk.store.touched_handle c) (keeps_dropped e _ f)
  | @leftCache i f limit c next hf hp =>
    obtain ⟨hallows, -⟩ := h.flights i f hf _ hp _ ((Initiation.terms e).drift_refl _)
    exact h.callCache hf (Initiation.keeps_handle h.cache hallows _) (keeps_dropped e _ f)

theorem run_append (as bs : List Action) : run (as ++ bs) = bs.foldl step (run as) :=
  List.foldl_append

/-- The ids that were issued stay in the books. -/
theorem issued_step (s : Traffic) (a : Action) : s.desk.issued <:+ (s.step a).desk.issued := by
  have heffect := s.step_effect a
  generalize s.step a = t at heffect ⊢
  cases heffect with
  | deed => exact (s.desk.perform_outcome _).issued
  | issued => exact List.suffix_cons _ _
  | idle => exact List.suffix_rfl
  | tick => exact List.suffix_rfl
  | begun => exact List.suffix_rfl
  | passed => exact List.suffix_rfl
  | stored => exact List.suffix_rfl
  | cached => exact List.suffix_rfl
  | forged => exact List.suffix_rfl
  | dropped => exact List.suffix_rfl
  | leftStore => exact List.suffix_rfl
  | leftCache => exact List.suffix_rfl

/-- Everything stays in order throughout a run. -/
theorem orderly_run {e : Circumstances} {acts : List Action}
    (hhonest : e.honest → ∀ a ∈ acts, a.Honest)
    (hsound : e.sound → (∀ a ∈ acts, a.Quiet) ∧ (run acts).desk.issued.Nodup) :
    Orderly e (run acts) := by
  -- By induction on the run from its end. The ids are distinct before the last action, too, for
  -- it only adds to them.
  induction acts using List.reverseRecOn with
  | nil => exact orderly_empty e
  | append_singleton as a ih =>
    rw [run_append] at hsound ⊢
    have hlast : a ∈ as ++ [a] := List.mem_append_right _ (List.mem_singleton.2 rfl)
    have hinit : ∀ x ∈ as, x ∈ as ++ [a] := fun x hx => List.mem_append_left _ hx
    have hs : Orderly e (run as) := by
      refine ih (fun hh x hx => hhonest hh x (hinit x hx)) ?_
      intro hs
      obtain ⟨hquiet, hnodup⟩ := hsound hs
      refine ⟨fun x hx => hquiet x (hinit x hx), ?_⟩
      exact hnodup.sublist (issued_step _ a).sublist
    refine hs.step a (fun hh => hhonest hh a hlast) ?_
    exact fun hs => ⟨(hsound hs).1 a hlast, (hsound hs).2⟩

/-- The store is consistent throughout every run. -/
theorem orderly_anyhow (acts : List Action) : Orderly ⟨False, False⟩ (run acts) :=
  orderly_run (fun h => h.elim) (fun h => h.elim)

/-! ## What time does not take away -/

/-- All that an action can do to the payments in the store. -/
inductive StoreEffect (s : Traffic) (a : Action) (t : Traffic) : Prop
  | idle (hpayments : t.desk.store.payments = s.desk.store.payments)
  | deed {d : Deed} (ha : a = .deed d) (hdesk : t.desk = s.desk.perform d)
  /-- An initiation calls the store, or is dropped while it does so. -/
  | call {i : Nat} {f : Flight} {limit : Span} {c : StoreCall}
      {next : Option c.Reply → Program (Except DomainError Receipt)}
      (ha : (∃ fault, a = .store i fault) ∨ a = .drop i true) (hf : s.flights[i]? = some f)
      (hp : f.rest = some (.storeWithin limit c next))
      (htouched : s.desk.store.Touched c t.desk.store)

theorem step_storeEffect (s : Traffic) (a : Action) : s.StoreEffect a (s.step a) := by
  have heffect := s.step_effect a
  generalize s.step a = t at heffect ⊢
  cases heffect with
  | deed => exact .deed rfl rfl
  | @stored i f fault limit c next store r hf hp hcall =>
    exact .call (.inl ⟨fault, rfl⟩) hf hp (s.desk.store.touched_faulty hcall)
  | @leftStore i f limit c next hf hp =>
    exact .call (.inr rfl) hf hp (s.desk.store.touched_handle c)
  | idle => exact .idle rfl
  | tick => exact .idle rfl
  | begun => exact .idle rfl
  | passed => exact .idle rfl
  | issued => exact .idle rfl
  | cached => exact .idle rfl
  | forged => exact .idle rfl
  | dropped => exact .idle rfl
  | leftCache => exact .idle rfl

/-- Payments age. -/
theorem Orderly.ages {e : Circumstances} {s : Traffic} (h : Orderly e s) (a : Action) :
    s.desk.store.Ages (s.step a).desk.store := by
  cases s.step_storeEffect a with
  | idle hpayments => exact .of_payments hpayments
  | @deed d ha hdesk =>
    rw [hdesk]
    exact (s.desk.perform_outcome d).ages h.desk
  | call ha hf hp htouched => exact htouched.ages h.desk.store (h.touched hf hp htouched).1

/-- No payment leaves the store. -/
theorem Orderly.grows {e : Circumstances} {s : Traffic} (h : Orderly e s) (a : Action) :
    s.desk.store.Extends (s.step a).desk.store :=
  (h.ages a).extends

/-- An answer that was given stays given. -/
theorem answer_step {s : Traffic} {i : Nat} {f : Flight} (hf : s.flights[i]? = some f)
    {r : Except DomainError Receipt} (hanswer : f.answer = some r) (a : Action) :
    (s.step a).flights[i]? = some f := by
  -- Whoever makes a step has no answer yet, so it is somebody else.
  have hother {j : Nat} {g g' : Flight} (hg : s.flights[j]? = some g) (hopen : g.answer = none) :
      (s.flights.set j g')[i]? = some f := by
    have hne : j ≠ i := by
      rintro rfl
      cases hf.symm.trans hg
      rw [hopen] at hanswer
      cases hanswer
    rw [List.getElem?_set_ne hne]
    exact hf
  have hopen {g : Flight} {p : Program (Except DomainError Receipt)} (hp : g.rest = some p)
      (hnone : Flight.answer { g with rest := some p } = none) : g.answer = none := by
    rw [← hnone, ← hp]
  have heffect := s.step_effect a
  generalize s.step a = t at heffect ⊢
  cases heffect with
  | idle => exact hf
  | deed => exact hf
  | tick => exact hf
  | begun => exact (List.getElem?_append_left (List.getElem?_eq_some_iff.1 hf).1).trans hf
  | passed hg hp hnone => exact hother hg hnone
  | issued hg hp => exact hother hg (hopen hp rfl)
  | stored hg hp => exact hother hg (hopen hp rfl)
  | cached hg hp => exact hother hg (hopen hp rfl)
  | forged hg hp => exact hother hg (hopen hp rfl)
  | dropped hg hnone => exact hother hg hnone
  | leftStore hg hp => exact hother hg (hopen hp rfl)
  | leftCache hg hp => exact hother hg (hopen hp rfl)

theorem grows_run {as acts : List Action} (h : as <+: acts) :
    (run as).desk.store.Extends (run acts).desk.store := by
  obtain ⟨bs, rfl⟩ := h
  induction bs using List.reverseRecOn with
  | nil =>
    rw [List.append_nil]
    exact .refl _
  | append_singleton bs b ih =>
    rw [← List.append_assoc, run_append]
    exact ih.trans ((orderly_anyhow _).grows b)

theorem answer_run {as acts : List Action} (h : as <+: acts) {i : Nat} {f : Flight}
    (hf : (run as).flights[i]? = some f) {r : Except DomainError Receipt}
    (hanswer : f.answer = some r) : (run acts).flights[i]? = some f := by
  obtain ⟨bs, rfl⟩ := h
  induction bs using List.reverseRecOn with
  | nil =>
    rw [List.append_nil]
    exact hf
  | append_singleton bs b ih =>
    rw [← List.append_assoc, run_append]
    exact answer_step ih hanswer b

/-- An initiation that has ended has a good answer. -/
theorem Orderly.answered {e : Circumstances} {s : Traffic} (h : Orderly e s) {i : Nat}
    {f : Flight} (hf : s.flights[i]? = some f) {r : Except DomainError Receipt}
    (hanswer : f.answer = some r) :
    Initiation.Answered e f.command r ⟨s.desk.store, f.ids⟩ := by
  unfold Flight.answer at hanswer
  split at hanswer
  · next r' hrest =>
    cases hanswer
    exact h.flights i f hf _ hrest
  · cases hanswer

end PayOnce.Traffic
