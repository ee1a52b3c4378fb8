import PayOnce.Service.Program
/-!
What a program may rely on, and what it owes. A program runs beside others in one world: between any
two of its steps the world may drift, each of its calls must be allowed, and each answer brings what
the terms promise. A program meets a postcondition under some terms if every way through its tree
leads to a value that satisfies it.
-/

namespace PayOnce

/-- The terms on which a program runs in a world. -/
structure Terms (κ : Type) where
  /-- What others may do to the world between two steps. -/
  drift : κ → κ → Prop
  /-- The calls that the program may make to the store. -/
  allows : κ → StoreCall → Prop
  /-- The answers that the store may give, or fail to give, and the world afterwards. -/
  answers : κ → (c : StoreCall) → Option c.Reply → κ → Prop
  /-- The calls that the program may make to the cache. -/
  allowsCache : κ → CacheCall → Prop
  /-- The answers that the cache may give, or fail to give. -/
  cacheAnswers : κ → (c : CacheCall) → Option c.Reply → Prop
  /-- The ids that may be handed out, and the world afterwards. -/
  issues : κ → Uuid → κ → Prop
  drift_refl : ∀ w, drift w w
  drift_trans : ∀ u v w, drift u v → drift v w → drift u w

namespace Program

variable {α β κ : Type} {T : Terms κ}

/-- The program keeps the terms, and whatever it ends with satisfies a postcondition. -/
def Meets (T : Terms κ) (post : α → κ → Prop) : Program α → κ → Prop
  | done a, w => post a w
  | store c next, w => ∀ w', T.drift w w' →
    T.allows w' c ∧ ∀ r w'', T.answers w' c (some r) w'' → (next r).Meets T post w''
  | storeWithin _ c next, w => ∀ w', T.drift w w' →
    T.allows w' c ∧ ∀ r w'', T.answers w' c r w'' → (next r).Meets T post w''
  | cacheWithin _ c next, w => ∀ w', T.drift w w' →
    T.allowsCache w' c ∧ ∀ r, T.cacheAnswers w' c r → (next r).Meets T post w'
  | ask .paymentId next, w => ∀ w', T.drift w w' →
    ∀ id w'', T.issues w' id w'' → (next id).Meets T post w''
  | ask .now next, w => ∀ a, (next a).Meets T post w
  | ask .correlationId next, w => ∀ a, (next a).Meets T post w
  | ask .elapsed next, w => ∀ a, (next a).Meets T post w
  | signal _ next, w => next.Meets T post w
  | log _ next, w => next.Meets T post w
  | wait _ next, w => next.Meets T post w

/-! ## Rules for whole programs -/

/-- A fact about the world that no drift takes away. -/
def Stable (T : Terms κ) (Q : κ → Prop) : Prop :=
  ∀ w w', T.drift w w' → Q w → Q w'

/-- What a program meets it still meets after a drift. -/
theorem Meets.drift {post : α → κ → Prop} (hpost : ∀ a, Stable T (post a)) {p : Program α}
    {w w' : κ} (h : p.Meets T post w) (hdrift : T.drift w w') : p.Meets T post w' := by
  -- Only the end of a program has to be stable. Before a call or a new id there is room for a
  -- drift anyway, and the other steps do not look at the world.
  induction p generalizing w w' with
  | done a => exact hpost a w w' hdrift h
  | store c next ih =>
    intro v hv
    exact h v (T.drift_trans _ _ _ hdrift hv)
  | storeWithin limit c next ih =>
    intro v hv
    exact h v (T.drift_trans _ _ _ hdrift hv)
  | cacheWithin limit c next ih =>
    intro v hv
    exact h v (T.drift_trans _ _ _ hdrift hv)
  | ask q next ih =>
    cases q with
    | paymentId =>
      intro v hv
      exact h v (T.drift_trans _ _ _ hdrift hv)
    | now => exact fun a => ih a (h a) hdrift
    | correlationId => exact fun a => ih a (h a) hdrift
    | elapsed => exact fun a => ih a (h a) hdrift
  | signal s next ih => exact ih h hdrift
  | log e next ih => exact ih h hdrift
  | wait d next ih => exact ih h hdrift

/-- A program leads to a middle condition, and the program that it goes on with leads on from
    there. -/
theorem Meets.bind {mid : α → κ → Prop} {post : β → κ → Prop} {p : Program α}
    {f : α → Program β} {w : κ} (h : p.Meets T mid w)
    (hf : ∀ a w', mid a w' → (f a).Meets T post w') : (p >>= f).Meets T post w := by
  change (p.bind f).Meets T post w
  -- By induction on the first program; the second one is grafted onto its ends.
  induction p generalizing w with
  | done a => exact hf a w h
  | store c next ih =>
    intro v hv
    obtain ⟨hallows, hnext⟩ := h v hv
    exact ⟨hallows, fun r v' hr => ih r (hnext r v' hr)⟩
  | storeWithin limit c next ih =>
    intro v hv
    obtain ⟨hallows, hnext⟩ := h v hv
    exact ⟨hallows, fun r v' hr => ih r (hnext r v' hr)⟩
  | cacheWithin limit c next ih =>
    intro v hv
    obtain ⟨hallows, hnext⟩ := h v hv
    exact ⟨hallows, fun r hr => ih r (hnext r hr)⟩
  | ask q next ih =>
    cases q with
    | paymentId => exact fun v hv id v' hid => ih id (h v hv id v' hid)
    | now => exact fun a => ih a (h a)
    | correlationId => exact fun a => ih a (h a)
    | elapsed => exact fun a => ih a (h a)
  | signal s next ih => exact ih h
  | log e next ih => exact ih h
  | wait d next ih => exact ih h

/-- A weaker postcondition is met as well. -/
theorem Meets.mono {post post' : α → κ → Prop} {p : Program α} {w : κ} (h : p.Meets T post w)
    (hpost : ∀ a w', post a w' → post' a w') : p.Meets T post' w := by
  rw [← bind_pure p]
  exact h.bind hpost

/-- Only the log shows in which stretch of work a program runs. -/
theorem Meets.inSpan {post : α → κ → Prop} {p : Program α} {w : κ} (h : p.Meets T post w)
    (span : LogSpan) : (p.inSpan span).Meets T post w := by
  induction p generalizing w with
  | done a => exact h
  | store c next ih =>
    intro v hv
    obtain ⟨hallows, hnext⟩ := h v hv
    exact ⟨hallows, fun r v' hr => ih r (hnext r v' hr)⟩
  | storeWithin limit c next ih =>
    intro v hv
    obtain ⟨hallows, hnext⟩ := h v hv
    exact ⟨hallows, fun r v' hr => ih r (hnext r v' hr)⟩
  | cacheWithin limit c next ih =>
    intro v hv
    obtain ⟨hallows, hnext⟩ := h v hv
    exact ⟨hallows, fun r hr => ih r (hnext r hr)⟩
  | ask q next ih =>
    cases q with
    | paymentId => exact fun v hv id v' hid => ih id (h v hv id v' hid)
    | now => exact fun a => ih a (h a)
    | correlationId => exact fun a => ih a (h a)
    | elapsed => exact fun a => ih a (h a)
  | signal s next ih => exact ih h
  | log e next ih => exact ih h
  | wait d next ih => exact ih h

/-! ## Rules for single steps -/

section Steps

variable {post : α → κ → Prop} {w : κ}

@[simp] theorem meets_emit_bind {s : Signal} {f : Unit → Program α} :
    (emit s >>= f).Meets T post w ↔ (f ()).Meets T post w := .rfl

@[simp] theorem meets_report_bind {part : String} {level : Level} {message : String}
    {fields : Fields} {f : Unit → Program α} :
    (report part level message fields >>= f).Meets T post w ↔ (f ()).Meets T post w := .rfl

theorem meets_query_now_bind {f : Instant → Program α} :
    (query .now >>= f).Meets T post w ↔ ∀ now, (f now).Meets T post w := .rfl

theorem meets_query_paymentId_bind {f : Uuid → Program α} :
    (query .paymentId >>= f).Meets T post w ↔ ∀ w', T.drift w w' →
      ∀ id w'', T.issues w' id w'' → (f id).Meets T post w'' := .rfl

theorem meets_callStoreWithin_bind {limit : Span} {c : StoreCall}
    {f : Option c.Reply → Program α} :
    (callStoreWithin limit c >>= f).Meets T post w ↔ ∀ w', T.drift w w' →
      T.allows w' c ∧ ∀ r w'', T.answers w' c r w'' → (f r).Meets T post w'' := .rfl

theorem meets_callCacheWithin_bind {limit : Span} {c : CacheCall}
    {f : Option c.Reply → Program α} :
    (callCacheWithin limit c >>= f).Meets T post w ↔ ∀ w', T.drift w w' →
      T.allowsCache w' c ∧ ∀ r, T.cacheAnswers w' c r → (f r).Meets T post w' := .rfl

end Steps

end Program

end PayOnce
